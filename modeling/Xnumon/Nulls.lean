/-
Xnumon/Nulls.lean

Where the log writes null.  The design note of `logevt.c` reads "only use
null values for configuration, not for data", and the code keeps to it:
`value_null` is written in three places, all in the configuration dictionary
of the startup record (`logevt_xnumon_ops`), for an unset `id`, an unset
`logoneline` and an unset `logfile`.

`Node.nullFree` says that no scalar of a document is null, and
`null_mem_render_iff` ties it to the calls: a rendering holds `value_null`
exactly when its document is not null-free.  One lemma per field table shows
that the data tables hold no null; the configuration dictionary holds one
exactly where a setting is unset.  `nulls_only_in_configuration` puts these
together for the records: no record of the statistics, of an image
execution, a process access, a launchd registration or a socket holds a
`value_null` call; every `value_null` of the startup record is the value of
`id`, `logoneline` or `logfile`; and the startup record holds one exactly
when one of those is unset.
-/
import Xnumon.Redaction

namespace Xnumon

/-! ### Null-free documents -/

mutual
/-- No scalar of the document is null. -/
def Node.nullFree : Node → Bool
  | .scalar v => v != .null
  | .dict es => Node.entriesNullFree es
  | .list es => Node.entriesNullFree es

/-- `Node.nullFree` for every entry of a dictionary or a list. -/
def Node.entriesNullFree : List (String × Node) → Bool
  | [] => true
  | (_, v) :: es => v.nullFree && Node.entriesNullFree es
end

@[simp] theorem nullFree_scalar (v : Scalar) : (Node.scalar v).nullFree = (v != .null) := by
  simp [Node.nullFree]

theorem entriesNullFree_iff (es : List (String × Node)) :
    Node.entriesNullFree es = true ↔ ∀ e ∈ es, e.2.nullFree = true := by
  induction es with
  | nil => simp [Node.entriesNullFree]
  | cons e es ih => obtain ⟨k, v⟩ := e; simp [Node.entriesNullFree, ih]

@[simp] theorem nullFree_dict (es : List (String × Node)) :
    (Node.dict es).nullFree = true ↔ ∀ e ∈ es, e.2.nullFree = true := by
  simp [Node.nullFree, entriesNullFree_iff]

@[simp] theorem nullFree_list (es : List (String × Node)) :
    (Node.list es).nullFree = true ↔ ∀ e ∈ es, e.2.nullFree = true := by
  simp [Node.nullFree, entriesNullFree_iff]

mutual
/-- **A rendering holds `value_null` exactly when its document holds a null
scalar.** -/
theorem null_mem_render_iff : ∀ t : Node, Call.value .null ∈ t.render ↔ t.nullFree = false
  | .scalar v => by cases v <;> simp
  | .dict es => by
    simp [Node.nullFree, null_mem_renderEntries_iff .dictItem (fun _ => Call.noConfusion) es]
  | .list es => by
    simp [Node.nullFree, null_mem_renderEntries_iff .listItem (fun _ => Call.noConfusion) es]

theorem null_mem_renderEntries_iff (item : String → Call)
    (hitem : ∀ k, item k ≠ .value .null) :
    ∀ es : List (String × Node),
      Call.value .null ∈ Node.renderEntries item es ↔ Node.entriesNullFree es = false
  | [] => by simp [Node.entriesNullFree]
  | (k, v) :: es => by
    rcases hv : v.nullFree <;>
      simp [Node.entriesNullFree, Ne.symm (hitem k), null_mem_render_iff v,
        null_mem_renderEntries_iff item hitem es, hv]
end

/-- A field that may be absent holds no null. -/
def Node.NullFreeOpt : Option Node → Prop
  | none => True
  | some v => v.nullFree = true

@[simp] theorem nullFreeOpt_none : Node.NullFreeOpt none := trivial

@[simp] theorem nullFreeOpt_some (v : Node) : Node.NullFreeOpt (some v) ↔ v.nullFree = true :=
  Iff.rfl

@[simp] theorem nullFreeOpt_map {α : Type} (o : Option α) (g : α → Node) :
    Node.NullFreeOpt (o.map g) ↔ ∀ a, o = some a → (g a).nullFree = true := by
  cases o <;> simp [Node.NullFreeOpt]

@[simp] theorem nullFreeOpt_bind {α : Type} (o : Option α) (g : α → Option Node) :
    Node.NullFreeOpt (o.bind g) ↔ ∀ a, o = some a → Node.NullFreeOpt (g a) := by
  cases o <;> simp [Node.NullFreeOpt]

@[simp] theorem nullFreeOpt_ite (c : Prop) [Decidable c] (o o' : Option Node) :
    Node.NullFreeOpt (if c then o else o')
      ↔ (c → Node.NullFreeOpt o) ∧ (¬c → Node.NullFreeOpt o') := by
  split_ifs with h <;> simp [h]

/-- Every present field of a table is null-free. -/
def Node.FieldsNullFree (fs : List (String × Option Node)) : Prop :=
  ∀ f ∈ fs, Node.NullFreeOpt f.2

@[simp] theorem fieldsNullFree_nil : Node.FieldsNullFree [] :=
  fun _ h => (List.not_mem_nil _ h).elim

@[simp] theorem fieldsNullFree_cons (k : String) (o : Option Node)
    (fs : List (String × Option Node)) :
    Node.FieldsNullFree ((k, o) :: fs) ↔ Node.NullFreeOpt o ∧ Node.FieldsNullFree fs := by
  simp [Node.FieldsNullFree]

@[simp] theorem fieldsNullFree_append (fs fs' : List (String × Option Node)) :
    Node.FieldsNullFree (fs ++ fs') ↔ Node.FieldsNullFree fs ∧ Node.FieldsNullFree fs' := by
  simp [Node.FieldsNullFree, or_imp, forall_and]

/-- A table's dictionary is null-free when every present field is. -/
@[simp] theorem nullFree_ofFields (fs : List (String × Option Node)) :
    (Node.ofFields fs).nullFree = true ↔ Node.FieldsNullFree fs := by
  simp only [Node.ofFields, nullFree_dict, Node.FieldsNullFree, Prod.forall, mem_presentFields]
  refine ⟨fun h k o hko => ?_, fun h k v hkv => h k (some v) hkv⟩
  cases o
  · trivial
  · exact h k _ hko

theorem fieldsNullFree_scalarFields (kvs : List (String × Scalar)) :
    Node.FieldsNullFree (scalarFields kvs) ↔ ∀ kv ∈ kvs, kv.2 ≠ .null := by
  simp only [Node.FieldsNullFree, scalarFields, List.forall_mem_map, scalarField, nullFreeOpt_some,
    nullFree_scalar, bne_iff_ne, ne_eq]

@[simp] theorem fieldsNullFree_counterFields (kvs : List (String × Nat)) :
    Node.FieldsNullFree (counterFields kvs) := by
  rw [counterFields, fieldsNullFree_scalarFields, List.forall_mem_map]
  simp

/-- Deleting the keys `ks` from a table of scalars leaves no null exactly when
every null of the table is under a key of `ks`. -/
theorem fieldsNullFree_pruneFields_scalarFields (ks : List String) (kvs : List (String × Scalar)) :
    Node.FieldsNullFree (pruneFields ks (scalarFields kvs))
      ↔ ∀ kv ∈ kvs, kv.1 ∉ ks → kv.2 ≠ .null := by
  simp only [Node.FieldsNullFree, pruneFields, scalarFields, List.map_map, List.forall_mem_map,
    Function.comp_def, scalarField, pruneOpt_some, prune_scalar]
  refine forall₂_congr fun kv _ => ?_
  by_cases h : kv.1 ∈ ks <;> simp [h]

/-! ### The data tables hold no null -/

section
variable (cfg : Config) (env : Extern) (H : Heap)

@[simp] theorem nullFree_idValue (id : UInt32) : (idValue id).nullFree = true := by
  unfold idValue; split <;> rfl

@[simp] theorem nullFree_stringsNode (label : String) (xs : List String) :
    (stringsNode label xs).nullFree = true := by
  simp [stringsNode]

@[simp] theorem nullFree_execNode (p : Ptr) : (execNode cfg env H p).nullFree = true := by
  simp [execNode, execFields, hashFields, scalarFieldIf, scalarField, scriptNode]

@[simp] theorem nullFree_ancestorsNode (pie : Option Ptr) :
    (ancestorsNode cfg env H pie).nullFree = true := by
  simp [ancestorsNode]

@[simp] theorem nullFree_imageNode (ie : ImageExec) : (imageNode cfg env ie).nullFree = true := by
  simp [imageNode, imageFields, idFields, idName, hashFields, signatureFields, scalarField,
    scalarFieldIf]

@[simp] theorem nullFree_processNode (process : Option AuditProc) (processpid : Int)
    (ie : Option Ptr) : (processNode cfg env H process processpid ie).nullFree = true := by
  simp [processNode, processFields, credentialFields, idFields, idName]

/-- The envelope holds no null, so a record is null-free when its body is. -/
theorem nullFree_recordNode (hdr : LogevtHeader) (fs : List (String × Option Node)) :
    (recordNode env hdr fs).nullFree = true ↔ (Node.ofFields fs).nullFree = true := by
  simp [recordNode, envelopeFields, scalarField]

@[simp] theorem nullFree_eventsNode (lq : LogQueueStat) : (eventsNode env lq).nullFree = true := by
  simp [eventsNode]

@[simp] theorem nullFree_counterDict (kvs : List (String × Nat)) :
    (counterDict kvs).nullFree = true := by
  simp [counterDict]

end

/-! ### The records -/

section
variable (cfg : Config) (env : Extern) (H : Heap)

theorem nullFree_statsRecord (st : EvtloopStat) :
    (recordNode env st.hdr (statsFields env st)).nullFree = true := by
  simp [nullFree_recordNode, statsFields]

theorem nullFree_imageExecRecord (p : Ptr) :
    (recordNode env (H.node p).hdr (imageExecFields cfg env H p)).nullFree = true := by
  simp [nullFree_recordNode, imageExecFields, scalarFieldIf]

theorem nullFree_processAccessRecord (pa : ProcessAccess) :
    (recordNode env pa.hdr (processAccessFields cfg env H pa)).nullFree = true := by
  simp [nullFree_recordNode, processAccessFields, scalarField]

theorem nullFree_launchdAddRecord (ldadd : LaunchdAdd) :
    (recordNode env ldadd.hdr (launchdAddFields cfg env H ldadd)).nullFree = true := by
  simp [nullFree_recordNode, launchdAddFields, scalarField]

theorem nullFree_socketRecord (so : SocketListen) (peer : Option (Ipaddr × Nat)) :
    (recordNode env so.hdr (socketFields cfg env H so peer)).nullFree = true := by
  simp [nullFree_recordNode, socketFields, scalarFieldIf, Option.filter]

end

/-! ### The configuration dictionary -/

theorem pruneFields_cons (ks : List String) (k : String) (o : Option Node)
    (fs : List (String × Option Node)) :
    pruneFields ks ((k, o) :: fs)
      = (k, if k ∈ ks then none else pruneOpt ks o) :: pruneFields ks fs :=
  rfl

theorem pruneFields_nil (ks : List String) : pruneFields ks [] = [] := rfl

section
variable (cfg : Config) (env : Extern)

theorem ancestors_ne_null :
    (if cfg.ancestors < SIZE_MAX then Scalar.uint cfg.ancestors.toNat else .string "unlimited")
      ≠ .null := by
  split <;> simp

/-- The configuration dictionary holds a null exactly when `id`,
`logoneline` or `logfile` is unset. -/
theorem opsConfigItems_ne_null_iff :
    (∀ kv ∈ opsConfigItems cfg env, kv.2 ≠ .null)
      ↔ cfg.id ≠ none ∧ cfg.logoneline ≠ -1 ∧ cfg.logfile ≠ none := by
  simp only [opsConfigItems, List.forall_mem_cons, ne_eq, reduceCtorEq, not_false_eq_true,
    ancestors_ne_null, true_and]
  rcases cfg.id with _ | id <;> rcases cfg.logfile with _ | f <;>
    by_cases hl : cfg.logoneline = -1 <;> simp [hl]

/-- Every null of the configuration dictionary is the value of `id`,
`logoneline` or `logfile`. -/
theorem opsConfigItems_null_keys :
    ∀ kv ∈ opsConfigItems cfg env,
      kv.1 ∉ ["id", "logoneline", "logfile"] → kv.2 ≠ .null := by
  simp only [opsConfigItems, List.forall_mem_cons, ne_eq, reduceCtorEq, not_false_eq_true,
    implies_true, ancestors_ne_null, true_and]
  exact ⟨fun h => (h (by simp)).elim, fun h => (h (by simp)).elim, fun h => (h (by simp)).elim,
    fun _ h => (List.not_mem_nil _ h).elim⟩

theorem nullFree_opsRecord_iff (ops : XnumonOps) :
    (recordNode env ops.hdr (opsFields cfg env ops)).nullFree = true
      ↔ cfg.id ≠ none ∧ cfg.logoneline ≠ -1 ∧ cfg.logfile ≠ none := by
  simp only [nullFree_recordNode, opsFields, nullFree_ofFields, fieldsNullFree_cons,
    fieldsNullFree_nil, nullFreeOpt_some, fieldsNullFree_scalarFields, opsConfigItems_ne_null_iff,
    scalarField, and_true]
  simp [opsBuildItems, opsSystemItems]

/-- With the three configuration entries deleted, the startup record holds
no null. -/
theorem nullFree_prune_opsRecord (ops : XnumonOps) :
    ((recordNode env ops.hdr (opsFields cfg env ops)).prune
      ["id", "logoneline", "logfile"]).nullFree = true := by
  rw [recordNode, prune_ofFields, pruneFields_envelope (by decide), nullFree_ofFields,
    fieldsNullFree_append]
  refine ⟨by simp [envelopeFields, scalarField], ?_⟩
  simp +decide only [opsFields, scalarField, pruneFields_cons, pruneFields_nil, fieldsNullFree_cons,
    fieldsNullFree_nil, if_false, pruneOpt_some, prune_ofFields, prune_scalar, nullFreeOpt_some,
    nullFree_ofFields, fieldsNullFree_pruneFields_scalarFields, and_true]
  exact ⟨by simp, by simp [opsBuildItems], opsConfigItems_null_keys cfg env,
    by simp [opsSystemItems]⟩

end

/-! ### The records -/

theorem null_mem_record_iff (t : Node) :
    Call.value .null ∈ (.recordBegin :: t.render ++ [.recordEnd]) ↔ t.nullFree = false := by
  simp [null_mem_render_iff]

/-- **Null is written for configuration only.**  For every configuration,
heap and helpers: no record of the statistics, of an image execution, a
process access, a launchd registration or a socket holds a `value_null`
call; every `value_null` of the startup record is the value of `id`,
`logoneline` or `logfile` (deleting those entries leaves none); and the
startup record holds one exactly when one of the three is unset. -/
theorem nulls_only_in_configuration (cfg : Config) (env : Extern) (H : Heap) :
    (∀ st, Call.value .null ∉ logevtXnumonStats env st) ∧
    (∀ p, Call.value .null ∉ logevtImageExec cfg env H p) ∧
    (∀ pa, Call.value .null ∉ logevtProcessAccess cfg env H pa) ∧
    (∀ ldadd, Call.value .null ∉ logevtLaunchdAdd cfg env H ldadd) ∧
    (∀ so, Call.value .null ∉ logevtSocketListen cfg env H so) ∧
    (∀ so, Call.value .null ∉ logevtSocketAccept cfg env H so) ∧
    (∀ so, Call.value .null ∉ logevtSocketConnect cfg env H so) ∧
    (∀ ops, Call.value .null
      ∉ deleteKeyed ["id", "logoneline", "logfile"] (logevtXnumonOps cfg env ops)) ∧
    (∀ ops, Call.value .null ∈ logevtXnumonOps cfg env ops
      ↔ cfg.id = none ∨ cfg.logoneline = -1 ∨ cfg.logfile = none) := by
  have hrec : ∀ {t : Node}, t.nullFree = true →
      Call.value .null ∉ (.recordBegin :: t.render ++ [.recordEnd]) := fun h hm => by
    rw [null_mem_record_iff, h] at hm; cases hm
  refine ⟨fun st => ?_, fun p => ?_, fun pa => ?_, fun ldadd => ?_, fun so => ?_, fun so => ?_,
    fun so => ?_, fun ops => ?_, fun ops => ?_⟩
  · rw [logevtXnumonStats_eq, recordWord_recordNode]; exact hrec (nullFree_statsRecord env st)
  · rw [logevtImageExec_eq, recordWord_recordNode]
    exact hrec (nullFree_imageExecRecord cfg env H p)
  · rw [logevtProcessAccess_eq, recordWord_recordNode]
    exact hrec (nullFree_processAccessRecord cfg env H pa)
  · rw [logevtLaunchdAdd_eq, recordWord_recordNode]
    exact hrec (nullFree_launchdAddRecord cfg env H ldadd)
  · rw [logevtSocketListen, logevtSocket_eq, recordWord_recordNode]
    exact hrec (nullFree_socketRecord cfg env H so none)
  · rw [logevtSocketAccept, logevtSocket_eq, recordWord_recordNode]
    exact hrec (nullFree_socketRecord cfg env H _ _)
  · rw [logevtSocketConnect, logevtSocket_eq, recordWord_recordNode]
    exact hrec (nullFree_socketRecord cfg env H _ _)
  · rw [logevtXnumonOps_eq, recordWord_recordNode,
      deleteKeyed_record (admits_opsRecord cfg env ops) (by decide)]
    exact hrec (nullFree_prune_opsRecord cfg env ops)
  · rw [logevtXnumonOps_eq, recordWord_recordNode, null_mem_record_iff, ← Bool.not_eq_true,
      nullFree_opsRecord_iff]
    tauto

end Xnumon
