/-
Xnumon/Depth.lean

The depth of the ancestor walk.  `config->ancestors` bounds the walk of
`logevt_process_image_exec_ancestors`, and `logevt_process` leaves the
`ancestors` list out when it is zero.  This module shows that the setting
does nothing else.  `Node.cutAncestors n` cuts every `ancestors` list of a
document to its first `n` items, and drops it for `n = 0`;
`ancestors_limit_cuts` says that a record written under a lower limit reads
back as the record written under a higher one, cut:

    a ≤ cfg.ancestors  →
      parseRecord (record { cfg with ancestors := a })
        = (parseRecord (record cfg)).map (Node.cutAncestors a.toNat)

for each of the six descriptor records.  The walk to a lower limit is the
start of the walk to a higher one (`leadingNodes_take`); the schemas of
`Xnumon.Schema` give no image or process context an `ancestors` key, so the
cut leaves them alone (`Schema.Admits.cutAncestors_eq`).
-/
import Xnumon.Redaction
import Xnumon.Parse

namespace Xnumon

/-! ### Cutting the ancestors lists -/

/-- The first `n` items of a list; any other document as it is. -/
def Node.takeItems (n : Nat) : Node → Node
  | .list es => .list (es.take n)
  | t => t

mutual
/-- Cut every `ancestors` list of a document to its first `n` items, and
drop it when `n` is zero. -/
def Node.cutAncestors (n : Nat) : Node → Node
  | .scalar v => .scalar v
  | .dict es => .dict (Node.cutEntries n es)
  | .list es => .list (Node.cutItems n es)

/-- `Node.cutAncestors` on the entries of a dictionary. -/
def Node.cutEntries (n : Nat) : List (String × Node) → List (String × Node)
  | [] => []
  | (k, v) :: es =>
    if k = "ancestors" then
      if n = 0 then Node.cutEntries n es else (k, v.takeItems n) :: Node.cutEntries n es
    else (k, v.cutAncestors n) :: Node.cutEntries n es

/-- `Node.cutAncestors` on the items of a list. -/
def Node.cutItems (n : Nat) : List (String × Node) → List (String × Node)
  | [] => []
  | (l, v) :: es => (l, v.cutAncestors n) :: Node.cutItems n es
end

section
variable (n : Nat)

@[simp] theorem cutAncestors_scalar (v : Scalar) : (Node.scalar v).cutAncestors n = .scalar v := by
  simp [Node.cutAncestors]

@[simp] theorem cutAncestors_dict (es : List (String × Node)) :
    (Node.dict es).cutAncestors n = .dict (Node.cutEntries n es) := by
  simp [Node.cutAncestors]

@[simp] theorem cutAncestors_list (es : List (String × Node)) :
    (Node.list es).cutAncestors n = .list (Node.cutItems n es) := by
  simp [Node.cutAncestors]

@[simp] theorem cutEntries_nil : Node.cutEntries n [] = [] := by simp [Node.cutEntries]

@[simp] theorem cutEntries_cons (k : String) (v : Node) (es : List (String × Node)) :
    Node.cutEntries n ((k, v) :: es)
      = if k = "ancestors" then
          (if n = 0 then Node.cutEntries n es else (k, v.takeItems n) :: Node.cutEntries n es)
        else (k, v.cutAncestors n) :: Node.cutEntries n es := by
  simp [Node.cutEntries]

theorem cutItems_eq_map (es : List (String × Node)) :
    Node.cutItems n es = es.map fun e => (e.1, e.2.cutAncestors n) := by
  induction es with
  | nil => simp [Node.cutItems]
  | cons e es ih => obtain ⟨l, v⟩ := e; simp [Node.cutItems, ih]

/-- Cutting a field that may be absent. -/
def cutOpt (o : Option Node) : Option Node := o.map (Node.cutAncestors n)

@[simp] theorem cutOpt_none : cutOpt n none = none := rfl

@[simp] theorem cutOpt_some (v : Node) : cutOpt n (some v) = some (v.cutAncestors n) := rfl

@[simp] theorem cutOpt_map {α : Type} (o : Option α) (g : α → Node) :
    cutOpt n (o.map g) = o.map fun a => (g a).cutAncestors n := by
  cases o <;> rfl

@[simp] theorem cutOpt_bind {α : Type} (o : Option α) (g : α → Option Node) :
    cutOpt n (o.bind g) = o.bind fun a => cutOpt n (g a) := by
  cases o <;> rfl

@[simp] theorem cutOpt_ite (c : Prop) [Decidable c] (o o' : Option Node) :
    cutOpt n (if c then o else o') = if c then cutOpt n o else cutOpt n o' :=
  apply_ite _ _ _ _

/-- A field table with its `ancestors` field cut, and the rest of it too. -/
def cutFields (fs : List (String × Option Node)) : List (String × Option Node) :=
  fs.map fun f => (f.1, if f.1 = "ancestors" then
    (if n = 0 then none else f.2.map (Node.takeItems n)) else cutOpt n f.2)

@[simp] theorem cutFields_nil : cutFields n [] = [] := rfl

@[simp] theorem cutFields_cons (k : String) (o : Option Node) (fs : List (String × Option Node)) :
    cutFields n ((k, o) :: fs)
      = (k, if k = "ancestors" then (if n = 0 then none else o.map (Node.takeItems n))
          else cutOpt n o) :: cutFields n fs := rfl

@[simp] theorem cutFields_append (fs fs' : List (String × Option Node)) :
    cutFields n (fs ++ fs') = cutFields n fs ++ cutFields n fs' :=
  List.map_append _ _ _

theorem cutAncestors_ofFields (fs : List (String × Option Node)) :
    (Node.ofFields fs).cutAncestors n = Node.ofFields (cutFields n fs) := by
  induction fs with
  | nil => rfl
  | cons f fs ih =>
    obtain ⟨k, _ | v⟩ := f <;> by_cases hk : k = "ancestors" <;> by_cases hn : n = 0 <;>
      simp_all [Node.ofFields, cutFields]

end

/-! ### What the cut leaves alone -/

section
variable {n : Nat}

theorem cutEntries_eq_self {es : List (String × Node)} (hk : ∀ e ∈ es, e.1 ≠ "ancestors")
    (hv : ∀ e ∈ es, e.2.cutAncestors n = e.2) : Node.cutEntries n es = es := by
  induction es with
  | nil => rfl
  | cons e es ih => obtain ⟨k, v⟩ := e; simp_all

/-- In a document of a schema that gives `ancestors` no place, the cut
changes nothing. -/
theorem Schema.Admits.cutAncestors_eq {σ : Schema} {t : Node} (h : σ.Admits t)
    (hσ : ∀ f ∈ σ.fields, f.1 ≠ "ancestors") : t.cutAncestors n = t := by
  induction h with
  | scalar v => rfl
  | dict fs es keys _ ih =>
    refine congrArg Node.dict (cutEntries_eq_self (fun e he => ?_) fun e he => ?_) <;>
      obtain ⟨s, hs⟩ := exists_field_of_keys keys he
    · exact hσ _ (mem_fieldsOf hs).1
    · exact ih e he s hs fun f hf => hσ f ((mem_fieldsOf hs).2 hf)
  | list label s es _ _ ih =>
    have hs : ∀ f ∈ s.fields, f.1 ≠ "ancestors" := by simpa [Schema.fields] using hσ
    rw [cutAncestors_list, cutItems_eq_map]
    exact congrArg Node.list (List.map_congr_left (fun e he => by rw [ih e he hs]) |>.trans
      (List.map_id' es))

end

section
variable (cfg : Config) (env : Extern) (H : Heap) (n : Nat)

@[simp] theorem cutAncestors_execNode (p : Ptr) :
    (execNode cfg env H p).cutAncestors n = execNode cfg env H p :=
  (admits_execNode cfg env H p).cutAncestors_eq (by decide)

@[simp] theorem cutAncestors_imageNode (ie : ImageExec) :
    (imageNode cfg env ie).cutAncestors n = imageNode cfg env ie :=
  (admits_imageNode cfg env ie).cutAncestors_eq (by decide)

@[simp] theorem cutAncestors_stringsNode (label : String) (xs : List String) :
    (stringsNode label xs).cutAncestors n = stringsNode label xs :=
  (admits_stringsNode label xs).cutAncestors_eq (by simp [Schema.fields])

@[simp] theorem cutAncestors_idValue (id : UInt32) : (idValue id).cutAncestors n = idValue id := by
  simp [idValue]

/-- The credential fields hold no `ancestors` key, and only scalars. -/
@[simp] theorem cutFields_credentialFields (full : Option AuditProc) :
    cutFields n (credentialFields cfg env full) = credentialFields cfg env full := by
  cases full <;> simp +decide [credentialFields, idFields, idName]

end

/-! ### A lower limit cuts the walk -/

theorem pos_iff_toNat_ne_zero (x : UInt64) : 0 < x ↔ x.toNat ≠ 0 := by
  rw [UInt64.lt_def, BitVec.lt_def]
  exact Nat.pos_iff_ne_zero

/-- The walk to `m` nodes is the start of the walk to `n ≥ m` nodes. -/
theorem leadingNodes_take (H : Heap) {m : Nat} :
    ∀ (pie : Option Ptr) (n : Nat), m ≤ n →
      (leadingNodes H pie n).take m = leadingNodes H pie m := by
  induction m with
  | zero => simp
  | succ m ih =>
    rintro (_ | p) (_ | n) h
    · omega
    · rfl
    · omega
    · by_cases hpos : 0 < (H.node p).pid
      · simp [leadingNodes, hpos, ih _ n (by omega)]
      · simp [leadingNodes, hpos]

section
variable (cfg : Config) (env : Extern) (H : Heap) {a : UInt64} (ha : a ≤ cfg.ancestors)
include ha

theorem takeItems_ancestorsNode (pie : Option Ptr) :
    (ancestorsNode cfg env H pie).takeItems a.toNat
      = ancestorsNode { cfg with ancestors := a } env H pie := by
  have hle : a.toNat ≤ cfg.ancestors.toNat := ha
  rw [ancestorsNode, ancestorsNode, Node.takeItems, ← List.map_take,
    leadingNodes_take H pie _ hle]
  rfl

theorem cutFields_processFields (process : Option AuditProc) (processpid : Int) (ie : Option Ptr) :
    cutFields a.toNat (processFields cfg env H process processpid ie)
      = processFields { cfg with ancestors := a } env H process processpid ie := by
  have hle : a.toNat ≤ cfg.ancestors.toNat := ha
  -- the `ancestors` field: absent at limit zero, the walk to `a` otherwise
  have hanc : (if a.toNat = 0 then none else (ie.bind fun p => if 0 < cfg.ancestors then
        some (ancestorsNode cfg env H (H.node p).prev) else none).map (Node.takeItems a.toNat))
      = ie.bind fun p => if 0 < a then
        some (ancestorsNode { cfg with ancestors := a } env H (H.node p).prev) else none := by
    by_cases h0 : a.toNat = 0
    · cases ie <;> simp [h0, pos_iff_toNat_ne_zero]
    · cases ie <;> simp [h0, pos_iff_toNat_ne_zero, takeItems_ancestorsNode cfg env H ha,
        show cfg.ancestors.toNat ≠ 0 by omega]
  simp +decide only [processFields, cutFields_append, cutFields_cons, cutFields_nil,
    cutFields_credentialFields, cutOpt_map, cutOpt_bind, cutOpt_ite, cutOpt_none, cutOpt_some,
    cutAncestors_scalar, cutAncestors_execNode, if_false, if_true, hanc]
  rfl

theorem cutAncestors_processNode (process : Option AuditProc) (processpid : Int) (ie : Option Ptr) :
    (processNode cfg env H process processpid ie).cutAncestors a.toNat
      = processNode { cfg with ancestors := a } env H process processpid ie := by
  rw [processNode, cutAncestors_ofFields, cutFields_processFields cfg env H ha]
  rfl

theorem cutFields_imageExecFields (p : Ptr) :
    cutFields a.toNat (imageExecFields cfg env H p)
      = imageExecFields { cfg with ancestors := a } env H p := by
  simp +decide only [imageExecFields, scalarFieldIf, cutFields_cons, cutFields_nil,
    cutOpt_ite, cutOpt_map, cutOpt_some, cutOpt_none, cutAncestors_scalar, cutAncestors_stringsNode,
    cutAncestors_imageNode, cutAncestors_processNode cfg env H ha, if_false]
  rfl

theorem cutFields_processAccessFields (pa : ProcessAccess) :
    cutFields a.toNat (processAccessFields cfg env H pa)
      = processAccessFields { cfg with ancestors := a } env H pa := by
  simp +decide only [processAccessFields, scalarField, cutFields_cons, cutFields_nil,
    cutOpt_some, cutAncestors_scalar, cutAncestors_processNode cfg env H ha, if_false]

theorem cutFields_launchdAddFields (ldadd : LaunchdAdd) :
    cutFields a.toNat (launchdAddFields cfg env H ldadd)
      = launchdAddFields { cfg with ancestors := a } env H ldadd := by
  simp +decide only [launchdAddFields, scalarField, cutFields_cons, cutFields_nil,
    cutOpt_ite, cutOpt_map, cutOpt_some, cutOpt_none, cutAncestors_scalar, cutAncestors_stringsNode,
    cutAncestors_ofFields, cutAncestors_processNode cfg env H ha, if_false]

theorem cutFields_socketFields (so : SocketListen) (peer : Option (Ipaddr × Nat)) :
    cutFields a.toNat (socketFields cfg env H so peer)
      = socketFields { cfg with ancestors := a } env H so peer := by
  simp +decide only [socketFields, scalarFieldIf, cutFields_cons, cutFields_nil,
    cutOpt_ite, cutOpt_map, cutOpt_some, cutOpt_none, cutAncestors_scalar,
    cutAncestors_processNode cfg env H ha, if_false]

end

/-! ### Records -/

theorem cutAncestors_recordNode (n : Nat) (env : Extern) (hdr : LogevtHeader)
    (fs : List (String × Option Node)) :
    (recordNode env hdr fs).cutAncestors n = recordNode env hdr (cutFields n fs) := by
  rw [recordNode, recordNode, cutAncestors_ofFields]
  simp +decide [cutFields, envelopeFields, scalarField]

/-- A record whose document cuts to the document of another reads back as
the first one, cut. -/
theorem parseRecord_cut {n : Nat} {env : Extern} {hdr : LogevtHeader}
    {fs fs' : List (String × Option Node)} (h : cutFields n fs = fs') :
    parseRecord (recordWord env.LOGEVT_VERSION hdr.tv hdr.code (presentFields fs'))
      = (parseRecord (recordWord env.LOGEVT_VERSION hdr.tv hdr.code (presentFields fs))).map
          (Node.cutAncestors n) := by
  rw [parseRecord_recordWord, parseRecord_recordWord, Option.map_some', cutAncestors_recordNode, h]

/-- **The ancestors limit only cuts.**  For every configuration, helpers,
heap and limit `a` at most `config->ancestors`, each of the six descriptor
records written with limit `a` reads back as the record written with
`config->ancestors`, with every `ancestors` list cut to its first `a` items,
and dropped when `a` is zero. -/
theorem ancestors_limit_cuts (cfg : Config) (env : Extern) (H : Heap) (a : UInt64)
    (ha : a ≤ cfg.ancestors) :
    (∀ p, parseRecord (logevtImageExec { cfg with ancestors := a } env H p)
      = (parseRecord (logevtImageExec cfg env H p)).map (Node.cutAncestors a.toNat)) ∧
    (∀ pa, parseRecord (logevtProcessAccess { cfg with ancestors := a } env H pa)
      = (parseRecord (logevtProcessAccess cfg env H pa)).map (Node.cutAncestors a.toNat)) ∧
    (∀ ldadd, parseRecord (logevtLaunchdAdd { cfg with ancestors := a } env H ldadd)
      = (parseRecord (logevtLaunchdAdd cfg env H ldadd)).map (Node.cutAncestors a.toNat)) ∧
    (∀ so, parseRecord (logevtSocketListen { cfg with ancestors := a } env H so)
      = (parseRecord (logevtSocketListen cfg env H so)).map (Node.cutAncestors a.toNat)) ∧
    (∀ so, parseRecord (logevtSocketAccept { cfg with ancestors := a } env H so)
      = (parseRecord (logevtSocketAccept cfg env H so)).map (Node.cutAncestors a.toNat)) ∧
    (∀ so, parseRecord (logevtSocketConnect { cfg with ancestors := a } env H so)
      = (parseRecord (logevtSocketConnect cfg env H so)).map (Node.cutAncestors a.toNat)) := by
  have hsock : ∀ so peer, parseRecord (logevtSocket { cfg with ancestors := a } env H so peer)
      = (parseRecord (logevtSocket cfg env H so peer)).map (Node.cutAncestors a.toNat) :=
    fun so peer => by
      rw [logevtSocket_eq, logevtSocket_eq]
      exact parseRecord_cut (cutFields_socketFields cfg env H ha so peer)
  refine ⟨fun p => ?_, fun pa => ?_, fun ldadd => ?_, fun so => hsock so none,
    fun so => hsock so.toSocketListen _, fun so => hsock so.toSocketListen _⟩
  · rw [logevtImageExec_eq, logevtImageExec_eq]
    exact parseRecord_cut (cutFields_imageExecFields cfg env H ha p)
  · rw [logevtProcessAccess_eq, logevtProcessAccess_eq]
    exact parseRecord_cut (cutFields_processAccessFields cfg env H ha pa)
  · rw [logevtLaunchdAdd_eq, logevtLaunchdAdd_eq]
    exact parseRecord_cut (cutFields_launchdAddFields cfg env H ha ldadd)

/-- One ancestor instead of two, on the cycle of `loopHeap`. -/
theorem ancestors_limit_cuts_loop :
    (1 : UInt64) ≤ twoAncestors.ancestors ∧
    parseRecord (logevtImageExec { twoAncestors with ancestors := 1 } plainExtern loopHeap 0)
      = (parseRecord (logevtImageExec twoAncestors plainExtern loopHeap 0)).map
          (Node.cutAncestors (1 : UInt64).toNat) :=
  ⟨by decide, (ancestors_limit_cuts twoAncestors plainExtern loopHeap 1 (by decide)).1 0⟩

end Xnumon
