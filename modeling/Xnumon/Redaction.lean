/-
Xnumon/Redaction.lean

The redaction switches.  Seven `omit_*` switches and `resolve_users_groups`
decide whether some fields are written at all.  The policy says that turning a
switch to its suppressing position removes the fields it governs and nothing
else; here that is `redaction`: for each of the six descriptor serializers,
the calls written with the switch suppressing are the calls written with the
switch emitting, less every `dict_item` of a governed key together with the
one value call after it (`deleteKeyed`), at every depth.

`Switch`, `Switch.set`, `Switch.governs` and `deleteKeyed` are written from
the policy's words; everything they are compared with comes from the code.

Design.  The proof moves to documents.  `Node.prune` removes the governed
entries of every dictionary of a document, and `deleteKeyed_render` says that
deleting calls from a rendering is rendering the pruned document, for every
document whose schema gives a governed key only scalars.  The schemas of
`Xnumon.Schema` supply that side condition, and the fact that pruning leaves
the process-context renderings alone.  What remains is one lemma per field
table: pruning the table written with the switch emitting gives the table
written with it suppressing.
-/
import Xnumon.Schema

namespace Xnumon

/-! ### The policy -/

/-- The switches of the redaction policy. -/
inductive Switch where
  | omit_mode
  | omit_size
  | omit_mtime
  | omit_ctime
  | omit_btime
  | omit_sid
  | omit_groups
  | resolve_users_groups
deriving DecidableEq, Repr

/-- `X.set true cfg` puts the switch `X` of `cfg` in its suppressing position
(an `omit_*` switch set, `resolve_users_groups` cleared), `X.set false cfg` in
its emitting position; all else is `cfg`'s. -/
def Switch.set : Switch → Bool → Config → Config
  | .omit_mode, b, cfg => { cfg with omit_mode := b }
  | .omit_size, b, cfg => { cfg with omit_size := b }
  | .omit_mtime, b, cfg => { cfg with omit_mtime := b }
  | .omit_ctime, b, cfg => { cfg with omit_ctime := b }
  | .omit_btime, b, cfg => { cfg with omit_btime := b }
  | .omit_sid, b, cfg => { cfg with omit_sid := b }
  | .omit_groups, b, cfg => { cfg with omit_groups := b }
  | .resolve_users_groups, b, cfg => { cfg with resolve_users_groups := !b }

/-- The keys each switch governs. -/
def Switch.governs : Switch → List String
  | .omit_mode => ["mode"]
  | .omit_size => ["size"]
  | .omit_mtime => ["mtime"]
  | .omit_ctime => ["ctime"]
  | .omit_btime => ["btime"]
  | .omit_sid => ["sid"]
  | .omit_groups => ["gid", "gname", "egid", "egname", "rgid", "rgname"]
  | .resolve_users_groups => ["uname", "gname", "auname", "euname", "egname", "runame", "rgname"]

/-- Every switch of `Xs` in position `b`. -/
def Switch.setAll (Xs : List Switch) (b : Bool) (cfg : Config) : Config :=
  Xs.foldr (fun X c => X.set b c) cfg

@[simp] theorem Switch.setAll_cons (X : Switch) (Xs : List Switch) (b : Bool) (cfg : Config) :
    Switch.setAll (X :: Xs) b cfg = X.set b (Switch.setAll Xs b cfg) := rfl

theorem Switch.set_comm {X Y : Switch} (h : X ≠ Y) (b b' : Bool) (cfg : Config) :
    X.set b (Y.set b' cfg) = Y.set b' (X.set b cfg) := by
  cases X <;> cases Y <;> first | exact absurd rfl h | rfl

theorem Switch.set_set (X : Switch) (b b' : Bool) (cfg : Config) :
    X.set b (X.set b' cfg) = X.set b cfg := by
  cases X <;> rfl

theorem Switch.set_setAll_of_not_mem {X : Switch} {Xs : List Switch} (h : X ∉ Xs) (b b' : Bool)
    (cfg : Config) : X.set b (Switch.setAll Xs b' cfg) = Switch.setAll Xs b' (X.set b cfg) := by
  induction Xs with
  | nil => rfl
  | cons Y Ys ih =>
    simp only [List.mem_cons, not_or] at h
    rw [Switch.setAll_cons, Switch.setAll_cons, Switch.set_comm h.1, ih h.2]

theorem Switch.set_setAll_of_mem {X : Switch} {Xs : List Switch} (h : X ∈ Xs) (b : Bool)
    (cfg : Config) : X.set b (Switch.setAll Xs b cfg) = Switch.setAll Xs b cfg := by
  induction Xs with
  | nil => cases h
  | cons Y Ys ih =>
    rw [Switch.setAll_cons]
    by_cases hXY : X = Y
    · subst hXY
      exact Switch.set_set X b b _
    · rw [Switch.set_comm hXY, ih ((List.mem_cons.1 h).resolve_left hXY)]

/-- Delete every `dict_item` of a key in `ks`, together with the call that
follows it. -/
def deleteKeyed (ks : List String) : List Call → List Call
  | .dictItem k :: tl@(_ :: rest) =>
    if k ∈ ks then deleteKeyed ks rest else .dictItem k :: deleteKeyed ks tl
  | c :: rest => c :: deleteKeyed ks rest
  | [] => []

section
variable (ks : List String)

@[simp] theorem deleteKeyed_nil : deleteKeyed ks [] = [] := by simp [deleteKeyed]

theorem deleteKeyed_dictItem_mem {k : String} (h : k ∈ ks) (c : Call) (rest : List Call) :
    deleteKeyed ks (.dictItem k :: c :: rest) = deleteKeyed ks rest := by
  simp [deleteKeyed, h]

theorem deleteKeyed_dictItem_not_mem {k : String} (h : k ∉ ks) (rest : List Call) :
    deleteKeyed ks (.dictItem k :: rest) = .dictItem k :: deleteKeyed ks rest := by
  cases rest <;> simp [deleteKeyed, h]

/-- Every call but a `dict_item` is kept. -/
theorem deleteKeyed_cons (c : Call) (hc : ∀ k, c ≠ .dictItem k) (rest : List Call) :
    deleteKeyed ks (c :: rest) = c :: deleteKeyed ks rest := by
  cases c <;> first | exact absurd rfl (hc _) | simp [deleteKeyed]

end

/-! ### Pruning documents -/

mutual
/-- Remove the entries whose key is in `ks` from every dictionary. -/
def Node.prune (ks : List String) : Node → Node
  | .scalar v => .scalar v
  | .dict es => .dict (Node.pruneEntries ks es)
  | .list es => .list (Node.pruneItems ks es)

/-- `Node.prune` on the entries of a dictionary. -/
def Node.pruneEntries (ks : List String) : List (String × Node) → List (String × Node)
  | [] => []
  | (k, v) :: es =>
    if k ∈ ks then Node.pruneEntries ks es else (k, v.prune ks) :: Node.pruneEntries ks es

/-- `Node.prune` on the items of a list. -/
def Node.pruneItems (ks : List String) : List (String × Node) → List (String × Node)
  | [] => []
  | (l, v) :: es => (l, v.prune ks) :: Node.pruneItems ks es
end

section
variable (ks : List String)

@[simp] theorem prune_scalar (v : Scalar) : (Node.scalar v).prune ks = .scalar v := by
  simp [Node.prune]

@[simp] theorem prune_dict (es : List (String × Node)) :
    (Node.dict es).prune ks = .dict (Node.pruneEntries ks es) := by
  simp [Node.prune]

@[simp] theorem prune_list (es : List (String × Node)) :
    (Node.list es).prune ks = .list (Node.pruneItems ks es) := by
  simp [Node.prune]

@[simp] theorem pruneEntries_nil : Node.pruneEntries ks [] = [] := by simp [Node.pruneEntries]

@[simp] theorem pruneEntries_cons (k : String) (v : Node) (es : List (String × Node)) :
    Node.pruneEntries ks ((k, v) :: es)
      = if k ∈ ks then Node.pruneEntries ks es else (k, v.prune ks) :: Node.pruneEntries ks es := by
  simp [Node.pruneEntries]

@[simp] theorem pruneItems_nil : Node.pruneItems ks [] = [] := by simp [Node.pruneItems]

@[simp] theorem pruneItems_cons (l : String) (v : Node) (es : List (String × Node)) :
    Node.pruneItems ks ((l, v) :: es) = (l, v.prune ks) :: Node.pruneItems ks es := by
  simp [Node.pruneItems]

theorem pruneItems_eq_map (es : List (String × Node)) :
    Node.pruneItems ks es = es.map fun e => (e.1, e.2.prune ks) := by
  induction es with
  | nil => rfl
  | cons e es ih => obtain ⟨l, v⟩ := e; simp [ih]

end

mutual
/-- Pruning by `ks` and then by `ks'` is pruning by any list with the keys
of both. -/
theorem prune_prune (ks ks' ks'' : List String) (h : ∀ k, k ∈ ks'' ↔ k ∈ ks ∨ k ∈ ks') :
    ∀ t : Node, (t.prune ks).prune ks' = t.prune ks''
  | .scalar _ => by simp
  | .dict es => by simp [pruneEntries_prune ks ks' ks'' h es]
  | .list es => by simp [pruneItems_prune ks ks' ks'' h es]

theorem pruneEntries_prune (ks ks' ks'' : List String) (h : ∀ k, k ∈ ks'' ↔ k ∈ ks ∨ k ∈ ks') :
    ∀ es : List (String × Node),
      Node.pruneEntries ks' (Node.pruneEntries ks es) = Node.pruneEntries ks'' es
  | [] => by simp
  | (k, v) :: es => by
    have hk := h k
    by_cases h1 : k ∈ ks <;> by_cases h2 : k ∈ ks' <;>
      simp_all [prune_prune ks ks' ks'' h v, pruneEntries_prune ks ks' ks'' h es]

theorem pruneItems_prune (ks ks' ks'' : List String) (h : ∀ k, k ∈ ks'' ↔ k ∈ ks ∨ k ∈ ks') :
    ∀ es : List (String × Node),
      Node.pruneItems ks' (Node.pruneItems ks es) = Node.pruneItems ks'' es
  | [] => by simp
  | (l, v) :: es => by simp [prune_prune ks ks' ks'' h v, pruneItems_prune ks ks' ks'' h es]
end

section
variable (ks : List String)

/-- Pruning a field that may be absent. -/
def pruneOpt (o : Option Node) : Option Node := o.map (Node.prune ks)

@[simp] theorem pruneOpt_none : pruneOpt ks none = none := rfl

@[simp] theorem pruneOpt_some (v : Node) : pruneOpt ks (some v) = some (v.prune ks) := rfl

@[simp] theorem pruneOpt_map {α : Type} (o : Option α) (g : α → Node) :
    pruneOpt ks (o.map g) = o.map fun a => (g a).prune ks := by
  cases o <;> rfl

@[simp] theorem pruneOpt_bind {α : Type} (o : Option α) (g : α → Option Node) :
    pruneOpt ks (o.bind g) = o.bind fun a => pruneOpt ks (g a) := by
  cases o <;> rfl

@[simp] theorem pruneOpt_ite (c : Prop) [Decidable c] (o o' : Option Node) :
    pruneOpt ks (if c then o else o') = if c then pruneOpt ks o else pruneOpt ks o' :=
  apply_ite _ _ _ _

/-- A field table with the fields of keys in `ks` made absent, and the rest
pruned. -/
def pruneFields (fs : List (String × Option Node)) : List (String × Option Node) :=
  fs.map fun f => (f.1, if f.1 ∈ ks then none else pruneOpt ks f.2)

theorem prune_ofFields (fs : List (String × Option Node)) :
    (Node.ofFields fs).prune ks = Node.ofFields (pruneFields ks fs) := by
  induction fs with
  | nil => rfl
  | cons f fs ih =>
    obtain ⟨k, _ | v⟩ := f <;> by_cases hk : k ∈ ks <;>
      simp_all [Node.ofFields, pruneFields]

end

/-! ### Deleting calls is pruning documents -/

mutual
/-- Every key of every dictionary position of a schema, with the shape its
value has there. -/
def Schema.fields : Schema → List (String × Schema)
  | .scalar => []
  | .dict fs => Schema.fieldsOf fs
  | .list _ s => s.fields

/-- `Schema.fields` for the fields of one dictionary position. -/
def Schema.fieldsOf : List (String × Schema) → List (String × Schema)
  | [] => []
  | (k, s) :: fs => (k, s) :: s.fields ++ Schema.fieldsOf fs
end

/-- Whether a shape is a scalar. -/
def Schema.isScalar : Schema → Bool
  | .scalar => true
  | _ => false

theorem mem_fieldsOf {fs : List (String × Schema)} {k : String} {s : Schema} (h : (k, s) ∈ fs) :
    (k, s) ∈ Schema.fieldsOf fs ∧ s.fields ⊆ Schema.fieldsOf fs := by
  induction fs with
  | nil => cases h
  | cons g fs ih =>
    obtain ⟨k', s'⟩ := g
    simp only [Schema.fieldsOf]
    rcases List.mem_cons.1 h with h | h
    · cases h
      exact ⟨List.mem_cons_self _ _, fun f hf => List.mem_cons_of_mem _ (List.mem_append_left _ hf)⟩
    · obtain ⟨h1, h2⟩ := ih h
      exact ⟨List.mem_cons_of_mem _ (List.mem_append_right _ h1),
        fun f hf => List.mem_cons_of_mem _ (List.mem_append_right _ (h2 hf))⟩

/-- Every key of an admitted dictionary has a place in its schema. -/
theorem exists_field_of_keys {fs : List (String × Schema)} {es : List (String × Node)}
    (keys : List.Sublist (es.map Prod.fst) (fs.map Prod.fst)) {e : String × Node} (he : e ∈ es) :
    ∃ s, (e.1, s) ∈ fs := by
  obtain ⟨f, hf, hfe⟩ := List.mem_map.1 (keys.subset (List.mem_map_of_mem Prod.fst he))
  exact ⟨f.2, hfe ▸ hf⟩

section
variable {ks : List String}

theorem pruneEntries_eq_self {es : List (String × Node)} (hk : ∀ e ∈ es, e.1 ∉ ks)
    (hv : ∀ e ∈ es, e.2.prune ks = e.2) : Node.pruneEntries ks es = es := by
  induction es with
  | nil => rfl
  | cons e es ih => obtain ⟨k, v⟩ := e; simp_all

/-- In a document of a schema that gives no key of `ks` a place, pruning
removes nothing. -/
theorem Schema.Admits.prune_eq {σ : Schema} {t : Node} (h : σ.Admits t)
    (hσ : ∀ f ∈ σ.fields, f.1 ∉ ks) : t.prune ks = t := by
  induction h with
  | scalar v => rfl
  | dict fs es keys _ ih =>
    refine congrArg Node.dict (pruneEntries_eq_self (fun e he => ?_) fun e he => ?_) <;>
      obtain ⟨s, hs⟩ := exists_field_of_keys keys he
    · exact hσ _ (mem_fieldsOf hs).1
    · exact ih e he s hs fun f hf => hσ f ((mem_fieldsOf hs).2 hf)
  | list label s es _ _ ih =>
    have hs : ∀ f ∈ s.fields, f.1 ∉ ks := by simpa [Schema.fields] using hσ
    simp only [prune_list, pruneItems_eq_map]
    exact congrArg Node.list (List.map_congr_left (fun e he => by rw [ih e he hs]) |>.trans
      (List.map_id' es))

/-- In a document of the scalar shape, the value is one scalar. -/
theorem Schema.Admits.eq_scalar {t : Node} (h : Schema.scalar.Admits t) : ∃ v, t = .scalar v := by
  cases h with
  | scalar v => exact ⟨v, rfl⟩

theorem deleteKeyed_renderEntries_dict {es : List (String × Node)}
    (hgov : ∀ e ∈ es, e.1 ∈ ks → ∃ x, e.2 = .scalar x)
    (hval : ∀ e ∈ es, ∀ rest, deleteKeyed ks (e.2.render ++ rest)
      = (e.2.prune ks).render ++ deleteKeyed ks rest) (rest : List Call) :
    deleteKeyed ks (Node.renderEntries .dictItem es ++ rest)
      = Node.renderEntries .dictItem (Node.pruneEntries ks es) ++ deleteKeyed ks rest := by
  induction es with
  | nil => simp
  | cons e es ih =>
    obtain ⟨k, v⟩ := e
    have ih := ih (fun e he => hgov e (List.mem_cons_of_mem _ he))
      fun e he => hval e (List.mem_cons_of_mem _ he)
    by_cases hk : k ∈ ks
    · obtain ⟨x, rfl⟩ := hgov _ (List.mem_cons_self _ _) hk
      simpa [deleteKeyed_dictItem_mem _ hk, hk] using ih
    · simp [deleteKeyed_dictItem_not_mem _ hk, hk, hval _ (List.mem_cons_self _ _), ih]

theorem deleteKeyed_renderEntries_list {es : List (String × Node)}
    (hval : ∀ e ∈ es, ∀ rest, deleteKeyed ks (e.2.render ++ rest)
      = (e.2.prune ks).render ++ deleteKeyed ks rest) (rest : List Call) :
    deleteKeyed ks (Node.renderEntries .listItem es ++ rest)
      = Node.renderEntries .listItem (Node.pruneItems ks es) ++ deleteKeyed ks rest := by
  induction es with
  | nil => simp
  | cons e es ih =>
    obtain ⟨l, v⟩ := e
    simp [deleteKeyed_cons ks (.listItem l) (by simp), hval _ (List.mem_cons_self _ _),
      ih fun e he => hval e (List.mem_cons_of_mem _ he)]

/-- **Deleting the calls of governed keys from a rendering renders the pruned
document**, when the schema gives every key of `ks` a scalar. -/
theorem deleteKeyed_render {σ : Schema} {t : Node} (h : σ.Admits t)
    (hσ : ∀ f ∈ σ.fields, f.1 ∈ ks → f.2.isScalar = true) (rest : List Call) :
    deleteKeyed ks (t.render ++ rest) = (t.prune ks).render ++ deleteKeyed ks rest := by
  induction h generalizing rest with
  | scalar v => simp [deleteKeyed_cons ks (.value v) (by simp)]
  | dict fs es keys vals ih =>
    have hgov : ∀ e ∈ es, e.1 ∈ ks → ∃ x, e.2 = .scalar x := fun e he hk => by
      obtain ⟨s, hs⟩ := exists_field_of_keys keys he
      have hsc : s.isScalar = true := hσ _ (mem_fieldsOf hs).1 hk
      cases s <;> simp [Schema.isScalar] at hsc
      exact (vals e he _ hs).eq_scalar
    have hval : ∀ e ∈ es, ∀ rest, deleteKeyed ks (e.2.render ++ rest)
        = (e.2.prune ks).render ++ deleteKeyed ks rest := fun e he => by
      obtain ⟨s, hs⟩ := exists_field_of_keys keys he
      exact ih e he s hs fun f hf => hσ f ((mem_fieldsOf hs).2 hf)
    simp [deleteKeyed_cons ks .dictBegin (by simp), deleteKeyed_renderEntries_dict hgov hval,
      deleteKeyed_cons ks .dictEnd (by simp)]
  | list label s es _ _ ih =>
    have hs : ∀ f ∈ s.fields, f.1 ∈ ks → f.2.isScalar = true := by
      simpa [Schema.fields] using hσ
    simp [deleteKeyed_cons ks .listBegin (by simp),
      deleteKeyed_renderEntries_list fun e he => ih e he hs, deleteKeyed_cons ks .listEnd (by simp)]

example : deleteKeyed ["mode"]
    (Node.dict [("path", .scalar (.string "/bin/ls")), ("mode", .scalar (.uintOct 493))]).render
      = (Node.dict [("path", .scalar (.string "/bin/ls"))]).render := by simp [deleteKeyed]

end

/-! ### The switches on the field tables -/

section
variable (X : Switch) (cfg : Config) (env : Extern) (H : Heap)

/-- The process-context rendering reads no switch. -/
@[simp] theorem execNode_set (b : Bool) (p : Ptr) :
    execNode (X.set b cfg) env H p = execNode cfg env H p := by
  cases X <;> rfl

@[simp] theorem ancestorsNode_set (b : Bool) (pie : Option Ptr) :
    ancestorsNode (X.set b cfg) env H pie = ancestorsNode cfg env H pie := by
  cases X <;> rfl

/-- The process-context rendering holds no governed key. -/
@[simp] theorem prune_execNode (p : Ptr) :
    (execNode cfg env H p).prune X.governs = execNode cfg env H p :=
  (admits_execNode cfg env H p).prune_eq (by cases X <;> decide)

@[simp] theorem prune_ancestorsNode (pie : Option Ptr) :
    (ancestorsNode cfg env H pie).prune X.governs = ancestorsNode cfg env H pie :=
  (admits_ancestorsNode cfg env H pie).prune_eq (by cases X <;> decide)

@[simp] theorem prune_stringsNode (ks : List String) (label : String) (xs : List String) :
    (stringsNode label xs).prune ks = stringsNode label xs :=
  (admits_stringsNode label xs).prune_eq (by simp [Schema.fields])

@[simp] theorem prune_idValue (ks : List String) (id : UInt32) :
    (idValue id).prune ks = idValue id := by
  simp [idValue]

theorem pruneFields_imageFields (ie : ImageExec) :
    pruneFields X.governs (imageFields (X.set false cfg) env ie)
      = imageFields (X.set true cfg) env ie := by
  cases X <;> simp [pruneFields, imageFields, Switch.governs, Switch.set, idFields, idName,
    hashFields, signatureFields, scalarField, scalarFieldIf, hashesShown]

theorem prune_imageNode (ie : ImageExec) :
    (imageNode (X.set false cfg) env ie).prune X.governs = imageNode (X.set true cfg) env ie := by
  rw [imageNode, prune_ofFields, pruneFields_imageFields]
  rfl

theorem pruneFields_processFields (process : Option AuditProc) (processpid : Int)
    (ie : Option Ptr) :
    pruneFields X.governs (processFields (X.set false cfg) env H process processpid ie)
      = processFields (X.set true cfg) env H process processpid ie := by
  simp only [pruneFields, processFields, credentialFields, idFields, List.map_append,
    List.map_cons, List.map_nil,
    pruneOpt_map, pruneOpt_bind, pruneOpt_ite, pruneOpt_none, pruneOpt_some, prune_idValue,
    prune_execNode, prune_ancestorsNode, execNode_set, ancestorsNode_set]
  cases X <;> simp [Switch.governs, Switch.set, idName, fullProcess]

theorem prune_processNode (process : Option AuditProc) (processpid : Int) (ie : Option Ptr) :
    (processNode (X.set false cfg) env H process processpid ie).prune X.governs
      = processNode (X.set true cfg) env H process processpid ie := by
  rw [processNode, prune_ofFields, pruneFields_processFields]
  rfl

theorem pruneFields_imageExecFields (p : Ptr) :
    pruneFields X.governs (imageExecFields (X.set false cfg) env H p)
      = imageExecFields (X.set true cfg) env H p := by
  simp only [pruneFields, imageExecFields, scalarFieldIf, List.map_cons, List.map_nil, pruneOpt_ite,
    pruneOpt_map, pruneOpt_some, pruneOpt_none, prune_scalar, prune_stringsNode, prune_imageNode,
    prune_processNode]
  cases X <;> simp [Switch.governs]

theorem pruneFields_processAccessFields (pa : ProcessAccess) :
    pruneFields X.governs (processAccessFields (X.set false cfg) env H pa)
      = processAccessFields (X.set true cfg) env H pa := by
  simp only [pruneFields, processAccessFields, scalarField, List.map_cons, List.map_nil,
    pruneOpt_some, prune_scalar, prune_processNode]
  cases X <;> simp [Switch.governs]

theorem pruneFields_launchdAddFields (ldadd : LaunchdAdd) :
    pruneFields X.governs (launchdAddFields (X.set false cfg) env H ldadd)
      = launchdAddFields (X.set true cfg) env H ldadd := by
  simp only [pruneFields, launchdAddFields, scalarField, List.map_cons, List.map_nil, pruneOpt_ite,
    pruneOpt_map, pruneOpt_some, pruneOpt_none, prune_scalar, prune_stringsNode, prune_ofFields,
    prune_processNode]
  cases X <;> simp [Switch.governs, pruneFields]

theorem pruneFields_socketFields (so : SocketListen) (peer : Option (Ipaddr × Nat)) :
    pruneFields X.governs (socketFields (X.set false cfg) env H so peer)
      = socketFields (X.set true cfg) env H so peer := by
  simp only [pruneFields, socketFields, scalarFieldIf, List.map_cons, List.map_nil, pruneOpt_ite,
    pruneOpt_map, pruneOpt_some, pruneOpt_none, prune_scalar, prune_processNode]
  cases X <;> simp [Switch.governs]

end

/-! ### Records -/

/-- The envelope keys are governed by no switch. -/
theorem envelope_not_governed (Xs : List Switch) :
    ∀ k ∈ ["version", "time", "eventcode"], k ∉ Xs.flatMap Switch.governs := by
  intro k hk hmem
  obtain ⟨X, -, hX⟩ := List.mem_flatMap.1 hmem
  simp only [List.mem_cons, List.mem_singleton, List.not_mem_nil, or_false] at hk
  rcases hk with rfl | rfl | rfl <;> cases X <;> simp [Switch.governs] at hX

theorem pruneFields_envelope {ks : List String}
    (henv : ∀ k ∈ ["version", "time", "eventcode"], k ∉ ks) (env : Extern) (hdr : LogevtHeader)
    (fs : List (String × Option Node)) :
    pruneFields ks (envelopeFields env hdr ++ fs)
      = envelopeFields env hdr ++ pruneFields ks fs := by
  simp [pruneFields, envelopeFields, scalarField, henv "version", henv "time", henv "eventcode"]

/-- A schema that gives every key a switch governs a scalar gives every key
of any set of switches a scalar. -/
theorem scalarAt_flatMap {σ : Schema}
    (hσ : ∀ X : Switch, ∀ f ∈ σ.fields, f.1 ∈ X.governs → f.2.isScalar = true) (Xs : List Switch) :
    ∀ f ∈ σ.fields, f.1 ∈ Xs.flatMap Switch.governs → f.2.isScalar = true := fun f hf hk => by
  obtain ⟨X, -, hX⟩ := List.mem_flatMap.1 hk
  exact hσ X f hf hX

/-- Deleting the calls of keys `ks` from a record deletes the entries of
those keys from its document, when the schema gives those keys only
scalars. -/
theorem deleteKeyed_record {σ : Schema} {ks : List String} {t : Node} (hadm : σ.Admits t)
    (hσ : ∀ f ∈ σ.fields, f.1 ∈ ks → f.2.isScalar = true) :
    deleteKeyed ks (.recordBegin :: t.render ++ [.recordEnd])
      = .recordBegin :: (t.prune ks).render ++ [.recordEnd] := by
  rw [List.cons_append, List.cons_append, deleteKeyed_cons _ .recordBegin (by simp),
    deleteKeyed_render hadm hσ, deleteKeyed_cons _ .recordEnd (by simp), deleteKeyed_nil]

/-- **Switches do not interact.**  For a field table `T` in which each switch
alone removes the keys it governs, any set of switches together removes the
keys any of them governs. -/
theorem prune_recordNode_setAll {σ : Schema} {T : Config → List (String × Option Node)}
    {env : Extern} {hdr : LogevtHeader}
    (hT : ∀ (X : Switch) (cfg : Config),
      pruneFields X.governs (T (X.set false cfg)) = T (X.set true cfg))
    (hadm : ∀ cfg, σ.Admits (recordNode env hdr (T cfg))) (Xs : List Switch) (cfg : Config) :
    (recordNode env hdr (T (Switch.setAll Xs false cfg))).prune (Xs.flatMap Switch.governs)
      = recordNode env hdr (T (Switch.setAll Xs true cfg)) := by
  have hrec : ∀ (X : Switch) (cfg : Config),
      (recordNode env hdr (T (X.set false cfg))).prune X.governs
        = recordNode env hdr (T (X.set true cfg)) := fun X cfg => by
    rw [recordNode, prune_ofFields, pruneFields_envelope (by simpa using envelope_not_governed [X]),
      hT]
    rfl
  induction Xs generalizing cfg with
  | nil => exact (hadm _).prune_eq (by simp)
  | cons X Xs ih =>
    -- first the keys of the other switches, then those of the head switch
    rw [Switch.setAll_cons, Switch.setAll_cons, List.flatMap_cons,
      ← prune_prune (Xs.flatMap Switch.governs) X.governs _
        (fun k => by rw [List.mem_append, or_comm])]
    by_cases hX : X ∈ Xs
    · have hsub : ∀ k, k ∈ X.governs → k ∈ Xs.flatMap Switch.governs :=
        fun k hk => List.mem_flatMap.2 ⟨X, hX, hk⟩
      rw [Switch.set_setAll_of_mem hX, Switch.set_setAll_of_mem hX,
        prune_prune _ X.governs _ (fun k => ⟨.inl, fun h => h.elim id (hsub k)⟩), ih]
    · rw [Switch.set_setAll_of_not_mem hX, ih, ← Switch.set_setAll_of_not_mem hX, hrec]

section
variable (Xs : List Switch) (cfg : Config) (env : Extern) (H : Heap)

theorem logevtImageExec_redactAll (p : Ptr) :
    logevtImageExec (Switch.setAll Xs true cfg) env H p
      = deleteKeyed (Xs.flatMap Switch.governs)
          (logevtImageExec (Switch.setAll Xs false cfg) env H p) := by
  rw [logevtImageExec_eq, logevtImageExec_eq, recordWord_recordNode, recordWord_recordNode,
    deleteKeyed_record (admits_imageExecRecord _ env H p)
      (scalarAt_flatMap (fun X => by cases X <;> decide) Xs),
    prune_recordNode_setAll (fun X cfg => pruneFields_imageExecFields X cfg env H p)
      (fun cfg => admits_imageExecRecord cfg env H p)]

theorem logevtProcessAccess_redactAll (pa : ProcessAccess) :
    logevtProcessAccess (Switch.setAll Xs true cfg) env H pa
      = deleteKeyed (Xs.flatMap Switch.governs)
          (logevtProcessAccess (Switch.setAll Xs false cfg) env H pa) := by
  rw [logevtProcessAccess_eq, logevtProcessAccess_eq, recordWord_recordNode, recordWord_recordNode,
    deleteKeyed_record (admits_processAccessRecord _ env H pa)
      (scalarAt_flatMap (fun X => by cases X <;> decide) Xs),
    prune_recordNode_setAll (fun X cfg => pruneFields_processAccessFields X cfg env H pa)
      (fun cfg => admits_processAccessRecord cfg env H pa)]

theorem logevtLaunchdAdd_redactAll (ldadd : LaunchdAdd) :
    logevtLaunchdAdd (Switch.setAll Xs true cfg) env H ldadd
      = deleteKeyed (Xs.flatMap Switch.governs)
          (logevtLaunchdAdd (Switch.setAll Xs false cfg) env H ldadd) := by
  rw [logevtLaunchdAdd_eq, logevtLaunchdAdd_eq, recordWord_recordNode, recordWord_recordNode,
    deleteKeyed_record (admits_launchdAddRecord _ env H ldadd)
      (scalarAt_flatMap (fun X => by cases X <;> decide) Xs),
    prune_recordNode_setAll (fun X cfg => pruneFields_launchdAddFields X cfg env H ldadd)
      (fun cfg => admits_launchdAddRecord cfg env H ldadd)]

theorem logevtSocket_redactAll (so : SocketListen) (peer : Option (Ipaddr × Nat)) :
    logevtSocket (Switch.setAll Xs true cfg) env H so peer
      = deleteKeyed (Xs.flatMap Switch.governs)
          (logevtSocket (Switch.setAll Xs false cfg) env H so peer) := by
  rw [logevtSocket_eq, logevtSocket_eq, recordWord_recordNode, recordWord_recordNode,
    deleteKeyed_record (admits_socketRecord _ env H so peer)
      (scalarAt_flatMap (fun X => by cases X <;> decide) Xs),
    prune_recordNode_setAll (fun X cfg => pruneFields_socketFields X cfg env H so peer)
      (fun cfg => admits_socketRecord cfg env H so peer)]

end

/-- One switch is the one-element set of switches. -/
theorem setAll_singleton (X : Switch) (b : Bool) (cfg : Config) :
    Switch.setAll [X] b cfg = X.set b cfg := rfl

/-- **A redaction switch removes exactly the fields it governs.**  For every
switch, configuration, heap, descriptor and name service, each of the six
descriptor serializers run with the switch suppressing writes the calls it
writes with the switch emitting, less each `dict_item` of a governed key and
the value after it, at every depth; no other call moves. -/
theorem redaction_deletes_governed (X : Switch) (cfg : Config) (env : Extern) (H : Heap) :
    (∀ p, logevtImageExec (X.set true cfg) env H p
      = deleteKeyed X.governs (logevtImageExec (X.set false cfg) env H p)) ∧
    (∀ pa, logevtProcessAccess (X.set true cfg) env H pa
      = deleteKeyed X.governs (logevtProcessAccess (X.set false cfg) env H pa)) ∧
    (∀ ldadd, logevtLaunchdAdd (X.set true cfg) env H ldadd
      = deleteKeyed X.governs (logevtLaunchdAdd (X.set false cfg) env H ldadd)) ∧
    (∀ so, logevtSocketListen (X.set true cfg) env H so
      = deleteKeyed X.governs (logevtSocketListen (X.set false cfg) env H so)) ∧
    (∀ so, logevtSocketAccept (X.set true cfg) env H so
      = deleteKeyed X.governs (logevtSocketAccept (X.set false cfg) env H so)) ∧
    (∀ so, logevtSocketConnect (X.set true cfg) env H so
      = deleteKeyed X.governs (logevtSocketConnect (X.set false cfg) env H so)) := by
  have hX : [X].flatMap Switch.governs = X.governs := by simp
  simp only [← setAll_singleton, ← hX]
  exact ⟨logevtImageExec_redactAll [X] cfg env H, logevtProcessAccess_redactAll [X] cfg env H,
    logevtLaunchdAdd_redactAll [X] cfg env H, fun so => logevtSocket_redactAll [X] cfg env H so _,
    fun so => logevtSocket_redactAll [X] cfg env H so.toSocketListen _,
    fun so => logevtSocket_redactAll [X] cfg env H so.toSocketListen _⟩

/-- **Redaction switches compose.**  For any list of switches, each of the six
descriptor serializers run with all of them suppressing writes the calls it
writes with all of them emitting, less the calls of every key any of them
governs; the switches do not interact. -/
theorem redaction_switches_compose (Xs : List Switch) (cfg : Config) (env : Extern) (H : Heap) :
    (∀ p, logevtImageExec (Switch.setAll Xs true cfg) env H p
      = deleteKeyed (Xs.flatMap Switch.governs)
          (logevtImageExec (Switch.setAll Xs false cfg) env H p)) ∧
    (∀ pa, logevtProcessAccess (Switch.setAll Xs true cfg) env H pa
      = deleteKeyed (Xs.flatMap Switch.governs)
          (logevtProcessAccess (Switch.setAll Xs false cfg) env H pa)) ∧
    (∀ ldadd, logevtLaunchdAdd (Switch.setAll Xs true cfg) env H ldadd
      = deleteKeyed (Xs.flatMap Switch.governs)
          (logevtLaunchdAdd (Switch.setAll Xs false cfg) env H ldadd)) ∧
    (∀ so, logevtSocketListen (Switch.setAll Xs true cfg) env H so
      = deleteKeyed (Xs.flatMap Switch.governs)
          (logevtSocketListen (Switch.setAll Xs false cfg) env H so)) ∧
    (∀ so, logevtSocketAccept (Switch.setAll Xs true cfg) env H so
      = deleteKeyed (Xs.flatMap Switch.governs)
          (logevtSocketAccept (Switch.setAll Xs false cfg) env H so)) ∧
    (∀ so, logevtSocketConnect (Switch.setAll Xs true cfg) env H so
      = deleteKeyed (Xs.flatMap Switch.governs)
          (logevtSocketConnect (Switch.setAll Xs false cfg) env H so)) :=
  ⟨logevtImageExec_redactAll Xs cfg env H, logevtProcessAccess_redactAll Xs cfg env H,
    logevtLaunchdAdd_redactAll Xs cfg env H, fun so => logevtSocket_redactAll Xs cfg env H so _,
    fun so => logevtSocket_redactAll Xs cfg env H so.toSocketListen _,
    fun so => logevtSocket_redactAll Xs cfg env H so.toSocketListen _⟩

end Xnumon
