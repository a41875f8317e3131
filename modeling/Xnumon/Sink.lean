/-
Xnumon/Sink.lean

The log format engine as `logevt.c` sees it: a table of emission functions
(`logfmt_t`) that the serializers call one after another.  A run of a
serializer is modelled by the list of calls it makes, in order; how a
concrete engine encodes them (text, JSON, binary) is out of scope.

Design.  Besides the calls we define the documents the calls are meant to
spell.  A `Node` is a scalar, a dictionary of keyed entries or a list of
labelled items, and `Node.render` writes it out.  The grammar of a record,

    Record ::= record_begin dict_begin
                 dict_item(version) value dict_item(time) value
                 dict_item(eventcode) value (dict_item(k) Value)* dict_end
               record_end
    Value  ::= value | dict_begin (dict_item(k) Value)* dict_end
                     | list_begin (list_item(l) Value)* list_end

is then `recordWord`: the words of `Value` are exactly the renderings of
nodes (`Xnumon.Parse` reads them back).  A dictionary is usually given as a
table of fields in a fixed key order, each present or absent
(`Node.ofFields`); the tables are what later modules reason about.
-/
import Mathlib.Data.List.Basic

namespace Xnumon

/-! ### Calls -/

/-- `struct timespec`. -/
structure Timespec where
  tv_sec : Int
  tv_nsec : Int
deriving DecidableEq, Repr

/-- The typed value emitters of `logfmt_t` (`value_string`, `value_int`,
`value_uint`, `value_uint_oct`, `value_bool`, `value_null`, `value_timespec`,
`value_buf_hex`, `value_ttydev`), with the arguments the serializers pass. -/
inductive Scalar where
  | string (s : String)
  | int (i : Int)
  | uint (n : Nat)
  | uintOct (n : Nat)
  | bool (b : Bool)
  | null
  | timespec (tv : Timespec)
  | bufHex (buf : List UInt8) (sz : Nat)
  | ttydev (dev : Int)
deriving DecidableEq, Repr

/-- One call into `logfmt_t`. -/
inductive Call where
  | recordBegin
  | recordEnd
  | dictBegin
  | dictEnd
  | dictItem (key : String)
  | listBegin
  | listEnd
  | listItem (label : String)
  | value (v : Scalar)
deriving DecidableEq, Repr

/-! ### Documents -/

/-- A document: a scalar, a dictionary of keyed entries, or a list of
labelled items. -/
inductive Node where
  | scalar (v : Scalar)
  | dict (entries : List (String × Node))
  | list (items : List (String × Node))

mutual
/-- The calls that write a node. -/
def Node.render : Node → List Call
  | .scalar v => [.value v]
  | .dict es => .dictBegin :: Node.renderEntries .dictItem es ++ [.dictEnd]
  | .list es => .listBegin :: Node.renderEntries .listItem es ++ [.listEnd]

/-- The calls that write entries (`item` is `dictItem` or `listItem`). -/
def Node.renderEntries (item : String → Call) : List (String × Node) → List Call
  | [] => []
  | (k, v) :: es => item k :: v.render ++ Node.renderEntries item es
end

@[simp] theorem render_scalar (v : Scalar) : (Node.scalar v).render = [.value v] := by
  simp [Node.render]

@[simp] theorem render_dict (es : List (String × Node)) :
    (Node.dict es).render = .dictBegin :: Node.renderEntries .dictItem es ++ [.dictEnd] := by
  simp [Node.render]

@[simp] theorem render_list (es : List (String × Node)) :
    (Node.list es).render = .listBegin :: Node.renderEntries .listItem es ++ [.listEnd] := by
  simp [Node.render]

@[simp] theorem renderEntries_nil (item : String → Call) : Node.renderEntries item [] = [] := by
  simp [Node.renderEntries]

@[simp] theorem renderEntries_cons (item : String → Call) (k : String) (v : Node)
    (es : List (String × Node)) :
    Node.renderEntries item ((k, v) :: es) = item k :: v.render ++ Node.renderEntries item es := by
  simp [Node.renderEntries]

@[simp] theorem renderEntries_append (item : String → Call) (es fs : List (String × Node)) :
    Node.renderEntries item (es ++ fs)
      = Node.renderEntries item es ++ Node.renderEntries item fs := by
  induction es with
  | nil => simp
  | cons e es ih => obtain ⟨k, v⟩ := e; simp [ih]

mutual
/-- No rendering contains `record_begin` or `record_end`: records do not
nest. -/
theorem record_not_mem_render :
    ∀ t : Node, Call.recordBegin ∉ t.render ∧ Call.recordEnd ∉ t.render
  | .scalar _ => by simp
  | .dict es => by simpa using record_not_mem_renderEntries .dictItem (by simp) es
  | .list es => by simpa using record_not_mem_renderEntries .listItem (by simp) es

theorem record_not_mem_renderEntries (item : String → Call)
    (hitem : ∀ k, item k ≠ .recordBegin ∧ item k ≠ .recordEnd) :
    ∀ es : List (String × Node),
      Call.recordBegin ∉ Node.renderEntries item es ∧ Call.recordEnd ∉ Node.renderEntries item es
  | [] => by simp
  | (k, v) :: es => by
    have hv := record_not_mem_render v
    have hes := record_not_mem_renderEntries item hitem es
    simp only [renderEntries_cons, List.mem_cons, List.mem_append, not_or]
    exact ⟨⟨⟨(hitem k).1.symm, hv.1⟩, hes.1⟩, ⟨⟨(hitem k).2.symm, hv.2⟩, hes.2⟩⟩
end

/-! ### Field tables -/

/-- The entries of the fields that are present, in table order. -/
def presentFields (fs : List (String × Option Node)) : List (String × Node) :=
  fs.filterMap fun f => f.2.map (f.1, ·)

/-- The dictionary of a field table. -/
def Node.ofFields (fs : List (String × Option Node)) : Node := .dict (presentFields fs)

@[simp] theorem presentFields_nil : presentFields [] = [] := rfl

@[simp] theorem presentFields_cons_none (k : String) (fs : List (String × Option Node)) :
    presentFields ((k, none) :: fs) = presentFields fs := rfl

@[simp] theorem presentFields_cons_some (k : String) (v : Node) (fs : List (String × Option Node)) :
    presentFields ((k, some v) :: fs) = (k, v) :: presentFields fs := rfl

@[simp] theorem presentFields_append (fs gs : List (String × Option Node)) :
    presentFields (fs ++ gs) = presentFields fs ++ presentFields gs :=
  List.filterMap_append _ _ _

/-- The keys of the present fields keep the table's key order. -/
theorem presentFields_keys_sublist (fs : List (String × Option Node)) :
    List.Sublist ((presentFields fs).map Prod.fst) (fs.map Prod.fst) := by
  induction fs with
  | nil => simp
  | cons f fs ih =>
    obtain ⟨k, _ | v⟩ := f
    · exact ih.cons k
    · exact ih.cons₂ k

theorem mem_presentFields {fs : List (String × Option Node)} {k : String} {v : Node} :
    (k, v) ∈ presentFields fs ↔ (k, some v) ∈ fs := by
  simp only [presentFields, List.mem_filterMap, Option.map_eq_some']
  constructor
  · rintro ⟨⟨k', o⟩, h, v', rfl, he⟩
    cases he
    exact h
  · intro h
    exact ⟨(k, some v), h, v, rfl, rfl⟩

/-- The calls of one field: nothing when it is absent. -/
def fieldCalls (k : String) : Option Node → List Call
  | none => []
  | some v => .dictItem k :: v.render

@[simp] theorem fieldCalls_none (k : String) : fieldCalls k none = [] := rfl

@[simp] theorem fieldCalls_some (k : String) (v : Node) :
    fieldCalls k (some v) = .dictItem k :: v.render := rfl

@[simp] theorem fieldCalls_ite (k : String) (c : Prop) [Decidable c] (o o' : Option Node) :
    fieldCalls k (if c then o else o') = if c then fieldCalls k o else fieldCalls k o' :=
  apply_ite _ _ _ _

/-- The calls of the present fields of a table. -/
def fieldsCalls (fs : List (String × Option Node)) : List Call :=
  fs.flatMap fun f => fieldCalls f.1 f.2

@[simp] theorem fieldsCalls_nil : fieldsCalls [] = [] := rfl

@[simp] theorem fieldsCalls_cons (k : String) (o : Option Node) (fs : List (String × Option Node)) :
    fieldsCalls ((k, o) :: fs) = fieldCalls k o ++ fieldsCalls fs := rfl

@[simp] theorem fieldsCalls_append (fs gs : List (String × Option Node)) :
    fieldsCalls (fs ++ gs) = fieldsCalls fs ++ fieldsCalls gs := by
  simp [fieldsCalls]

theorem renderEntries_presentFields (fs : List (String × Option Node)) :
    Node.renderEntries .dictItem (presentFields fs) = fieldsCalls fs := by
  induction fs with
  | nil => rfl
  | cons f fs ih => obtain ⟨k, _ | v⟩ := f <;> simp [ih]

@[simp] theorem render_ofFields (fs : List (String × Option Node)) :
    (Node.ofFields fs).render = .dictBegin :: fieldsCalls fs ++ [.dictEnd] := by
  simp [Node.ofFields, renderEntries_presentFields]

/-- Items with one label render item by item. -/
theorem renderEntries_map_label {α : Type} (item : String → Call) (label : String)
    (g : α → Node) (xs : List α) :
    Node.renderEntries item (xs.map fun x => (label, g x))
      = xs.flatMap fun x => item label :: (g x).render := by
  induction xs with
  | nil => rfl
  | cons x xs ih => simp [ih]

/-! ### Records -/

/-- The three envelope fields `logevt_header` writes first. -/
def envelope (version : Nat) (tv : Timespec) (code : Nat) : List (String × Node) :=
  [("version", .scalar (.uint version)), ("time", .scalar (.timespec tv)),
    ("eventcode", .scalar (.uint code))]

/-- The words of the record grammar: one dictionary holding the envelope and
then `body`, between `record_begin` and `record_end`. -/
def recordWord (version : Nat) (tv : Timespec) (code : Nat) (body : List (String × Node)) :
    List Call :=
  .recordBegin :: (Node.dict (envelope version tv code ++ body)).render ++ [.recordEnd]

/-- A record word spelled out: the header calls, the body, the footer. -/
theorem recordWord_eq (version : Nat) (tv : Timespec) (code : Nat) (body : List (String × Node)) :
    recordWord version tv code body
      = [.recordBegin, .dictBegin, .dictItem "version", .value (.uint version),
          .dictItem "time", .value (.timespec tv), .dictItem "eventcode", .value (.uint code)]
        ++ Node.renderEntries .dictItem body ++ [.dictEnd, .recordEnd] := by
  simp [recordWord, envelope]

end Xnumon
