/-
Xnumon/Parse.lean

Reading the calls back.  A consumer of the log sees only the calls; here is
the reader it needs.  `parseNode` reads one value of the grammar of
`Xnumon.Sink` (a scalar call, or a balanced dictionary or list block) off
the front of a call list, and `parseRecord` reads one whole record.

The results are the round trip and its converse (`parseRecord_eq_some_iff`):

    parseRecord cs = some t  ↔  cs = record_begin :: t.render ++ [record_end],

so the reader accepts exactly the words of the grammar.  Then
`records_read_back`: what a consumer reads from the record of any serializer
is the document of the serializer's field table in `Xnumon.Document`,
whatever the configuration, descriptor and helpers.  A consumer then looks
up keys in that document with `Node.get?`.

The reader is recursive in the nesting of blocks; a `fuel` argument bounds
the depth, and the length of the input is always enough.
-/
import Xnumon.Document

namespace Xnumon

/-! ### The reader -/

mutual
/-- Read one value off the front of `cs`, within `fuel` nested blocks. -/
def parseNode : Nat → List Call → Option (Node × List Call)
  | _ + 1, .value v :: rest => some (.scalar v, rest)
  | n + 1, .dictBegin :: rest => (parseDictEntries n rest).map fun r => (.dict r.1, r.2)
  | n + 1, .listBegin :: rest => (parseListItems n rest).map fun r => (.list r.1, r.2)
  | _, _ => none

/-- Read keyed entries up to and including `dict_end`. -/
def parseDictEntries : Nat → List Call → Option (List (String × Node) × List Call)
  | _ + 1, .dictEnd :: rest => some ([], rest)
  | n + 1, .dictItem k :: rest =>
    (parseNode n rest).bind fun r =>
      (parseDictEntries n r.2).map fun r' => ((k, r.1) :: r'.1, r'.2)
  | _, _ => none

/-- Read labelled items up to and including `list_end`. -/
def parseListItems : Nat → List Call → Option (List (String × Node) × List Call)
  | _ + 1, .listEnd :: rest => some ([], rest)
  | n + 1, .listItem l :: rest =>
    (parseNode n rest).bind fun r =>
      (parseListItems n r.2).map fun r' => ((l, r.1) :: r'.1, r'.2)
  | _, _ => none
end

/-- Read one record: `record_begin`, one value, `record_end`, and nothing
after. -/
def parseRecord : List Call → Option Node
  | .recordBegin :: rest =>
    match parseNode rest.length rest with
    | some (t, [.recordEnd]) => some t
    | _ => none
  | _ => none

/-! ### Every rendering is read back -/

mutual
theorem parseNode_render :
    ∀ (t : Node) (n : Nat) (rest : List Call), t.render.length ≤ n →
      parseNode n (t.render ++ rest) = some (t, rest)
  | .scalar v, n + 1, rest, _ => by simp [parseNode]
  | .dict es, n + 1, rest, h => by
    have he := parseDictEntries_render es n rest (by simp at h; omega)
    simp [parseNode, he]
  | .list es, n + 1, rest, h => by
    have he := parseListItems_render es n rest (by simp at h; omega)
    simp [parseNode, he]
  | .scalar _, 0, _, h | .dict _, 0, _, h | .list _, 0, _, h => by simp at h

theorem parseDictEntries_render :
    ∀ (es : List (String × Node)) (n : Nat) (rest : List Call),
      (Node.renderEntries .dictItem es).length < n →
      parseDictEntries n (Node.renderEntries .dictItem es ++ .dictEnd :: rest) = some (es, rest)
  | [], n + 1, rest, _ => by simp [parseDictEntries]
  | (k, v) :: es, n + 1, rest, h => by
    simp only [renderEntries_cons, List.length_cons, List.length_append] at h
    have hv := parseNode_render v n (Node.renderEntries .dictItem es ++ .dictEnd :: rest) (by omega)
    have hes := parseDictEntries_render es n rest (by omega)
    simp [parseDictEntries, hv, hes]
  | _, 0, _, h => by simp at h

theorem parseListItems_render :
    ∀ (es : List (String × Node)) (n : Nat) (rest : List Call),
      (Node.renderEntries .listItem es).length < n →
      parseListItems n (Node.renderEntries .listItem es ++ .listEnd :: rest) = some (es, rest)
  | [], n + 1, rest, _ => by simp [parseListItems]
  | (l, v) :: es, n + 1, rest, h => by
    simp only [renderEntries_cons, List.length_cons, List.length_append] at h
    have hv := parseNode_render v n (Node.renderEntries .listItem es ++ .listEnd :: rest) (by omega)
    have hes := parseListItems_render es n rest (by omega)
    simp [parseListItems, hv, hes]
  | _, 0, _, h => by simp at h
end

/-! ### Everything read is a rendering -/

/-- What the three readers accept, with any fuel, is a rendering followed by
the rest of the input. -/
theorem parse_sound (n : Nat) :
    (∀ cs t rest, parseNode n cs = some (t, rest) → cs = t.render ++ rest) ∧
    (∀ cs es rest, parseDictEntries n cs = some (es, rest) →
      cs = Node.renderEntries .dictItem es ++ .dictEnd :: rest) ∧
    (∀ cs es rest, parseListItems n cs = some (es, rest) →
      cs = Node.renderEntries .listItem es ++ .listEnd :: rest) := by
  induction n with
  | zero => exact ⟨by simp [parseNode], by simp [parseDictEntries], by simp [parseListItems]⟩
  | succ n ih =>
    obtain ⟨ihn, ihd, ihl⟩ := ih
    refine ⟨fun cs t rest h => ?_, fun cs es rest h => ?_, fun cs es rest h => ?_⟩
    · -- a value
      match cs, h with
      | .value v :: _, h => simp [parseNode] at h; obtain ⟨rfl, rfl⟩ := h; simp
      | .dictBegin :: cs, h =>
        simp only [parseNode, Option.map_eq_some'] at h
        obtain ⟨⟨es, r⟩, hes, h⟩ := h
        cases h
        simp [ihd _ _ _ hes]
      | .listBegin :: cs, h =>
        simp only [parseNode, Option.map_eq_some'] at h
        obtain ⟨⟨es, r⟩, hes, h⟩ := h
        cases h
        simp [ihl _ _ _ hes]
    · -- keyed entries
      match cs, h with
      | .dictEnd :: _, h => simp [parseDictEntries] at h; obtain ⟨rfl, rfl⟩ := h; simp
      | .dictItem k :: cs, h =>
        simp only [parseDictEntries, Option.bind_eq_some, Option.map_eq_some'] at h
        obtain ⟨⟨v, r⟩, hv, ⟨es', r'⟩, hes, h⟩ := h
        cases h
        have hr : r = _ := ihd _ _ _ hes
        simp [ihn _ _ _ hv, hr]
    · -- labelled items
      match cs, h with
      | .listEnd :: _, h => simp [parseListItems] at h; obtain ⟨rfl, rfl⟩ := h; simp
      | .listItem l :: cs, h =>
        simp only [parseListItems, Option.bind_eq_some, Option.map_eq_some'] at h
        obtain ⟨⟨v, r⟩, hv, ⟨es', r'⟩, hes, h⟩ := h
        cases h
        have hr : r = _ := ihl _ _ _ hes
        simp [ihn _ _ _ hv, hr]

theorem parseRecord_eq_some_iff (cs : List Call) (t : Node) :
    parseRecord cs = some t ↔ cs = .recordBegin :: t.render ++ [.recordEnd] := by
  constructor
  · intro h
    match cs, h with
    | .recordBegin :: rest, h =>
      simp only [parseRecord] at h
      split at h
      · rename_i heq
        cases h
        simp [(parse_sound _).1 _ _ _ heq]
      · cases h
  · rintro rfl
    simp [parseRecord, parseNode_render t (t.render.length + 1) [.recordEnd] (by omega)]

example : parseRecord [.recordBegin, .dictBegin, .dictItem "pid", .value (.int 1), .dictEnd,
    .recordEnd] = some (.dict [("pid", .scalar (.int 1))]) := rfl

example : parseRecord [.recordBegin, .dictBegin, .dictItem "pid", .dictEnd, .recordEnd] = none := rfl

/-! ### Looking up a key -/

/-- The value under key `k` of a dictionary. -/
def Node.get? (t : Node) (k : String) : Option Node :=
  match t with
  | .dict es => es.lookup k
  | _ => none

/-- A table's dictionary holds under `k` its first present field of key `k`. -/
@[simp] theorem get?_ofFields_cons (k k' : String) (o : Option Node)
    (fs : List (String × Option Node)) :
    (Node.ofFields ((k', o) :: fs)).get? k
      = if k' = k then o.or ((Node.ofFields fs).get? k) else (Node.ofFields fs).get? k := by
  by_cases h : k' = k
  · subst h
    cases o with
    | none => rw [if_pos rfl, Option.none_or]; rfl
    | some v => rw [if_pos rfl, Option.or_some]; exact List.lookup_cons_self
  · have hne : (k == k') = false := beq_eq_false_iff_ne.2 (Ne.symm h)
    rw [if_neg h]
    cases o with
    | none => rfl
    | some v =>
      show List.lookup k ((k', v) :: presentFields fs) = List.lookup k (presentFields fs)
      rw [List.lookup_cons, hne]

@[simp] theorem get?_ofFields_nil (k : String) : (Node.ofFields []).get? k = none := rfl

/-! ### The records, read back -/

theorem parseRecord_recordWord (env : Extern) (hdr : LogevtHeader)
    (fs : List (String × Option Node)) :
    parseRecord (recordWord env.LOGEVT_VERSION hdr.tv hdr.code (presentFields fs))
      = some (recordNode env hdr fs) :=
  (parseRecord_eq_some_iff _ _).2 (recordWord_recordNode env hdr fs)

section
variable (cfg : Config) (env : Extern) (H : Heap)

theorem parseRecord_logevtImageExec (p : Ptr) :
    parseRecord (logevtImageExec cfg env H p)
      = some (recordNode env (H.node p).hdr (imageExecFields cfg env H p)) := by
  rw [logevtImageExec_eq, parseRecord_recordWord]

theorem parseRecord_logevtProcessAccess (pa : ProcessAccess) :
    parseRecord (logevtProcessAccess cfg env H pa)
      = some (recordNode env pa.hdr (processAccessFields cfg env H pa)) := by
  rw [logevtProcessAccess_eq, parseRecord_recordWord]

theorem parseRecord_logevtLaunchdAdd (ldadd : LaunchdAdd) :
    parseRecord (logevtLaunchdAdd cfg env H ldadd)
      = some (recordNode env ldadd.hdr (launchdAddFields cfg env H ldadd)) := by
  rw [logevtLaunchdAdd_eq, parseRecord_recordWord]

theorem parseRecord_logevtSocket (so : SocketListen) (peer : Option (Ipaddr × Nat)) :
    parseRecord (logevtSocket cfg env H so peer)
      = some (recordNode env so.hdr (socketFields cfg env H so peer)) := by
  rw [logevtSocket_eq, parseRecord_recordWord]

end

/-- **A consumer reads the field tables.**  Reading the record that any
serializer writes gives back exactly the document of its field table, for
every configuration, heap, descriptor and external helper. -/
theorem records_read_back (cfg : Config) (env : Extern) (H : Heap) :
    (∀ ops, parseRecord (logevtXnumonOps cfg env ops)
      = some (recordNode env ops.hdr (opsFields cfg env ops))) ∧
    (∀ st, parseRecord (logevtXnumonStats env st)
      = some (recordNode env st.hdr (statsFields env st))) ∧
    (∀ p, parseRecord (logevtImageExec cfg env H p)
      = some (recordNode env (H.node p).hdr (imageExecFields cfg env H p))) ∧
    (∀ pa, parseRecord (logevtProcessAccess cfg env H pa)
      = some (recordNode env pa.hdr (processAccessFields cfg env H pa))) ∧
    (∀ ldadd, parseRecord (logevtLaunchdAdd cfg env H ldadd)
      = some (recordNode env ldadd.hdr (launchdAddFields cfg env H ldadd))) ∧
    (∀ so, parseRecord (logevtSocketListen cfg env H so)
      = some (recordNode env so.hdr (socketFields cfg env H so none))) ∧
    (∀ so : SocketAccept, parseRecord (logevtSocketAccept cfg env H so)
      = some (recordNode env so.hdr
          (socketFields cfg env H so.toSocketListen (some (so.peer_addr, so.peer_port))))) ∧
    (∀ so : SocketConnect, parseRecord (logevtSocketConnect cfg env H so)
      = some (recordNode env so.hdr
          (socketFields cfg env H so.toSocketListen (some (so.peer_addr, so.peer_port))))) :=
  ⟨fun ops => by rw [logevtXnumonOps_eq, parseRecord_recordWord],
    fun st => by rw [logevtXnumonStats_eq, parseRecord_recordWord],
    parseRecord_logevtImageExec cfg env H, parseRecord_logevtProcessAccess cfg env H,
    parseRecord_logevtLaunchdAdd cfg env H, fun so => parseRecord_logevtSocket cfg env H so none,
    fun so => parseRecord_logevtSocket cfg env H so.toSocketListen _,
    fun so => parseRecord_logevtSocket cfg env H so.toSocketListen _⟩

end Xnumon
