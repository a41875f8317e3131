/-
Xnumon/Stream.lean

The log as a stream of records.  A log destination receives the records the
serializers write one after another, with nothing between them; the framing
calls `record_begin` and `record_end` that `logevt_header` and `logevt_footer`
write are what lets a reader cut the stream again.  `parseStream` reads
records off a call list until it is empty, and

    parseStream cs = some ts  ↔  cs = ts.flatMap Node.recordCalls

(`parseStream_eq_some_iff`): the stream of any list of documents reads back
as that list, and a call list is read as records in at most one way.

`Event` names the eight serializers with their descriptors, and
`Event.write_eq` says that each writes the record of its document.  Then
`log_stream_read_back` is the statement for the log: the calls of any
sequence of events, under any configuration, heap and helpers, read back as
the sequence of their documents, and no other call list does.
-/
import Xnumon.Parse

namespace Xnumon

/-! ### The stream reader -/

/-- The calls of the record holding the document `t`. -/
def Node.recordCalls (t : Node) : List Call := .recordBegin :: t.render ++ [.recordEnd]

/-- Read records off `cs` until it is empty, at most `fuel` of them. -/
def parseStreamFuel : Nat → List Call → Option (List Node)
  | _, [] => some []
  | n + 1, .recordBegin :: rest =>
    match parseNode rest.length rest with
    | some (t, .recordEnd :: rest') => (parseStreamFuel n rest').map (t :: ·)
    | _ => none
  | _, _ => none

/-- Read a whole stream; a record has at least two calls, so the length of
the stream is enough fuel. -/
def parseStream (cs : List Call) : Option (List Node) := parseStreamFuel cs.length cs

theorem length_le_flatMap_recordCalls (ts : List Node) :
    ts.length ≤ (ts.flatMap Node.recordCalls).length := by
  induction ts with
  | nil => simp
  | cons t ts ih =>
    have ht : 1 ≤ t.recordCalls.length := by simp [Node.recordCalls]
    rw [List.flatMap_cons, List.length_append, List.length_cons]
    omega

/-- Every stream of records is read back, given one unit of fuel a record. -/
theorem parseStreamFuel_flatMap (ts : List Node) (n : Nat) (h : ts.length ≤ n) :
    parseStreamFuel n (ts.flatMap Node.recordCalls) = some ts := by
  induction ts generalizing n with
  | nil => cases n <;> rfl
  | cons t ts ih =>
    obtain ⟨n, rfl⟩ : ∃ m, n = m + 1 := ⟨n - 1, by simp at h; omega⟩
    have hcalls : (t :: ts).flatMap Node.recordCalls
        = .recordBegin :: (t.render ++ .recordEnd :: ts.flatMap Node.recordCalls) := by
      simp [Node.recordCalls]
    have ht := parseNode_render t (t.render ++ .recordEnd :: ts.flatMap Node.recordCalls).length
      (.recordEnd :: ts.flatMap Node.recordCalls) (by simp)
    rw [hcalls, parseStreamFuel, ht]
    simp [ih n (by simp at h; omega)]

/-- Whatever the stream reader accepts is a stream of records. -/
theorem parseStreamFuel_sound (n : Nat) :
    ∀ cs ts, parseStreamFuel n cs = some ts → cs = ts.flatMap Node.recordCalls := by
  induction n with
  | zero =>
    rintro (_ | ⟨c, cs⟩) ts h <;> simp [parseStreamFuel] at h
    subst h; rfl
  | succ n ih =>
    rintro (_ | ⟨c, rest⟩) ts h
    · simp [parseStreamFuel] at h
      subst h; rfl
    · cases c with
      | recordBegin =>
        simp only [parseStreamFuel] at h
        split at h
        · rename_i t rest' hnode
          obtain ⟨ts', hts', rfl⟩ := Option.map_eq_some'.1 h
          simp [Node.recordCalls, (parse_sound _).1 _ _ _ hnode, ih _ _ hts']
        · cases h
      | _ => simp [parseStreamFuel] at h

/-- **The stream reader reads exactly the streams of records.** -/
theorem parseStream_eq_some_iff (cs : List Call) (ts : List Node) :
    parseStream cs = some ts ↔ cs = ts.flatMap Node.recordCalls := by
  refine ⟨parseStreamFuel_sound _ cs ts, fun h => ?_⟩
  subst h
  exact parseStreamFuel_flatMap ts _ (length_le_flatMap_recordCalls ts)

/-! ### The events of the log -/

/-- An event handed to the log: the serializer that writes it, with its
descriptor. -/
inductive Event where
  | xnumonOps (ops : XnumonOps)
  | xnumonStats (st : EvtloopStat)
  | imageExec (p : Ptr)
  | processAccess (pa : ProcessAccess)
  | launchdAdd (ldadd : LaunchdAdd)
  | socketListen (so : SocketListen)
  | socketAccept (so : SocketAccept)
  | socketConnect (so : SocketConnect)

section
variable (cfg : Config) (env : Extern) (H : Heap)

/-- The calls the serializer of an event writes. -/
def Event.write : Event → List Call
  | .xnumonOps ops => logevtXnumonOps cfg env ops
  | .xnumonStats st => logevtXnumonStats env st
  | .imageExec p => logevtImageExec cfg env H p
  | .processAccess pa => logevtProcessAccess cfg env H pa
  | .launchdAdd ldadd => logevtLaunchdAdd cfg env H ldadd
  | .socketListen so => logevtSocketListen cfg env H so
  | .socketAccept so => logevtSocketAccept cfg env H so
  | .socketConnect so => logevtSocketConnect cfg env H so

/-- The document of an event's record: its field table under the envelope. -/
def Event.document : Event → Node
  | .xnumonOps ops => recordNode env ops.hdr (opsFields cfg env ops)
  | .xnumonStats st => recordNode env st.hdr (statsFields env st)
  | .imageExec p => recordNode env (H.node p).hdr (imageExecFields cfg env H p)
  | .processAccess pa => recordNode env pa.hdr (processAccessFields cfg env H pa)
  | .launchdAdd ldadd => recordNode env ldadd.hdr (launchdAddFields cfg env H ldadd)
  | .socketListen so => recordNode env so.hdr (socketFields cfg env H so none)
  | .socketAccept so => recordNode env so.hdr
      (socketFields cfg env H so.toSocketListen (some (so.peer_addr, so.peer_port)))
  | .socketConnect so => recordNode env so.hdr
      (socketFields cfg env H so.toSocketListen (some (so.peer_addr, so.peer_port)))

/-- Each serializer writes the record of its document. -/
theorem Event.write_eq (e : Event) : e.write cfg env H = (e.document cfg env H).recordCalls := by
  cases e <;>
    simp only [Event.write, Event.document, Node.recordCalls, logevtSocketListen,
      logevtSocketAccept, logevtSocketConnect, logevtXnumonOps_eq, logevtXnumonStats_eq,
      logevtImageExec_eq, logevtProcessAccess_eq, logevtLaunchdAdd_eq, logevtSocket_eq,
      recordWord_recordNode]

end

/-- **The log reads back as its events.**  For every configuration, heap,
helpers and sequence of events, the calls the serializers write one after
another read back as the sequence of the events' documents; and a call list
that reads back as those documents is exactly that log. -/
theorem log_stream_read_back (cfg : Config) (env : Extern) (H : Heap) (es : List Event) :
    ∀ cs, parseStream cs = some (es.map (Event.document cfg env H))
      ↔ cs = es.flatMap (Event.write cfg env H) := by
  have hwrite : Event.write cfg env H = fun e => (e.document cfg env H).recordCalls :=
    funext (Event.write_eq cfg env H)
  intro cs
  rw [parseStream_eq_some_iff, List.flatMap_map, hwrite]

end Xnumon
