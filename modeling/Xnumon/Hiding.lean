/-
Xnumon/Hiding.lean

What a redaction switch hides.  `Xnumon.Redaction` shows that a switch in its
suppressing position removes the keys it governs; this module shows the
matching fact about data: the records written then do not read the data
behind those keys.

`Switch.blindImage`, `Switch.blindProc` and `Switch.blindExtern` replace the
data a switch governs with fixed values: the mode, size, times or group of an
image, the session and groups of a process, and the user and group
databases.  `redaction_hides_data` is the statement

    record (X.set true cfg) (blinded inputs) = record (X.set true cfg) inputs,

for each of the six descriptor records, so two inputs that differ only in
what `X` governs give the same record.

The proof follows the field tables of `Xnumon.Document`, one lemma per table:
the process-context rendering and the ancestor walk read nothing that is
blinded, for any configuration; the object-image and credential fields read
blinded data only under the guard of the switch.
-/
import Xnumon.Redaction

namespace Xnumon

/-! ### Blinding the governed data -/

/-- `X.blind Y d v` is the datum `v`, governed by `Y`, replaced by the fixed
value `d` when `X` is `Y`. -/
def Switch.blind {α : Type} (X Y : Switch) (d v : α) : α := if X = Y then d else v

/-- The stat data of an image, with what `X` governs fixed. -/
def Switch.blindStat (X : Switch) (s : Stat) : Stat :=
  { s with
    mode := X.blind .omit_mode 0 s.mode,
    gid := X.blind .omit_groups 0 s.gid,
    size := X.blind .omit_size 0 s.size,
    mtime := X.blind .omit_mtime ⟨0, 0⟩ s.mtime,
    ctime := X.blind .omit_ctime ⟨0, 0⟩ s.ctime,
    btime := X.blind .omit_btime ⟨0, 0⟩ s.btime }

/-- A process, with what `X` governs fixed. -/
def Switch.blindProc (X : Switch) (pr : AuditProc) : AuditProc :=
  { pr with
    egid := X.blind .omit_groups 0 pr.egid,
    rgid := X.blind .omit_groups 0 pr.rgid,
    sid := X.blind .omit_sid 0 pr.sid }

/-- An image, with the governed data of its stat and of its subject fixed. -/
def Switch.blindImage (X : Switch) (ie : ImageExec) : ImageExec :=
  { ie with stat := X.blindStat ie.stat, subject := X.blindProc ie.subject }

/-- Every image of the heap blinded; the links and signatures are kept, so
scripts stay unsigned. -/
def Switch.blindHeap (X : Switch) (H : Heap) : Heap where
  node p := X.blindImage (H.node p)
  script_unsigned := H.script_unsigned

/-- The helpers, with the user and group databases emptied when `X` is
`resolve_users_groups`. -/
def Switch.blindExtern (X : Switch) (env : Extern) : Extern :=
  { env with
    getpwuid := X.blind .resolve_users_groups (fun _ => none) env.getpwuid,
    getgrgid := X.blind .resolve_users_groups (fun _ => none) env.getgrgid }

/-! ### What reads no governed data -/

section
variable (X : Switch) (H : Heap)

@[simp] theorem blindHeap_node (p : Ptr) : (X.blindHeap H).node p = X.blindImage (H.node p) := rfl

theorem leadingNodes_blindHeap : ∀ (pie : Option Ptr) (n : Nat),
    leadingNodes (X.blindHeap H) pie n = leadingNodes H pie n
  | pie, 0 => by cases pie <;> rfl
  | none, _ + 1 => rfl
  | some p, n + 1 => by
    simp only [leadingNodes, leadingNodes_blindHeap _ n]
    rfl

variable (cfg : Config) (env : Extern)

/-- The process-context rendering reads no blinded datum, whatever the
configuration. -/
@[simp] theorem execNode_blind (p : Ptr) :
    execNode cfg (X.blindExtern env) (X.blindHeap H) p = execNode cfg env H p := rfl

@[simp] theorem ancestorsNode_blind (pie : Option Ptr) :
    ancestorsNode cfg (X.blindExtern env) (X.blindHeap H) pie = ancestorsNode cfg env H pie := by
  simp [ancestorsNode, leadingNodes_blindHeap]

end

/-! ### What reads governed data under its guard -/

section
variable (X : Switch) (cfg : Config) (env : Extern) (H : Heap)

theorem imageFields_blind (ie : ImageExec) :
    imageFields (X.set true cfg) (X.blindExtern env) (X.blindImage ie)
      = imageFields (X.set true cfg) env ie := by
  cases X <;> simp [imageFields, idFields, idName, hashFields, hashesShown, signatureFields,
    scalarFieldIf, Switch.set, Switch.blind, Switch.blindImage, Switch.blindStat,
    Switch.blindExtern]

theorem imageNode_blind (ie : ImageExec) :
    imageNode (X.set true cfg) (X.blindExtern env) (X.blindImage ie)
      = imageNode (X.set true cfg) env ie := by
  rw [imageNode, imageFields_blind]
  rfl

theorem credentialFields_blind (full : Option AuditProc) :
    credentialFields (X.set true cfg) (X.blindExtern env) (full.map X.blindProc)
      = credentialFields (X.set true cfg) env full := by
  rcases full with _ | pr
  · simp [credentialFields, idFields]
  · cases X <;> simp [credentialFields, idFields, idName, Switch.set, Switch.blind,
      Switch.blindProc, Switch.blindExtern]

theorem processNode_blind (process : Option AuditProc) (processpid : Int) (ie : Option Ptr) :
    processNode (X.set true cfg) (X.blindExtern env) (X.blindHeap H) (process.map X.blindProc)
        processpid ie
      = processNode (X.set true cfg) env H process processpid ie := by
  have hfull : fullProcess (process.map X.blindProc) processpid
      = (fullProcess process processpid).map X.blindProc := by
    simp only [fullProcess]; split <;> rfl
  have hpid : (process.map X.blindProc).map (fun pr => Node.scalar (.int pr.pid))
      = process.map fun pr => .scalar (.int pr.pid) := by
    cases process <;> rfl
  simp only [processNode, processFields, hfull, hpid, credentialFields_blind, execNode_blind,
    ancestorsNode_blind, blindHeap_node]
  rfl

theorem processNode_blind_some (pr : AuditProc) (processpid : Int) (ie : Option Ptr) :
    processNode (X.set true cfg) (X.blindExtern env) (X.blindHeap H) (some (X.blindProc pr))
        processpid ie
      = processNode (X.set true cfg) env H (some pr) processpid ie :=
  processNode_blind X cfg env H (some pr) processpid ie

end

/-! ### The records -/

section
variable (X : Switch) (cfg : Config) (env : Extern) (H : Heap)

theorem imageExecFields_blind (p : Ptr) :
    imageExecFields (X.set true cfg) (X.blindExtern env) (X.blindHeap H) p
      = imageExecFields (X.set true cfg) env H p := by
  have hsubj := processNode_blind X cfg env H
    (if (H.node p).flags.pidlookup then none else some (H.node p).subject) 0 (H.node p).prev
  rw [apply_ite (Option.map _), Option.map_none', Option.map_some'] at hsubj
  simp only [imageExecFields, blindHeap_node, imageNode_blind]
  simp only [Switch.blindImage, hsubj]

theorem processAccessFields_blind (pa : ProcessAccess) :
    processAccessFields (X.set true cfg) (X.blindExtern env) (X.blindHeap H)
        { pa with object := X.blindProc pa.object, subject := X.blindProc pa.subject }
      = processAccessFields (X.set true cfg) env H pa := by
  simp [processAccessFields, processNode_blind_some]

theorem launchdAddFields_blind (ldadd : LaunchdAdd) :
    launchdAddFields (X.set true cfg) (X.blindExtern env) (X.blindHeap H)
        { ldadd with subject := X.blindProc ldadd.subject }
      = launchdAddFields (X.set true cfg) env H ldadd := by
  simp [launchdAddFields, processNode_blind_some]

theorem socketFields_blind (so : SocketListen) (peer : Option (Ipaddr × Nat)) :
    socketFields (X.set true cfg) (X.blindExtern env) (X.blindHeap H)
        { so with subject := X.blindProc so.subject } peer
      = socketFields (X.set true cfg) env H so peer := by
  simp only [socketFields, processNode_blind_some]
  rfl

theorem logevtSocket_blind (so : SocketListen) (peer : Option (Ipaddr × Nat)) :
    logevtSocket (X.set true cfg) (X.blindExtern env) (X.blindHeap H)
        { so with subject := X.blindProc so.subject } peer
      = logevtSocket (X.set true cfg) env H so peer := by
  rw [logevtSocket_eq, logevtSocket_eq, socketFields_blind]
  rfl

end

/-- **A suppressing switch hides the data it governs.**  For every switch,
configuration, heap and helpers, each of the six descriptor records written
with the switch suppressing is the record written from inputs whose governed
data are blinded: the images of the heap, the processes of the descriptor and,
for `resolve_users_groups`, the user and group databases.  So the records do
not depend on that data. -/
theorem redaction_hides_data (X : Switch) (cfg : Config) (env : Extern) (H : Heap) :
    (∀ p, logevtImageExec (X.set true cfg) (X.blindExtern env) (X.blindHeap H) p
      = logevtImageExec (X.set true cfg) env H p) ∧
    (∀ pa : ProcessAccess, logevtProcessAccess (X.set true cfg) (X.blindExtern env) (X.blindHeap H)
        { pa with object := X.blindProc pa.object, subject := X.blindProc pa.subject }
      = logevtProcessAccess (X.set true cfg) env H pa) ∧
    (∀ ldadd : LaunchdAdd, logevtLaunchdAdd (X.set true cfg) (X.blindExtern env) (X.blindHeap H)
        { ldadd with subject := X.blindProc ldadd.subject }
      = logevtLaunchdAdd (X.set true cfg) env H ldadd) ∧
    (∀ so : SocketListen, logevtSocketListen (X.set true cfg) (X.blindExtern env) (X.blindHeap H)
        { so with subject := X.blindProc so.subject }
      = logevtSocketListen (X.set true cfg) env H so) ∧
    (∀ so : SocketAccept, logevtSocketAccept (X.set true cfg) (X.blindExtern env) (X.blindHeap H)
        { so with subject := X.blindProc so.subject }
      = logevtSocketAccept (X.set true cfg) env H so) ∧
    (∀ so : SocketConnect, logevtSocketConnect (X.set true cfg) (X.blindExtern env)
        (X.blindHeap H) { so with subject := X.blindProc so.subject }
      = logevtSocketConnect (X.set true cfg) env H so) := by
  refine ⟨fun p => ?_, fun pa => ?_, fun ldadd => ?_,
    fun so => logevtSocket_blind X cfg env H so none,
    fun so => logevtSocket_blind X cfg env H so.toSocketListen _,
    fun so => logevtSocket_blind X cfg env H so.toSocketListen _⟩
  · rw [logevtImageExec_eq, logevtImageExec_eq, imageExecFields_blind]; rfl
  · rw [logevtProcessAccess_eq, logevtProcessAccess_eq, processAccessFields_blind]; rfl
  · rw [logevtLaunchdAdd_eq, logevtLaunchdAdd_eq, launchdAddFields_blind]; rfl

end Xnumon
