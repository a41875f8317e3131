/-
Xnumon/Report.lean

The startup record describes the redaction of every other record.
`logevt_xnumon_ops` writes the position of each redaction switch into its
`config` dictionary, so a reader of the log who holds that record knows, for
every later record, which keys were withheld.  `reportedSuppressing` reads
the switches in their suppressing position off the startup document, and
`ops_record_reports_redaction` shows that

* it reads exactly the switches the configuration puts in the suppressing
  position, and
* each descriptor record written under the configuration is the record
  written with every switch emitting, less the keys those switches govern.

So a key is missing from a record either because a reported switch governs
it, or because it is missing from the fully emitting record as well.

The second part is `Xnumon.Redaction` for the reported switches, once the
configuration is seen as the all-emitting one with those switches turned back
(`Switch.setAll_filter_setAll`).
-/
import Xnumon.Redaction
import Xnumon.Parse

namespace Xnumon

/-! ### Switch positions -/

/-- The `config` key under which `logevt_xnumon_ops` reports switch `X`. -/
def Switch.configKey : Switch → String
  | .omit_mode => "omit_mode"
  | .omit_size => "omit_size"
  | .omit_mtime => "omit_mtime"
  | .omit_ctime => "omit_ctime"
  | .omit_btime => "omit_btime"
  | .omit_sid => "omit_sid"
  | .omit_groups => "omit_groups"
  | .resolve_users_groups => "resolve_users_groups"

/-- Whether `cfg` puts `X` in its suppressing position. -/
def Switch.suppresses : Switch → Config → Bool
  | .omit_mode, cfg => cfg.omit_mode
  | .omit_size, cfg => cfg.omit_size
  | .omit_mtime, cfg => cfg.omit_mtime
  | .omit_ctime, cfg => cfg.omit_ctime
  | .omit_btime, cfg => cfg.omit_btime
  | .omit_sid, cfg => cfg.omit_sid
  | .omit_groups, cfg => cfg.omit_groups
  | .resolve_users_groups, cfg => !cfg.resolve_users_groups

/-- Every switch. -/
def Switch.all : List Switch :=
  [.omit_mode, .omit_size, .omit_mtime, .omit_ctime, .omit_btime, .omit_sid, .omit_groups,
    .resolve_users_groups]

theorem Switch.mem_all (X : Switch) : X ∈ Switch.all := by
  cases X <;> decide

theorem Switch.nodup_all : Switch.all.Nodup := by
  decide

/-- Putting a switch where it already is changes nothing. -/
theorem Switch.set_suppresses (X : Switch) (cfg : Config) : X.set (X.suppresses cfg) cfg = cfg := by
  cases X <;> simp [Switch.set, Switch.suppresses]

/-- Setting the switches of `Xs` emitting, and then those that `cfg` puts in
the suppressing position back, gives `cfg` again. -/
theorem Switch.setAll_filter_setAll {Xs : List Switch} (hXs : Xs.Nodup) (cfg : Config) :
    Switch.setAll (Xs.filter (·.suppresses cfg)) true (Switch.setAll Xs false cfg) = cfg := by
  induction Xs with
  | nil => rfl
  | cons X Xs ih =>
    obtain ⟨hX, hXs⟩ := List.nodup_cons.1 hXs
    have hX' : X ∉ Xs.filter (·.suppresses cfg) := fun h => hX (List.mem_of_mem_filter h)
    rw [Switch.setAll_cons, List.filter_cons]
    cases hs : X.suppresses cfg
    · rw [if_neg (by simp), ← Switch.set_setAll_of_not_mem hX', ih hXs]
      exact hs ▸ Switch.set_suppresses X cfg
    · rw [if_pos rfl, Switch.setAll_cons, ← Switch.set_setAll_of_not_mem hX', Switch.set_set,
        ih hXs]
      exact hs ▸ Switch.set_suppresses X cfg

/-- Setting switches that are already set in the same position changes
nothing. -/
theorem Switch.setAll_setAll_of_subset {Xs Ys : List Switch} (h : ∀ X ∈ Xs, X ∈ Ys) (b : Bool)
    (cfg : Config) : Switch.setAll Xs b (Switch.setAll Ys b cfg) = Switch.setAll Ys b cfg := by
  induction Xs with
  | nil => rfl
  | cons X Xs ih =>
    rw [Switch.setAll_cons, ih fun Y hY => h Y (List.mem_cons_of_mem X hY),
      Switch.set_setAll_of_mem (h X (List.mem_cons_self X Xs))]

/-! ### Reading the positions back -/

/-- The position a `config` dictionary reports for `X`: whether it
suppresses. -/
def Switch.reported (X : Switch) (c : Node) : Option Bool :=
  match c.get? X.configKey with
  | some (.scalar (.bool b)) => some (if X = .resolve_users_groups then !b else b)
  | _ => none

/-- The switches of `Xs` that the `config` dictionary `c` reports in their
suppressing position; none when one of them is not reported. -/
def reportedAmong (c : Node) : List Switch → Option (List Switch)
  | [] => some []
  | X :: Xs =>
    (X.reported c).bind fun b => (reportedAmong c Xs).map fun S => if b then X :: S else S

/-- The switches a startup document reports in their suppressing position. -/
def reportedSuppressing (t : Node) : Option (List Switch) :=
  (t.get? "config").bind fun c => reportedAmong c Switch.all

theorem reportedAmong_eq {c : Node} {cfg : Config} {Xs : List Switch}
    (h : ∀ X ∈ Xs, X.reported c = some (X.suppresses cfg)) :
    reportedAmong c Xs = some (Xs.filter (·.suppresses cfg)) := by
  induction Xs with
  | nil => rfl
  | cons X Xs ih =>
    rw [reportedAmong, h X (List.mem_cons_self X Xs),
      ih fun Y hY => h Y (List.mem_cons_of_mem X hY), List.filter_cons]
    cases X.suppresses cfg <;> rfl

section
variable (cfg : Config) (env : Extern)

theorem reported_opsConfig (X : Switch) :
    X.reported (Node.ofFields (scalarFields (opsConfigItems cfg env)))
      = some (X.suppresses cfg) := by
  cases X <;> rfl

theorem reportedSuppressing_opsRecord (ops : XnumonOps) :
    reportedSuppressing (recordNode env ops.hdr (opsFields cfg env ops))
      = some (Switch.all.filter (·.suppresses cfg)) := by
  have hconfig : (recordNode env ops.hdr (opsFields cfg env ops)).get? "config"
      = some (Node.ofFields (scalarFields (opsConfigItems cfg env))) := rfl
  rw [reportedSuppressing, hconfig, Option.some_bind]
  exact reportedAmong_eq fun X _ => reported_opsConfig cfg env X

end

/-! ### The startup record explains every other record -/

/-- **The startup record tells which keys every record withholds.**  For
every configuration, heap, helpers and startup descriptor, reading the
startup record gives exactly the switches the configuration puts in the
suppressing position; and each of the six descriptor records written under
the configuration is the record written with every switch emitting, less
the calls of the keys those switches govern. -/
theorem ops_record_reports_redaction (cfg : Config) (env : Extern) (H : Heap) (ops : XnumonOps) :
    (parseRecord (logevtXnumonOps cfg env ops)).bind reportedSuppressing
      = some (Switch.all.filter (·.suppresses cfg)) ∧
    (∀ p, logevtImageExec cfg env H p
      = deleteKeyed ((Switch.all.filter (·.suppresses cfg)).flatMap Switch.governs)
          (logevtImageExec (Switch.setAll Switch.all false cfg) env H p)) ∧
    (∀ pa, logevtProcessAccess cfg env H pa
      = deleteKeyed ((Switch.all.filter (·.suppresses cfg)).flatMap Switch.governs)
          (logevtProcessAccess (Switch.setAll Switch.all false cfg) env H pa)) ∧
    (∀ ldadd, logevtLaunchdAdd cfg env H ldadd
      = deleteKeyed ((Switch.all.filter (·.suppresses cfg)).flatMap Switch.governs)
          (logevtLaunchdAdd (Switch.setAll Switch.all false cfg) env H ldadd)) ∧
    (∀ so, logevtSocketListen cfg env H so
      = deleteKeyed ((Switch.all.filter (·.suppresses cfg)).flatMap Switch.governs)
          (logevtSocketListen (Switch.setAll Switch.all false cfg) env H so)) ∧
    (∀ so, logevtSocketAccept cfg env H so
      = deleteKeyed ((Switch.all.filter (·.suppresses cfg)).flatMap Switch.governs)
          (logevtSocketAccept (Switch.setAll Switch.all false cfg) env H so)) ∧
    (∀ so, logevtSocketConnect cfg env H so
      = deleteKeyed ((Switch.all.filter (·.suppresses cfg)).flatMap Switch.governs)
          (logevtSocketConnect (Switch.setAll Switch.all false cfg) env H so)) := by
  -- the configuration is the all-emitting one with the reported switches turned back
  set S := Switch.all.filter (·.suppresses cfg)
  set E := Switch.setAll Switch.all false cfg
  have hon : Switch.setAll S true E = cfg := Switch.setAll_filter_setAll Switch.nodup_all cfg
  have hoff : Switch.setAll S false E = E :=
    Switch.setAll_setAll_of_subset (fun X _ => Switch.mem_all X) false cfg
  have hrec : ∀ {α : Type} (f : Config → α → List Call),
      (∀ a, f (Switch.setAll S true E) a = deleteKeyed (S.flatMap Switch.governs)
        (f (Switch.setAll S false E) a)) →
      ∀ a, f cfg a = deleteKeyed (S.flatMap Switch.governs) (f E a) := by
    intro α f hf
    rwa [hon, hoff] at hf
  refine ⟨?_, hrec (fun c => logevtImageExec c env H) (logevtImageExec_redactAll S E env H),
    hrec (fun c => logevtProcessAccess c env H) (logevtProcessAccess_redactAll S E env H),
    hrec (fun c => logevtLaunchdAdd c env H) (logevtLaunchdAdd_redactAll S E env H),
    hrec (fun c => logevtSocketListen c env H) fun so => logevtSocket_redactAll S E env H so none,
    hrec (fun c => logevtSocketAccept c env H) fun so =>
      logevtSocket_redactAll S E env H so.toSocketListen _,
    hrec (fun c => logevtSocketConnect c env H) fun so =>
      logevtSocket_redactAll S E env H so.toSocketListen _⟩
  rw [logevtXnumonOps_eq, parseRecord_recordWord, Option.some_bind]
  exact reportedSuppressing_opsRecord cfg env ops

end Xnumon
