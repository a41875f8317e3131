/-
Xnumon/Ancestors.lean

The ancestor walk of `logevt_process_image_exec_ancestors`, against the
chain it walks.

A chain is read off the heap by following `prev` (`chainNth`); it may end in
`NULL`, go on forever, or come back to itself.  The walk visits the nodes
that lead the chain with a positive pid, and stops after `config->ancestors`
of them.  `leadingNodes H pie n` is that list, computed from the chain alone;
`leadingNodes_length` says it has `min n k` entries, where `k` (possibly
infinite) counts the leading positive nodes, and `leadingNodes_get` says
entry `i` is chain node `i`.

Two views of the loop are connected.  `WalkStep` is one pass of the loop as
a transition on `(pie, depth)`; along any run from `depth = 0` the `size_t`
counter equals the number of passes and stays at most the bound
(`walkRun_depth`), so it never wraps.  `ancestorsLoop_eq` then says the
emitted items are exactly the renderings of `leadingNodes`, nearest first.
-/
import Xnumon.Logevt

namespace Xnumon

variable (cfg : Config) (env : Extern) (H : Heap)

/-! ### Chains -/

/-- The node `i` steps down the `prev` chain from `pie`. -/
def chainNth : Option Ptr → Nat → Option Ptr
  | none, _ => none
  | some p, 0 => some p
  | some p, i + 1 => chainNth (H.node p).prev i

/-- The first at most `n` nodes of the chain from `pie`, up to `NULL` or to
the first node whose pid is not positive. -/
def leadingNodes : Option Ptr → Nat → List Ptr
  | _, 0 => []
  | none, _ + 1 => []
  | some p, n + 1 => if 0 < (H.node p).pid then p :: leadingNodes (H.node p).prev n else []

/-- The chain from `pie` has positive nodes at every index up to `i`. -/
def LeadsPositive (pie : Option Ptr) (i : Nat) : Prop :=
  ∀ j ≤ i, ∃ q, chainNth H pie j = some q ∧ 0 < (H.node q).pid

@[simp] theorem chainNth_none (i : Nat) : chainNth H none i = none := by
  cases i <;> rfl

@[simp] theorem leadingNodes_zero (pie : Option Ptr) : leadingNodes H pie 0 = [] := by
  cases pie <;> rfl

@[simp] theorem not_leadsPositive_none (i : Nat) : ¬ LeadsPositive H none i := fun h => by
  simpa using h 0 (Nat.zero_le _)

theorem leadsPositive_some_succ {p : Ptr} {i : Nat} :
    LeadsPositive H (some p) (i + 1) ↔ 0 < (H.node p).pid ∧ LeadsPositive H (H.node p).prev i := by
  constructor
  · intro h
    obtain ⟨q, hq, hpos⟩ := h 0 (Nat.zero_le _)
    cases hq
    exact ⟨hpos, fun j hj => h (j + 1) (by omega)⟩
  · rintro ⟨hpos, h⟩ j hj
    cases j with
    | zero => exact ⟨p, rfl, hpos⟩
    | succ j => exact h j (by omega)

theorem leadsPositive_some_zero {p : Ptr} :
    LeadsPositive H (some p) 0 ↔ 0 < (H.node p).pid := by
  constructor
  · intro h
    obtain ⟨q, hq, hpos⟩ := h 0 le_rfl
    cases hq
    exact hpos
  · intro hpos j hj
    obtain rfl : j = 0 := by omega
    exact ⟨p, rfl, hpos⟩

/-- **The walk's length is `min n k`.**  There is an entry at index `i`
exactly when `i < n` and the chain is positive up to `i`. -/
theorem leadingNodes_length (pie : Option Ptr) (n i : Nat) :
    i < (leadingNodes H pie n).length ↔ i < n ∧ LeadsPositive H pie i := by
  induction n generalizing pie i with
  | zero => simp
  | succ n ih =>
    cases pie with
    | none => simp [leadingNodes]
    | some p =>
      by_cases hpos : 0 < (H.node p).pid
      · cases i with
        | zero => simp [leadingNodes, hpos, leadsPositive_some_zero]
        | succ i => simp [leadingNodes, hpos, leadsPositive_some_succ, ih]
      · cases i <;> simp [leadingNodes, hpos, leadsPositive_some_zero, leadsPositive_some_succ]

/-- **Entry `i` of the walk is chain node `i`.** -/
theorem leadingNodes_get (pie : Option Ptr) (n i : Nat) (q : Ptr)
    (h : (leadingNodes H pie n)[i]? = some q) : chainNth H pie i = some q := by
  induction n generalizing pie i with
  | zero => simp at h
  | succ n ih =>
    cases pie with
    | none => simp [leadingNodes] at h
    | some p =>
      by_cases hpos : 0 < (H.node p).pid
      · cases i with
        | zero => simpa [leadingNodes, hpos, chainNth] using h
        | succ i => exact ih (H.node p).prev i (by simpa [leadingNodes, hpos] using h)
      · simp [leadingNodes, hpos] at h

/-! ### The loop as a transition system -/

/-- One pass of the loop: at a positive node, with the counter short of the
bound, move to `prev` and count. -/
inductive WalkStep : Option Ptr × UInt64 → Option Ptr × UInt64 → Prop
  | pass {p : Ptr} {depth : UInt64} :
      0 < (H.node p).pid → depth ≠ cfg.ancestors →
      WalkStep (some p, depth) ((H.node p).prev, depth + 1)

/-- `n` passes of the loop from `s`. -/
inductive WalkRun (s : Option Ptr × UInt64) : Nat → Option Ptr × UInt64 → Prop
  | refl : WalkRun s 0 s
  | tail {n t u} : WalkRun s n t → WalkStep cfg H t u → WalkRun s (n + 1) u

/-- Below the bound, `depth + 1` does not wrap. -/
theorem toNat_succ_of_lt (depth bound : UInt64) (h : depth.toNat < bound.toNat) :
    (depth + 1).toNat = depth.toNat + 1 := by
  have hb := bound.toNat_lt_size
  have h1 : (1 : UInt64).toBitVec.toNat = 1 := rfl
  simp only [UInt64.toNat, UInt64.add_def, BitVec.toNat_add] at *
  omega

/-- A pass from a counter at most the bound keeps it so, and adds one. -/
theorem walkStep_depth {s t : Option Ptr × UInt64} (h : WalkStep cfg H s t)
    (hs : s.2.toNat ≤ cfg.ancestors.toNat) :
    t.2.toNat = s.2.toNat + 1 ∧ t.2.toNat ≤ cfg.ancestors.toNat := by
  obtain ⟨-, hne⟩ := h
  have hlt : _ < cfg.ancestors.toNat := lt_of_le_of_ne hs fun e => hne (UInt64.toNat.inj e)
  rw [toNat_succ_of_lt _ _ hlt]
  omega

/-- **The counter never wraps.**  After `n` passes from `depth = 0` the
counter is `n`, and `n` is at most `config->ancestors`. -/
theorem walkRun_depth {n : Nat} {pie : Option Ptr} {t : Option Ptr × UInt64}
    (h : WalkRun cfg H (pie, 0) n t) : t.2.toNat = n ∧ n ≤ cfg.ancestors.toNat := by
  induction h with
  | refl => simp
  | tail _ hstep ih =>
    have := walkStep_depth cfg H hstep (ih.1 ▸ ih.2)
    omega

/-- The loop takes a pass whenever `WalkStep` allows one. -/
theorem ancestorsLoop_pass {p : Ptr} {depth : UInt64} (hpos : 0 < (H.node p).pid)
    (hne : depth ≠ cfg.ancestors) :
    ancestorsLoop cfg env H (some p) depth
      = .listItem "ancestor" :: logevtProcessImageExec cfg env H p ++
          ancestorsLoop cfg env H (H.node p).prev (depth + 1) := by
  rw [ancestorsLoop.eq_def]
  simp [hpos, hne]

/-- Otherwise it stops. -/
theorem ancestorsLoop_stop {pie : Option Ptr} {depth : UInt64}
    (h : ∀ t, ¬ WalkStep cfg H (pie, depth) t) : ancestorsLoop cfg env H pie depth = [] := by
  rw [ancestorsLoop.eq_def]
  rcases pie with _ | p
  · rfl
  · by_cases hpos : 0 < (H.node p).pid
    · have hd : depth = cfg.ancestors := by
        by_contra hne
        exact h _ (.pass hpos hne)
      simp [hpos, hd]
    · simp [hpos]

/-- **The loop emits the walk.**  With `n` passes left before the counter
reaches the bound, the loop writes one `ancestor` item per entry of
`leadingNodes`, each the process-context rendering of that node. -/
theorem ancestorsLoop_eq (n : Nat) (pie : Option Ptr) (depth : UInt64)
    (hn : depth.toNat + n = cfg.ancestors.toNat) :
    ancestorsLoop cfg env H pie depth
      = (leadingNodes H pie n).flatMap fun q =>
          .listItem "ancestor" :: logevtProcessImageExec cfg env H q := by
  induction n generalizing pie depth with
  | zero =>
    have hd : depth = cfg.ancestors := UInt64.toNat.inj (by omega)
    simp only [leadingNodes_zero, List.flatMap_nil]
    apply ancestorsLoop_stop
    rintro t ⟨-, hne⟩
    exact hne hd
  | succ n ih =>
    rcases pie with _ | p
    · apply ancestorsLoop_stop
      rintro t ⟨⟩
    · by_cases hpos : 0 < (H.node p).pid
      · have hne : depth ≠ cfg.ancestors := fun e => by subst e; omega
        rw [ancestorsLoop_pass cfg env H hpos hne,
          ih (H.node p).prev (depth + 1)
            (by rw [toNat_succ_of_lt depth cfg.ancestors (by omega)]; omega)]
        simp [leadingNodes, hpos]
      · have hstop : ancestorsLoop cfg env H (some p) depth = [] :=
          ancestorsLoop_stop cfg env H (by rintro t ⟨h, -⟩; exact hpos h)
        simp [hstop, leadingNodes, hpos]

/-- `logevt_process_image_exec_ancestors` writes the walk of
`config->ancestors` nodes as a list. -/
theorem logevtProcessImageExecAncestors_eq (pie : Option Ptr) :
    logevtProcessImageExecAncestors cfg env H pie
      = .listBegin :: ((leadingNodes H pie cfg.ancestors.toNat).flatMap fun q =>
          .listItem "ancestor" :: logevtProcessImageExec cfg env H q) ++ [.listEnd] := by
  rw [logevtProcessImageExecAncestors,
    ancestorsLoop_eq cfg env H cfg.ancestors.toNat pie 0 (by simp)]

/-! ### The ancestors of a process -/

/-- **The ancestors list of a process.**  For a bound `D ≥ 1`, the rendering
of a process whose image is `n` ends with the key `ancestors` and the walk
from `n->prev`: one item per entry of `leadingNodes`, that is `min D k` items
(`k` the number of leading positive nodes, possibly infinite), item `i` the
process-context rendering of chain node `i`; along the loop the counter
equals the number of passes and stays at most `D`. -/
theorem logevtProcess_ancestors (process : Option AuditProc) (processpid : Int) (n : Ptr)
    (hD : 0 < cfg.ancestors) :
    List.IsSuffix
      (.dictItem "ancestors" :: logevtProcessImageExecAncestors cfg env H (H.node n).prev ++
        [.dictEnd])
      (logevtProcess cfg env H process processpid (some n)) ∧
    logevtProcessImageExecAncestors cfg env H (H.node n).prev
      = .listBegin :: ((leadingNodes H (H.node n).prev cfg.ancestors.toNat).flatMap fun q =>
          .listItem "ancestor" :: logevtProcessImageExec cfg env H q) ++ [.listEnd] ∧
    (∀ i, i < (leadingNodes H (H.node n).prev cfg.ancestors.toNat).length ↔
      i < cfg.ancestors.toNat ∧ LeadsPositive H (H.node n).prev i) ∧
    (∀ i q, (leadingNodes H (H.node n).prev cfg.ancestors.toNat)[i]? = some q →
      chainNth H (H.node n).prev i = some q) ∧
    (∀ k t, WalkRun cfg H ((H.node n).prev, 0) k t → t.2.toNat = k ∧ k ≤ cfg.ancestors.toNat) := by
  refine ⟨?_, logevtProcessImageExecAncestors_eq cfg env H _, leadingNodes_length H _ _,
    leadingNodes_get H _ _, fun k t h => walkRun_depth cfg H h⟩
  simp only [logevtProcess, hD, if_true, ← List.append_assoc]
  rw [List.append_assoc]
  exact List.suffix_append _ _

/-! ### A cyclic chain -/

/-- An image execution whose parent is the image at pointer `0`. -/
def loopImage : ImageExec where
  hdr := ⟨⟨0, 0⟩, 0⟩
  flags := ⟨false, false, false, false⟩
  path := "/bin/sh"
  stat := ⟨0, 0, 0, 0, ⟨0, 0⟩, ⟨0, 0⟩, ⟨0, 0⟩⟩
  hashes := ⟨[], [], []⟩
  codesign := none
  script := none
  prev := some 0
  pid := 1
  fork_tv := ⟨0, 0⟩
  argv := none
  envv := none
  cwd := none
  subject := ⟨1, 0, 0, 0, 0, 0, 0, -1, ⟨0, []⟩⟩

/-- Every pointer holds `loopImage`: the chain of any image is the cycle
`0, 0, 0, ...`. -/
def loopHeap : Heap := ⟨fun _ => loopImage, fun _ _ h => Option.noConfusion h⟩

/-- A configuration that walks two ancestors and logs everything else. -/
def twoAncestors : Config where
  path := "configuration.plist"
  id := none
  launchd_mode := false
  debug := false
  stats_interval := 0
  hflags := ⟨true, true, true⟩
  codesign := true
  resolve_users_groups := true
  omit_mode := false
  omit_size := false
  omit_mtime := false
  omit_ctime := false
  omit_btime := false
  omit_sid := false
  omit_groups := false
  omit_apple_hashes := false
  ancestors := 2
  logoneline := -1
  logfile := none
  limit_nofile := 0
  suppress_image_exec_at_start := false
  suppress_image_exec_by_ident := []
  suppress_image_exec_by_path := []
  suppress_image_exec_by_ancestor_ident := []
  suppress_image_exec_by_ancestor_path := []
  suppress_process_access_by_subject_ident := []
  suppress_process_access_by_subject_path := []
  suppress_socket_op_localhost := false
  suppress_socket_op_by_subject_ident := []
  suppress_socket_op_by_subject_path := []

/-- Helpers that find no names and check no signatures. -/
def plainExtern : Extern where
  LOGEVT_VERSION := 0
  LOGEVT_SIZE := 0
  MD5SZ := 16
  SHA1SZ := 20
  SHA256SZ := 32
  getpwuid _ := none
  getgrgid _ := none
  codesign_is_good _ := false
  codesign_is_apple_system _ := false
  codesign_result_s _ := ""
  codesign_origin_s _ := ""
  ipaddr_is_empty _ := true
  ipaddrtoa _ := ""
  protocoltoa _ := ""
  config_events_s _ := ""
  config_kextlevel_s _ := ""
  config_envlevel_s _ := ""
  hashes_flags_s _ := ""
  logdst_s _ := ""
  logfmt_s _ := ""
  setstr_size l := l.length
  os_name := ""
  os_version := ""
  os_build := ""
  build_version := ""
  build_date := ""
  build_info := ""

/-- The walk on the cycle of `loopHeap`, two ancestors deep. -/
theorem logevtProcess_ancestors_loop :
    0 < twoAncestors.ancestors ∧
    List.IsSuffix
      (.dictItem "ancestors" ::
        logevtProcessImageExecAncestors twoAncestors plainExtern loopHeap (loopHeap.node 0).prev ++
        [.dictEnd])
      (logevtProcess twoAncestors plainExtern loopHeap none 0 (some 0)) ∧
    logevtProcessImageExecAncestors twoAncestors plainExtern loopHeap (loopHeap.node 0).prev
      = .listBegin :: ((leadingNodes loopHeap (loopHeap.node 0).prev
          twoAncestors.ancestors.toNat).flatMap fun q =>
            .listItem "ancestor" :: logevtProcessImageExec twoAncestors plainExtern loopHeap q) ++
        [.listEnd] ∧
    (∀ i, i < (leadingNodes loopHeap (loopHeap.node 0).prev twoAncestors.ancestors.toNat).length ↔
      i < twoAncestors.ancestors.toNat ∧ LeadsPositive loopHeap (loopHeap.node 0).prev i) ∧
    (∀ i q,
      (leadingNodes loopHeap (loopHeap.node 0).prev twoAncestors.ancestors.toNat)[i]? = some q →
      chainNth loopHeap (loopHeap.node 0).prev i = some q) ∧
    (∀ k t, WalkRun twoAncestors loopHeap ((loopHeap.node 0).prev, 0) k t →
      t.2.toNat = k ∧ k ≤ twoAncestors.ancestors.toNat) :=
  ⟨by decide, logevtProcess_ancestors twoAncestors plainExtern loopHeap none 0 0 (by decide)⟩

end Xnumon
