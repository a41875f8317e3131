/-
Xnumon/Frame.lean

What a record reads of the heap.  A descriptor names image executions by
pointer, and the serializers follow `prev` from there; this module bounds
that walk.  `Heap.AgreeOn H H' pie n` says that `H'` holds the images of `H`
on the first `n` nodes of the chain from `pie`, and the scripts of those
images.  `records_read_only_ancestry` is the frame statement

    H.AgreeOn H' ie (config->ancestors + 1)  →  record H' = record H

for every image pointer `ie` a descriptor names (`+ 2` from the image of an
image-exec record, whose subject is its `prev`): no serializer reads an
image off those chains, or further up a chain than `config->ancestors`
ancestors of its subject.

The proof goes table by table, one `_congr` lemma each, from the process
context of one image (`execNode_congr`) through the ancestor walk
(`leadingNodes_congr`, `ancestorsNode_congr`) to a process dictionary
(`processNode_congr`) and the record bodies.
-/
import Xnumon.Document

namespace Xnumon

/-! ### Agreement on a chain -/

/-- `H'` holds the images of `H` on the first `n` nodes of the chain from
`pie`, and the scripts of those images. -/
def Heap.AgreeOn (H H' : Heap) (pie : Option Ptr) (n : Nat) : Prop :=
  ∀ i < n, ∀ q, chainNth H pie i = some q →
    H'.node q = H.node q ∧ ∀ s, (H.node q).script = some s → H'.node s = H.node s

section
variable {H H' : Heap}

/-- The first node of the chain. -/
theorem Heap.AgreeOn.head {p : Ptr} {n : Nat} (h : H.AgreeOn H' (some p) (n + 1)) :
    H'.node p = H.node p ∧ ∀ s, (H.node p).script = some s → H'.node s = H.node s :=
  h 0 (Nat.succ_pos n) p rfl

/-- The rest of the chain, from `prev`. -/
theorem Heap.AgreeOn.tail {p : Ptr} {n : Nat} (h : H.AgreeOn H' (some p) (n + 1)) :
    H.AgreeOn H' (H.node p).prev n :=
  fun i hi => h (i + 1) (by omega)

/-- A node of the walk is one of the first `n` nodes of the chain. -/
theorem exists_chainNth_of_mem_leadingNodes {pie : Option Ptr} {n : Nat} {q : Ptr}
    (hq : q ∈ leadingNodes H pie n) : ∃ i < n, chainNth H pie i = some q := by
  obtain ⟨i, hi, hget⟩ := List.getElem_of_mem hq
  exact ⟨i, ((leadingNodes_length H pie n i).1 hi).1,
    leadingNodes_get H pie n i q (by rw [List.getElem?_eq_getElem hi, hget])⟩

/-- The walk reads the pids of the first `n` nodes of the chain and nothing
else. -/
theorem leadingNodes_congr {n : Nat} : ∀ pie : Option Ptr,
    (∀ i < n, ∀ q, chainNth H pie i = some q → H'.node q = H.node q) →
    leadingNodes H' pie n = leadingNodes H pie n := by
  induction n with
  | zero => simp
  | succ n ih =>
    rintro (_ | p) h
    · rfl
    · have hp : H'.node p = H.node p := h 0 (Nat.succ_pos n) p rfl
      simp only [leadingNodes, hp, ih (H.node p).prev fun i hi q hq => h (i + 1) (by omega) q hq]

end

/-! ### The tables -/

section
variable (cfg : Config) (env : Extern) {H H' : Heap}

/-- The process context of an image reads the image and its script. -/
theorem execNode_congr {q : Ptr} (hq : H'.node q = H.node q)
    (hs : ∀ s, (H.node q).script = some s → H'.node s = H.node s) :
    execNode cfg env H' q = execNode cfg env H q := by
  rcases hsc : (H.node q).script with _ | s
  · simp only [execNode, execFields, hq, hsc, Option.map_none']
  · simp only [execNode, execFields, hq, hsc, Option.map_some', hs s hsc]

theorem ancestorsNode_congr {pie : Option Ptr} (h : H.AgreeOn H' pie cfg.ancestors.toNat) :
    ancestorsNode cfg env H' pie = ancestorsNode cfg env H pie := by
  rw [ancestorsNode, ancestorsNode, leadingNodes_congr pie fun i hi q hq => (h i hi q hq).1]
  congr 1
  refine List.map_congr_left fun q hq => ?_
  obtain ⟨i, hi, hq⟩ := exists_chainNth_of_mem_leadingNodes hq
  rw [execNode_congr cfg env (h i hi q hq).1 (h i hi q hq).2]

/-- A process dictionary reads its image and `config->ancestors` ancestors. -/
theorem processNode_congr {ie : Option Ptr} (process : Option AuditProc) (processpid : Int)
    (h : H.AgreeOn H' ie (cfg.ancestors.toNat + 1)) :
    processNode cfg env H' process processpid ie = processNode cfg env H process processpid ie := by
  rcases ie with _ | p
  · rfl
  · simp only [processNode, processFields, Option.some_bind, Option.map_some', h.head.1,
      execNode_congr cfg env h.head.1 h.head.2, ancestorsNode_congr cfg env h.tail]

theorem imageExecFields_congr {p : Ptr} (h : H.AgreeOn H' (some p) (cfg.ancestors.toNat + 2)) :
    imageExecFields cfg env H' p = imageExecFields cfg env H p := by
  obtain ⟨hp, hs⟩ := h.head
  rcases hsc : (H.node p).script with _ | s
  · simp only [imageExecFields, hp, hsc, Option.map_none', processNode_congr cfg env _ 0 h.tail]
  · simp only [imageExecFields, hp, hsc, Option.map_some', hs s hsc,
      processNode_congr cfg env _ 0 h.tail]

end

/-! ### The records -/

/-- **A record reads only the ancestry it logs.**  For every configuration,
helpers and pair of heaps: when the second heap holds the images of the
first on the chain from each image pointer of a descriptor, up to
`config->ancestors` ancestors of the subject, and the scripts of those
images, each of the six descriptor records is the same under both heaps. -/
theorem records_read_only_ancestry (cfg : Config) (env : Extern) (H H' : Heap) :
    (∀ p, H.AgreeOn H' (some p) (cfg.ancestors.toNat + 2) →
      logevtImageExec cfg env H' p = logevtImageExec cfg env H p) ∧
    (∀ pa : ProcessAccess, H.AgreeOn H' pa.object_image_exec (cfg.ancestors.toNat + 1) →
      H.AgreeOn H' pa.subject_image_exec (cfg.ancestors.toNat + 1) →
      logevtProcessAccess cfg env H' pa = logevtProcessAccess cfg env H pa) ∧
    (∀ ldadd : LaunchdAdd, H.AgreeOn H' ldadd.subject_image_exec (cfg.ancestors.toNat + 1) →
      logevtLaunchdAdd cfg env H' ldadd = logevtLaunchdAdd cfg env H ldadd) ∧
    (∀ so : SocketListen, H.AgreeOn H' so.subject_image_exec (cfg.ancestors.toNat + 1) →
      logevtSocketListen cfg env H' so = logevtSocketListen cfg env H so) ∧
    (∀ so : SocketAccept, H.AgreeOn H' so.subject_image_exec (cfg.ancestors.toNat + 1) →
      logevtSocketAccept cfg env H' so = logevtSocketAccept cfg env H so) ∧
    (∀ so : SocketConnect, H.AgreeOn H' so.subject_image_exec (cfg.ancestors.toNat + 1) →
      logevtSocketConnect cfg env H' so = logevtSocketConnect cfg env H so) := by
  have hsock : ∀ (so : SocketListen) peer,
      H.AgreeOn H' so.subject_image_exec (cfg.ancestors.toNat + 1) →
        logevtSocket cfg env H' so peer = logevtSocket cfg env H so peer :=
    fun so peer h => by
      rw [logevtSocket_eq, logevtSocket_eq, socketFields, socketFields,
        processNode_congr cfg env _ 0 h]
  refine ⟨fun p h => ?_, fun pa hobj hsubj => ?_, fun ldadd h => ?_,
    fun so => hsock so none, fun so => hsock so.toSocketListen _,
    fun so => hsock so.toSocketListen _⟩
  · rw [logevtImageExec_eq, logevtImageExec_eq, imageExecFields_congr cfg env h, h.head.1]
  · rw [logevtProcessAccess_eq, logevtProcessAccess_eq, processAccessFields, processAccessFields,
      processNode_congr cfg env _ _ hobj, processNode_congr cfg env _ _ hsubj]
  · rw [logevtLaunchdAdd_eq, logevtLaunchdAdd_eq, launchdAddFields, launchdAddFields,
      processNode_congr cfg env _ 0 h]

/-- `loopHeap` with every image but the one at `0` replaced: the chain from
`0` never leaves `0`, so no record of it can tell the two heaps apart. -/
def farHeap : Heap :=
  ⟨fun q => if q = 0 then loopImage else { loopImage with path := "/usr/bin/true" },
    fun q s h => by by_cases hq : q = 0 <;> simp [hq, loopImage] at h⟩

theorem chainNth_loopHeap : ∀ i, chainNth loopHeap (some 0) i = some 0
  | 0 => rfl
  | i + 1 => chainNth_loopHeap i

theorem loopHeap_agreeOn_farHeap (n : Nat) : loopHeap.AgreeOn farHeap (some 0) n := by
  intro i _ q hq
  rw [chainNth_loopHeap] at hq
  cases hq
  exact ⟨rfl, fun s hs => Option.noConfusion hs⟩

/-- The frame on the cycle of `loopHeap`, two ancestors deep, against
`farHeap`. -/
theorem records_read_only_ancestry_loop :
    loopHeap.AgreeOn farHeap (some 0) (twoAncestors.ancestors.toNat + 2) ∧
    loopHeap.AgreeOn farHeap (some 0) (twoAncestors.ancestors.toNat + 1) ∧
    logevtImageExec twoAncestors plainExtern farHeap 0
      = logevtImageExec twoAncestors plainExtern loopHeap 0 ∧
    logevtProcessAccess twoAncestors plainExtern farHeap
        ⟨loopImage.hdr, "task_for_pid", loopImage.subject, 0, some 0, loopImage.subject,
          some 0⟩
      = logevtProcessAccess twoAncestors plainExtern loopHeap
        ⟨loopImage.hdr, "task_for_pid", loopImage.subject, 0, some 0, loopImage.subject,
          some 0⟩ ∧
    logevtLaunchdAdd twoAncestors plainExtern farHeap
        ⟨loopImage.hdr, "job.plist", none, none, none, false, loopImage.subject, some 0⟩
      = logevtLaunchdAdd twoAncestors plainExtern loopHeap
        ⟨loopImage.hdr, "job.plist", none, none, none, false, loopImage.subject, some 0⟩ ∧
    logevtSocketListen twoAncestors plainExtern farHeap
        ⟨loopImage.hdr, 6, ⟨2, []⟩, 22, loopImage.subject, some 0⟩
      = logevtSocketListen twoAncestors plainExtern loopHeap
        ⟨loopImage.hdr, 6, ⟨2, []⟩, 22, loopImage.subject, some 0⟩ ∧
    logevtSocketAccept twoAncestors plainExtern farHeap
        ⟨⟨loopImage.hdr, 6, ⟨2, []⟩, 22, loopImage.subject, some 0⟩, ⟨2, []⟩, 0⟩
      = logevtSocketAccept twoAncestors plainExtern loopHeap
        ⟨⟨loopImage.hdr, 6, ⟨2, []⟩, 22, loopImage.subject, some 0⟩, ⟨2, []⟩, 0⟩ ∧
    logevtSocketConnect twoAncestors plainExtern farHeap
        ⟨⟨loopImage.hdr, 6, ⟨2, []⟩, 22, loopImage.subject, some 0⟩, ⟨2, []⟩, 0⟩
      = logevtSocketConnect twoAncestors plainExtern loopHeap
        ⟨⟨loopImage.hdr, 6, ⟨2, []⟩, 22, loopImage.subject, some 0⟩, ⟨2, []⟩, 0⟩ :=
  have h2 := loopHeap_agreeOn_farHeap (twoAncestors.ancestors.toNat + 2)
  have h1 := loopHeap_agreeOn_farHeap (twoAncestors.ancestors.toNat + 1)
  have hr := records_read_only_ancestry twoAncestors plainExtern loopHeap farHeap
  ⟨h2, h1, hr.1 0 h2, hr.2.1 _ h1 h1, hr.2.2.1 _ h1, hr.2.2.2.1 _ h1, hr.2.2.2.2.1 _ h1,
    hr.2.2.2.2.2 _ h1⟩

end Xnumon
