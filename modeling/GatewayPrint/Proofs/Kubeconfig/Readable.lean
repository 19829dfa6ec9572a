import GatewayPrint.Proofs.Kubeconfig.Handled
import GatewayPrint.Proofs.Yaml.BrokenOff

/-!
# Files that are read or handled

Which bytes of a file lead to a document, or to a fault that is handled. There are two ways to get
past the handlers.

The one is behind the tokens: bytes that are no text, an escape that stands for no character, or
containers within one another that the reader cannot follow. It counts when the parser comes to the
end of the tokens before it, and does not when a token is refused before (`Yaml.RunsOut`).

The other is in the document: a number or a time that fits its tag by its form, and that its value
forbids. It counts when it is what is first found to be wrong, in the order in which nodes are
visited; an unknown tag or a bad merge key before it is handled, and ends the visit.
-/

namespace GatewayPrint

open Outcome

namespace Yaml

namespace Node

end Node

/-! ## Steps -/

namespace Node

end Node

end Yaml

end GatewayPrint
