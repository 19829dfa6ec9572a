import GatewayPrint.CommandLine.Grammar
import GatewayPrint.Program

/-!
# Help texts

What the program says about its own command line, laid out for eighty columns.
-/

namespace GatewayPrint.CommandLine

/-- Lines with a line end after each. -/
def lines (ls : List String) : String := String.join (ls.map fun l ↦ l ++ "\n")

/-- The name that usage is reported under: that of the program, with the command if there is one. -/
def programName : Option Command → String
  | none => Program.name
  | some c => Program.name ++ " " ++ c.name

/-- The short form of the command line. -/
def usage : Option Command → String
  | none => lines ["usage: ingress2gateway [-h] [-V] [-v] <command> ..."]
  | some .print => lines
    ["usage: ingress2gateway print [-h] [--kubeconfig PATH] [-o OUTPUT_FORMAT]",
      "                             [-n NAMESPACE] [-A] [--engine NAME]"]
  | some .doctor => lines ["usage: ingress2gateway doctor [-h] [--kubeconfig PATH]"]

/-- What the flags and commands do. -/
def details : Option Command → List String
  | none =>
    ["Convert Ingress resources to Gateway API resources.",
      "",
      "positional arguments:",
      "  <command>",
      "    print        Prints HTTPRoutes and Gateways generated from Ingress",
      "                 resources",
      "    doctor       Check the runtime environment",
      "",
      "options:",
      "  -h, --help     show this help message and exit",
      "  -V, --version  show program's version number and exit",
      "  -v, --verbose  Log debug information to stderr."]
  | some .print =>
    ["Prints HTTPRoutes and Gateways generated from Ingress resources.",
      "",
      "options:",
      "  -h, --help            show this help message and exit",
      "  --kubeconfig PATH     Path to the kubeconfig file to use instead of",
      "                        $KUBECONFIG or ~/.kube/config.",
      "  -o OUTPUT_FORMAT, --output OUTPUT_FORMAT",
      "                        Output format. One of: (json, yaml)",
      "  -n NAMESPACE, --namespace NAMESPACE",
      "                        If present, the namespace scope for this CLI request",
      "  -A, --all-namespaces  If present, list the requested object(s) across all",
      "                        namespaces. Namespace in current context is ignored",
      "                        even if specified with --namespace.",
      "  --engine NAME         Conversion engine to use when more than one is",
      "                        installed."]
  | some .doctor =>
    ["Check the runtime environment.",
      "",
      "options:",
      "  -h, --help         show this help message and exit",
      "  --kubeconfig PATH  Path to the kubeconfig file to use instead of $KUBECONFIG",
      "                     or ~/.kube/config."]

/-- The long form of the command line. -/
def help (c : Option Command) : String := usage c ++ "\n" ++ lines (details c)

/-- What is said about a command line that is refused. -/
def complaint (c : Option Command) (f : UsageFault) : String :=
  usage c ++ programName c ++ ": error: " ++ f.message ++ "\n"

def versionText : String := lines [Program.name ++ " " ++ Program.version]

end GatewayPrint.CommandLine
