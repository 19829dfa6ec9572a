import GatewayPrint.Failure
import GatewayPrint.Files.Tree
import GatewayPrint.Yaml.Fault

/-!
# Faults of kubeconfig files

Why the namespace cannot be read from kubeconfig files: the files break a rule of kubeconfig, they
are no YAML, they cannot be read, or their values have another shape than the reader expects.

## Passed on or handled

Most faults become a failure to load, with the error that they stand for as its cause. Some are
passed on as that error itself: a look before anything is read, bytes that are no text, containers
that nest too deep, and values that only the calendar or the digits of a number forbid.
-/

namespace GatewayPrint

/-- A value of another shape than expected. -/
inductive ShapeFault where
  /-- A value that takes no entries. -/
  | notAssignable (kind : String)
  /-- A sequence, indexed by a text. -/
  | badIndex (kind : String)
  /-- A text, indexed by a text. -/
  | textIndex
  /-- A value without elements to look up. -/
  | notSubscriptable (kind : String)
  /-- A value without elements to search. -/
  | notSearchable (kind : String)
  /-- Bytes, searched for a text. -/
  | bytesSearch
  /-- A value without elements to visit. -/
  | notIterable (kind : String)
  /-- A value without look-up by key. -/
  | noLookup (kind : String)
  | missingKey (key : String)
deriving DecidableEq, Repr

namespace ShapeFault

def errorName : ShapeFault → String
  | noLookup _ => "AttributeError"
  | missingKey _ => "KeyError"
  | _ => "TypeError"

/-- What the error carries. -/
def argument : ShapeFault → String
  | notAssignable kind => "'" ++ kind ++ "' object does not support item assignment"
  | badIndex kind => kind ++ " indices must be integers or slices, not str"
  | textIndex => "string indices must be integers, not 'str'"
  | notSubscriptable kind => "'" ++ kind ++ "' object is not subscriptable"
  | notSearchable kind => "argument of type '" ++ kind ++ "' is not iterable"
  | bytesSearch => "a bytes-like object is required, not 'str'"
  | notIterable kind => "'" ++ kind ++ "' object is not iterable"
  | noLookup kind => "'" ++ kind ++ "' object has no attribute 'get'"
  | missingKey key => key

/-- The text of the error; a missing key is shown in quotes. -/
def message (f : ShapeFault) : String :=
  match f with
  | missingKey key => Text.quote key
  | f => f.argument

end ShapeFault

/-- An error that the system reports about a place. -/
inductive SystemError where
  /-- A folder is where a file should be. -/
  | isFolder
  | nameTooLong
  | denied
deriving DecidableEq, Repr

namespace SystemError

/-- The number of the error and its wording. -/
def wording : SystemError → String × String
  | isFolder => ("21", "Is a directory")
  | nameTooLong => ("36", "File name too long")
  | denied => ("13", "Permission denied")

def errorName : SystemError → String
  | isFolder => "IsADirectoryError"
  | nameTooLong => "OSError"
  | denied => "PermissionError"

def about (e : SystemError) (path : String) : Foreign :=
  ⟨e.errorName, "[Errno " ++ e.wording.1 ++ "] " ++ e.wording.2 ++ ": " ++ Text.quote path⟩

end SystemError

/-- The error of a look that does not get to its place. -/
def FileTree.Obstacle.error : FileTree.Obstacle → SystemError
  | .tooLong => .nameTooLong
  | .closed => .denied

namespace Kubeconfig

/-- Why kubeconfig files cannot be used. -/
inductive Fault where
  | emptyFile (path : String)
  /-- A node without a key, or with null there. -/
  | missingEntry (key node : String)
  | notList (node : String)
  /-- A list of things where one has no name. -/
  | unnamed (node : String)
  | ambiguous (name node : String)
  | yaml (path : String) (fault : Yaml.Fault)
  /-- A look before anything is read does not get to its place. -/
  | unseen (o : FileTree.Obstacle) (path : String)
  /-- A file cannot be read, or a look after reading has begun does not get to its place. -/
  | unread (error : SystemError) (path : String)
  | noHome
  /-- A tilde with a name that no user can have, as it holds a null character. -/
  | nullCharacter
  | shape (fault : ShapeFault)
  /-- A value that has no text, since a number in it has too many digits. -/
  | digits
  | missingFile (path : String)
  | missingContext (name : String)
  /-- A context whose details are no mapping. -/
  | badContext (name kind : String)
  /-- The namespace file of a service account cannot be read. -/
  | accountUnread (error : SystemError) (path : String)
  | accountEncoding (fault : Text.Utf8Fault)
deriving DecidableEq, Repr

/-- What to do about a bad file. -/
def checkHint : String := "Check the file with: kubectl config view"

namespace Fault

/-- A rule of kubeconfig that is broken. -/
def invalid (message : String) : Failure :=
  let message := "Invalid kube-config" ++ message
  .configLoad ("Invalid kubeconfig: " ++ message) (some checkHint)
    (some ⟨"ConfigException", message⟩)

/-- A value of another shape than expected, as the error it stands for. -/
def unexpected (kind argument message : String) : Failure :=
  .configLoad
    ("Malformed kubeconfig: unexpected structure (" ++ kind ++ "(" ++ Text.quote argument ++ "))")
    (some checkHint) (some ⟨kind, message⟩)

/-- A system error that is met on the way to a result. -/
def systemFailure (doing : String) (e : Foreign) : Failure :=
  .configLoad ("Cannot read " ++ doing ++ ": " ++ e.message) none (some e)

/-- What a fault of a YAML document is reported as. A text that is no YAML and a value that does not
fit its tag are malformed; what only the value itself forbids is passed on as it is. -/
def ofYaml (path : String) (f : Yaml.Fault) : Failure :=
  let kind := f.errorName
  let message := f.message path
  match f with
  | .error _ | .character .. =>
    .configLoad ("Malformed kubeconfig: " ++ message) (some checkHint) (some ⟨kind, message⟩)
  | .scalar (.boolean word) => unexpected kind word message
  | .scalar .notTimestamp | .scalar .timestampNode => unexpected kind message message
  | _ => .foreign ⟨kind, message⟩

/-- The failure that is reported. -/
def failure : Fault → Failure
  | emptyFile path => invalid (". " ++ path ++ " file is empty")
  | missingEntry key node => invalid (" file. Expected key " ++ key ++ " in " ++ node)
  | notList node => invalid (" file. Expected " ++ node ++ " to be a list")
  | unnamed node =>
    invalid (" file. Expected all values in " ++ node ++ " list to have 'name' key")
  | ambiguous name node =>
    invalid (" file. Expected only one object with name " ++ name ++ " in " ++ node ++ " list")
  | yaml path f => ofYaml path f
  | unseen o path => .foreign (o.error.about path)
  | unread e path => systemFailure "kubeconfig" (e.about path)
  | noHome => .foreign ⟨"RuntimeError", "Could not determine home directory."⟩
  | nullCharacter => .foreign ⟨"ValueError", "embedded null byte"⟩
  | shape f => unexpected f.errorName f.argument f.message
  | digits => .foreign ⟨"ValueError", tooManyDigits⟩
  | missingFile path =>
    .configLoad ("kubeconfig file " ++ path ++ " does not exist")
      (some "Pass an existing file to --kubeconfig.") (some ⟨"FileNotFoundError", path⟩)
  | missingContext name =>
    .configLoad ("context \"" ++ name ++ "\" does not exist in kubeconfig")
      (some "Select a context with: kubectl config use-context <name>")
      (some ⟨"KeyError", Text.quote name⟩)
  | badContext name kind =>
    .configLoad ("Malformed kubeconfig: context \"" ++ name ++ "\" is not a mapping")
      (some checkHint) (some ⟨"TypeError", kind⟩)
  | accountUnread e path => systemFailure "in-cluster namespace" (e.about path)
  | accountEncoding f => .foreign ⟨"UnicodeDecodeError", Yaml.utf8Message f⟩

end Fault

end Kubeconfig

end GatewayPrint
