import GatewayPrint.Text.Split

/-!
# Paths

A path as its root and its parts. Empty parts and parts that stay where they are do not count; a
part that goes up is kept, because it depends on what is there.

## Tildes

A tilde at the start stands for the user's own home directory, and with a name for that of another
account. The user's own directory is what the environment says it is, which may be any text. The
accounts are those of the system: their directories are paths from the root, and hold no colon, as
colons separate the fields of an account.

A path is expanded by its parts (`Path.expandHome`) and a text as it stands (`Path.expandText`), and
the two differ: a path without a directory for its tilde is refused, a text keeps its tilde.
-/

namespace GatewayPrint

/-- An account of the system, with its home directory. -/
structure Account where
  name : String
  home : String
  /-- The home directory is a path from the root. -/
  rooted : home.toList.head? = some '/'
  noColon : ':' ∉ home.toList
deriving DecidableEq, Repr

namespace Account

/-- The account of a name with a home directory, if that is one. -/
def of? (name home : String) : Option Account :=
  if h : home.toList.head? = some '/' ∧ ':' ∉ home.toList then some ⟨name, home, h.1, h.2⟩
  else none

/-- The accounts of a system on which no user has been made, as one distribution sets them up. -/
def usual : List Account :=
  [("root", "/root"), ("daemon", "/usr/sbin"), ("bin", "/bin"), ("sys", "/dev"), ("sync", "/bin"),
    ("games", "/usr/games"), ("man", "/var/cache/man"), ("lp", "/var/spool/lpd"),
    ("mail", "/var/mail"), ("news", "/var/spool/news"), ("uucp", "/var/spool/uucp"),
    ("proxy", "/bin"), ("www-data", "/var/www"), ("backup", "/var/backups"),
    ("list", "/var/list"), ("irc", "/run/ircd"), ("nobody", "/nonexistent")].filterMap
      fun e ↦ of? e.1 e.2

/-- The home directory of the account of a name. -/
def homeOf? (accounts : List Account) (name : String) : Option String :=
  (accounts.find? fun a ↦ a.name == name).map Account.home

end Account

/-- A path: the slashes it starts with, if any, and its parts. -/
structure Path where
  root : String
  parts : List String
deriving DecidableEq, Repr, Inhabited

namespace Path

def isPart (p : List Char) : Bool := !p.isEmpty && p != ['.']

/-- Reads a path. Two leading slashes are a root of their own, three or more are one slash. -/
def ofText (s : String) : Path :=
  let root := match (s.toList.takeWhile (· = '/')).length with
    | 0 => ""
    | 2 => "//"
    | _ => "/"
  ⟨root, ((Text.splitOn '/' s.toList).filter isPart).map String.ofList⟩

/-- The text of a path; the path without parts is a dot. -/
def text (p : Path) : String :=
  if p.root.isEmpty && p.parts.isEmpty then "." else p.root ++ "/".intercalate p.parts

def append (p : Path) (name : String) : Path := { p with parts := p.parts ++ [name] }

/-- A text without the slashes at its end. -/
def trimSlashes (s : List Char) : List Char := (s.reverse.dropWhile (· = '/')).reverse

/-- The home directory that a tilde with a name stands for; without a name it is the user's own. -/
def homeOf? (accounts : List Account) (home : String) (name : List Char) : Option String :=
  if name.isEmpty then some home else Account.homeOf? accounts (String.ofList name)

/-- A text with a home directory in place of a tilde at its start. The tilde of a user who is not
known stays. -/
def expandText (accounts : List Account) (home : String) (s : String) : String :=
  match s.toList with
  | '~' :: rest =>
    match homeOf? accounts home (rest.takeWhile (· ≠ '/')) with
    | some base =>
      let expanded := trimSlashes base.toList ++ rest.dropWhile (· ≠ '/')
      if expanded.isEmpty then "/" else String.ofList expanded
    | none => s
  | _ => s

/-- A path with the home directory in place of a tilde at its start; `none` when there is no
directory to put there. -/
def expandHome (accounts : List Account) (home : String) (p : Path) : Option Path :=
  match p.parts with
  | first :: rest =>
    if p.root.isEmpty && first.toList.head? = some '~' then
      let expanded := expandText accounts home first
      if expanded.toList.head? = some '~' then none
      else
        let base := ofText expanded
        some ⟨base.root, base.parts ++ rest⟩
    else some p
  | [] => some p

end Path

end GatewayPrint
