import GatewayPrint.Proofs.Printable
import GatewayPrint.Proofs.Yaml.Integers
import GatewayPrint.Proofs.Yaml.Styled
import GatewayPrint.Yaml.Document

/-!
# What is heard of plain data

The tree of plain data (`treeOf`), and what is heard when the tree is written and read again
(`heard`). Only texts can be heard as something else, and whether they are depends on the place
where they are written (`PlacedText`): a key that stands on the line of its value may be too long to
be read at all (`PlacedText.fits`), and any other text may be heard as another one (`keepsText`).
-/

namespace GatewayPrint.Yaml

variable {v : Value} {s : List Char} {n : Nat} {deep first : Bool}

/-! ## Plain data -/

mutual

/-- The tree of data whose mappings are in the order in which they are written. -/
def treeOf : Value → Tree
  | .list xs => .seq (treesOf xs)
  | .map es => .map .map (entryTrees es)
  | v => match Tree.ofScalar v with
    | .ok t => t
    | .error _ => .seq []

def treesOf : List Value → List Tree
  | [] => []
  | x :: xs => treeOf x :: treesOf xs

def entryTrees : List (Value × Value) → List (Tree × Tree)
  | [] => []
  | (k, v) :: es => (treeOf k, treeOf v) :: entryTrees es

end

/-! ## Values that are no texts -/

/-- A value whose text is plain and implies what it is. -/
structure WritesPlain (v : Value) (tag : Tag) (s : List Char) : Prop where
  tree : treeOf v = .scalar tag s false
  implied : Tag.ofPlain (String.ofList s) = tag
  allowed : Style.allowsPlain s = true
  ne_nil : s ≠ []
  leaf : Node.isContainerTag tag = false
  value : ∀ m, scalarValue tag (String.ofList s) m = .ok v

theorem writesPlain_null : WritesPlain .null .null "null".toList where
  tree := rfl
  implied := by decide
  allowed := by decide
  ne_nil := by decide
  leaf := rfl
  value := fun _ ↦ rfl

theorem writesPlain_bool (b : Bool) :
    WritesPlain (.bool b) .bool (if b then "true".toList else "false".toList) := by
  cases b with
  | false =>
    exact ⟨rfl, by decide, by decide, by decide, rfl, fun _ ↦ rfl⟩
  | true =>
    exact ⟨rfl, by decide, by decide, by decide, rfl, fun _ ↦ rfl⟩

theorem writesPlain_int {n : Int} (h : (intText? n).isSome = true) :
    WritesPlain (.int n) .int (intText n).toList := by
  refine ⟨?_, ?_, allowsPlain_intText n, ?_, rfl, fun m ↦ ?_⟩
  · rw [treeOf, Tree.ofScalar, intText?_eq h]
    all_goals exact fun _ ↦ nofun
  · rw [String.ofList_toList]
    exact ofPlain_intText n
  · obtain ⟨ds, hds, -, ⟨htext, -⟩ | ⟨htext, -⟩, -⟩ := toList_intText n
    · rw [htext]
      exact hds.ne_nil
    · rw [htext]
      exact List.cons_ne_nil _ _
  · rw [String.ofList_toList, scalarValue, readInt_intText h]
    rfl

/-! ## Texts in their places -/

/-- A text and the place where it is written. -/
structure PlacedText where
  chars : List Char
  /-- Whether it is a key on the line of its value. -/
  onLine : Bool
  /-- Whether it is indented by the width of a line or more. -/
  deep : Bool

/-- Whether a key is written on the line of its value. -/
def isOnLine : Value → Bool
  | .text s => Tree.isSimpleKey (.scalar .text s.toList false)
  | _ => false

/-- A text inside a block of indentation `n`. -/
def placed (n : Nat) (key : Bool) (s : String) : PlacedText :=
  ⟨s.toList, key && isOnLine (.text s), lineWidth ≤ n + 2⟩

/-- What is heard of a text in its place. -/
def PlacedText.heard (t : PlacedText) : List Char :=
  if t.onLine then t.chars else Tree.heardText t.deep t.chars

/-- A text that is no key on a line is heard by its style. -/
theorem heard_of_not_onLine {t : PlacedText} (h : t.onLine = false) :
    t.heard = Tree.heardText t.deep t.chars := by
  rw [PlacedText.heard, h, if_neg Bool.false_ne_true]

theorem heard_of_onLine {t : PlacedText} (h : t.onLine = true) : t.heard = t.chars := by
  rw [PlacedText.heard, h, if_pos rfl]

/-- Whether a text can be read: a key on a line must be found to be one within 1024 characters. -/
def PlacedText.fits (t : PlacedText) : Bool := !t.onLine || (Tree.writtenKey t.chars).length ≤ 1024

mutual

/-- The texts of a value inside a block of indentation `n`; `inline` says that a list in it has no
indentation of its own. -/
def textsOf (n : Nat) (inline : Bool) : Value → List PlacedText
  | .text s => [placed n false s]
  | .list xs => itemTexts (if inline then n else n + 2) xs
  | .map es => entryTexts (n + 2) es
  | _ => []

/-- The texts of the items of a list at indentation `n`. -/
def itemTexts (n : Nat) : List Value → List PlacedText
  | [] => []
  | x :: xs => textsOf n false x ++ itemTexts n xs

/-- The texts of the entries of a mapping at indentation `n`. -/
def entryTexts (n : Nat) : List (Value × Value) → List PlacedText
  | [] => []
  | (.text k, v) :: es => placed n true k :: (textsOf n (isOnLine (.text k)) v ++ entryTexts n es)
  | (k, v) :: es => textsOf n (isOnLine k) v ++ entryTexts n es

end

mutual

/-- What is heard of a value inside a block of indentation `n`. -/
def heard (n : Nat) (inline : Bool) : Value → Value
  | .text s => .text (String.ofList (placed n false s).heard)
  | .list xs => .list (heardItems (if inline then n else n + 2) xs)
  | .map es => .map (Value.collect (heardEntries (n + 2) es))
  | v => v

/-- What is heard of the items of a list at indentation `n`. -/
def heardItems (n : Nat) : List Value → List Value
  | [] => []
  | x :: xs => heard n false x :: heardItems n xs

/-- What is heard of the entries of a mapping at indentation `n`. -/
def heardEntries (n : Nat) : List (Value × Value) → List (Value × Value)
  | [] => []
  | (.text k, v) :: es => (.text (String.ofList (placed n true k).heard),
      heard n (isOnLine (.text k)) v) :: heardEntries n es
  | (k, v) :: es => (k, heard n (isOnLine k) v) :: heardEntries n es

end

/-! ## Texts that are heard as they are -/

/-- Whether a text between double quotes has a space that is folded twice: one after an escape that
is not the first character, where more characters follow. -/
def foldsTwice : Bool → List Char → Bool
  | _, [] => false
  | first, c :: rest =>
    !first && !Pen.isUnescaped c && rest.head? = some ' ' && 2 ≤ rest.length
      || foldsTwice false rest

/-- Whether a text in a style is heard as it is. Between single quotes a next line character is
heard as a line feed; between double quotes, at an indentation beyond the width of a line, a space
that is folded twice is heard as more than a space. -/
def keepsAs (deep : Bool) (s : List Char) : Tree.ScalarStyle → Bool
  | .single => !s.contains '\u0085'
  | .double => !(deep && foldsTwice true s)
  | _ => true

/-- Whether a text that is no key on a line is heard as it is. -/
def keepsText (deep : Bool) (s : List Char) : Bool :=
  keepsAs deep s (Tree.styleOf false .text s false)

/-- Whether a text is heard as it is in its place. -/
def PlacedText.kept (t : PlacedText) : Bool := t.onLine || keepsText t.deep t.chars

example : (placed 0 false "a\u0085b").kept = false := by decide

end GatewayPrint.Yaml
