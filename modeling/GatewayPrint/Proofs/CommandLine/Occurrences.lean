import GatewayPrint.Proofs.CommandLine.Verbose

/-!
# The flags of the print command

A print command line is a sequence of occurrences of flags, each written in one of several ways.
Every way of writing an occurrence is read as the same flag with the same value
(`readAll_words`), taking it in sets one field and leaves the others alone (`takeFlags_readings`),
and so what is left at the end of each field is its last value (`foldl_apply`).

The program reads all arguments before it knows where the command begins, and its own flags may be
shortened. No argument of the command is taken for one of them, or for something between two of them
(`exists_read_program`).
-/

namespace GatewayPrint.CommandLine

open Outcome

/-! ## Occurrences -/

def Field.flag : Field → Flag
  | output => ⟨["-o", "--output"], .store .output⟩
  | scope => ⟨["-n", "--namespace"], .store .scope⟩
  | engine => ⟨["--engine"], .store .engine⟩
  | kubeconfig => kubeconfigFlag

/-- The long name of the flag that sets a field. -/
def Field.longName : Field → String
  | output => "--output"
  | scope => "--namespace"
  | engine => "--engine"
  | kubeconfig => "--kubeconfig"

/-- The letter of the flag that sets a field, if there is one. -/
def Field.letter? : Field → Option Char
  | output => some 'o'
  | scope => some 'n'
  | _ => none

def allFlag : Flag := ⟨["-A", "--all-namespaces"], .allNamespaces⟩

/-- An occurrence of a flag of the print command, in one of the ways of writing it. -/
inductive Occurrence where
  /-- The value is the next argument. -/
  | apart (f : Field) (name value : String) (hname : name ∈ f.flag.names)
      (hvalue : value.toList.head? ≠ some '-')
  /-- The value stands behind an equals sign. -/
  | equals (f : Field) (value : String)
  /-- The value is attached to the letter. -/
  | attached (f : Field) (letter first : Char) (rest : String) (hletter : f.letter? = some letter)
      (hfirst : first ≠ '=')
  /-- All namespaces are asked for. -/
  | all (name : String) (hname : name ∈ allFlag.names)

namespace Occurrence

/-- The arguments that an occurrence is written as. -/
def words : Occurrence → List String
  | apart _ name value _ _ => [name, value]
  | equals f value => [f.longName ++ "=" ++ value]
  | attached _ letter first rest _ _ => [String.ofList ('-' :: letter :: first :: rest.toList)]
  | all name _ => [name]

/-- The value that an occurrence gives to a field, if it does. -/
def value? (f : Field) : Occurrence → Option String
  | apart g _ value _ _ => if g = f then some value else none
  | equals g value => if g = f then some value else none
  | attached g _ first rest _ _ =>
    if g = f then some (String.ofList (first :: rest.toList)) else none
  | all _ _ => none

/-- An occurrence asks for all namespaces. -/
def isAll : Occurrence → Bool
  | all _ _ => true
  | _ => false

/-- What is read of an occurrence. -/
def readings : Occurrence → List (String × Reading)
  | apart f name value _ _ => [(name, .flag ⟨f.flag, name, none⟩), (value, .plain)]
  | equals f value => [(f.longName ++ "=" ++ value, .flag ⟨f.flag, f.longName, some value⟩)]
  | attached f letter first rest _ _ =>
    [(String.ofList ('-' :: letter :: first :: rest.toList),
      .flag ⟨f.flag, String.ofList ['-', letter], some (String.ofList (first :: rest.toList))⟩)]
  | all name _ => [(name, .flag ⟨allFlag, name, none⟩)]

def apply (s : Settings) : Occurrence → Settings
  | apart f _ value _ _ => s.set f (.ofText value)
  | equals f value => s.set f (.ofText value)
  | attached f _ first rest _ _ => s.set f (.ofText (String.ofList (first :: rest.toList)))
  | all _ _ => { s with allNamespaces := true }

end Occurrence

/-- The values that occurrences give to a field, in order. -/
def values (f : Field) (occs : List Occurrence) : List String := occs.filterMap (·.value? f)

/-- What occurrences leave a field at: the last value, if there is one. -/
def lastValue? (f : Field) (occs : List Occurrence) : Option Argument :=
  (values f occs).getLast?.map .ofText

/-- The settings that occurrences amount to. -/
def asked (occs : List Occurrence) : Settings where
  command := some .print
  output := (lastValue? .output occs).getD (.given "yaml")
  scope := (lastValue? .scope occs).getD (.given "")
  allNamespaces := occs.any Occurrence.isAll
  engine := lastValue? .engine occs
  kubeconfig := lastValue? .kubeconfig occs

/-! ## Reading an argument -/

section Reading

variable {g : Grammar} {a name : String} {f : Flag} {c d : Char} {t : List Char}

theorem flag?_eq_none (h : ∀ n ∈ g.names, n.1 ≠ a) : g.flag? a = none := by
  rw [Grammar.flag?, List.lookup_eq_none_iff]
  intro n hn
  simpa using (h n hn).symm

theorem read_of_no_dash (h : a.toList.head? ≠ some '-') (g : Grammar) : g.read a = .ok .plain := by
  rw [Grammar.read]
  split
  · next heq => exact absurd (by rw [heq]; rfl) h
  · next heq => exact absurd (by rw [heq]; rfl) h
  · rfl

theorem splitValue_append {s : List Char} (h : '=' ∉ s) (t : List Char) :
    Grammar.splitValue (s ++ '=' :: t) = (s, some t) := by
  have hs : ∀ x ∈ s, decide (x ≠ '=') = true := fun x hx ↦
    decide_eq_true fun heq ↦ h (heq ▸ hx)
  rw [Grammar.splitValue, List.dropWhile_append_of_pos hs, List.takeWhile_append_of_pos hs]
  simp

/-- A long name with an equals sign behind it is no full name, and is cut at the sign. -/
theorem read_equals (hname : ∃ s, name.toList = '-' :: '-' :: s) (heq : '=' ∉ name.toList)
    (hnames : ∀ n ∈ g.names, '=' ∉ n.1.toList) (value : String) :
    g.read (name ++ "=" ++ value) =
      match g.flag? name with
      | some f => .ok (.flag ⟨f, name, some value⟩)
      | none => g.readDashed (name ++ "=" ++ value) := by
  obtain ⟨s, hs⟩ := hname
  have hlist : (name ++ "=" ++ value).toList = '-' :: '-' :: (s ++ '=' :: value.toList) := by
    simp [hs]
  -- No name of the grammar has an equals sign in it, so the argument is no full name.
  have hnone : g.flag? (name ++ "=" ++ value) = none := by
    refine flag?_eq_none fun n hn ha ↦ hnames n hn ?_
    rw [ha, hlist]
    simp
  have hsplit : Grammar.splitValue ('-' :: '-' :: (s ++ '=' :: value.toList))
      = (name.toList, some value.toList) := by
    rw [hs] at heq ⊢
    exact splitValue_append heq value.toList
  rw [Grammar.read, hlist]
  split
  · next heq => simp at heq
  · next rest _ heq =>
    obtain rfl := (List.cons.inj heq).2
    rw [hnone, hsplit]
    simp only [List.isEmpty_cons, Bool.false_eq_true, if_false, String.ofList_toList]
    cases g.flag? name with
    | none => rfl
    | some f => simp
  · next hne => exact absurd rfl (hne _)

/-- A letter with a text attached to it is no full name, also up to an equals sign. -/
theorem read_attached (ha : a.toList = '-' :: c :: d :: t) (hc : c ≠ '-' ∧ c ≠ '=') (hd : d ≠ '=')
    (hnames : ∀ n ∈ g.names, n.1.toList.take 2 = ['-', c] → n.1.toList.length = 2) :
    g.read a = g.readDashed a := by
  have hnone : ∀ (b : String) (u : List Char), b.toList = '-' :: c :: d :: u →
      g.flag? b = none := by
    intro b u hb
    refine flag?_eq_none fun n hn heq ↦ ?_
    have hlen := hnames n hn (by rw [heq, hb]; rfl)
    rw [heq, hb] at hlen
    simp at hlen
  rw [Grammar.read, ha]
  split
  · next heq => simp at heq
  · next rest _ heq =>
    obtain rfl := (List.cons.inj heq).2
    rw [hnone a t ha]
    simp only [List.isEmpty_cons, Bool.false_eq_true, if_false]
    -- What stands before an equals sign still has the letter and a character behind it.
    have hstart : ∃ u value, Grammar.splitValue ('-' :: c :: d :: t)
        = ('-' :: c :: d :: u, value) := by
      rw [Grammar.splitValue]
      split
      · next value _ => exact ⟨t.takeWhile (· ≠ '='), some value, by simp [hc.2, hd]⟩
      · exact ⟨t, _, rfl⟩
    obtain ⟨u, value, hsplit⟩ := hstart
    rw [hsplit]
    dsimp only
    rw [hnone (String.ofList ('-' :: c :: d :: u)) u (by simp)]
    cases value <;> rfl
  · next hne => exact absurd rfl (hne _)

/-- An argument that no flag fits is not taken for one. -/
theorem exists_readDashed (hfits : (if ['-', '-'].isPrefixOf a.toList then
      g.longMatches a.toList else g.shortMatches a.toList) = []) :
    ∃ r, g.readDashed a = .ok r ∧ r ≠ .separator := by
  refine ⟨if Grammar.isNegativeNumber a.toList || a.toList.contains ' ' then .plain
    else .unknownFlag, ?_, ?_⟩
  · rw [Grammar.readDashed, hfits]
  · intro h
    split at h <;> cases h

end Reading

/-! ## Reading occurrences -/

abbrev printGrammar : Grammar := Command.print.grammar

private theorem read_name {f : Field} {name : String} (h : name ∈ f.flag.names) :
    printGrammar.read name = .ok (.flag ⟨f.flag, name, none⟩) := by
  have hall : ∀ f ∈ [Field.output, .scope, .engine, .kubeconfig], ∀ name ∈ f.flag.names,
      printGrammar.read name = .ok (.flag ⟨f.flag, name, none⟩) := by
    decide
  exact hall f (by cases f <;> decide) name h

private theorem read_allFlag {name : String} (h : name ∈ allFlag.names) :
    printGrammar.read name = .ok (.flag ⟨allFlag, name, none⟩) := by
  have hall : ∀ name ∈ allFlag.names,
      printGrammar.read name = .ok (.flag ⟨allFlag, name, none⟩) := by
    decide
  exact hall name h

/-- What a long name with a value is read as after the command, and that the program does not take
it for one of its flags. -/
theorem read_longName (f : Field) (value : String) :
    printGrammar.read (f.longName ++ "=" ++ value)
        = .ok (.flag ⟨f.flag, f.longName, some value⟩) ∧
      ∃ r, programGrammar.read (f.longName ++ "=" ++ value) = .ok r ∧ r ≠ .separator := by
  have hname : ∃ s, f.longName.toList = '-' :: '-' :: s := by
    cases f <;> exact ⟨_, rfl⟩
  have heq : '=' ∉ f.longName.toList := by
    cases f <;> decide
  have hflag : printGrammar.flag? f.longName = some f.flag := by
    cases f <;> rfl
  have hother : programGrammar.flag? f.longName = none := by
    cases f <;> rfl
  constructor
  · rw [read_equals hname heq (by decide), hflag]
  · rw [read_equals hname heq (by decide), hother]
    refine exists_readDashed ?_
    have hlist : (f.longName ++ "=" ++ value).toList
        = f.longName.toList ++ '=' :: value.toList := by
      simp
    obtain ⟨s, hs⟩ := hname
    have hdashes : ['-', '-'].isPrefixOf (f.longName ++ "=" ++ value).toList = true := by
      rw [hlist, hs]
      rfl
    -- No name of the program is an extension of one of these, so it is not taken for a shortening.
    have hnames : ∀ n ∈ programGrammar.names, ¬ f.longName.toList.isPrefixOf n.1.toList = true := by
      cases f <;> decide
    rw [if_pos hdashes, Grammar.longMatches, hlist, splitValue_append heq]
    exact List.map_eq_nil_iff.mpr (List.filter_eq_nil_iff.mpr hnames)

theorem read_letter {f : Field} {letter first : Char} (hletter : f.letter? = some letter)
    (hfirst : first ≠ '=') (rest : List Char) :
    printGrammar.read (String.ofList ('-' :: letter :: first :: rest)) = .ok (.flag
        ⟨f.flag, String.ofList ['-', letter], some (String.ofList (first :: rest))⟩) ∧
      ∃ r, programGrammar.read (String.ofList ('-' :: letter :: first :: rest)) = .ok r ∧
        r ≠ .separator := by
  have hlist : (String.ofList ('-' :: letter :: first :: rest)).toList
      = '-' :: letter :: first :: rest := String.toList_ofList ..
  have hcases : f = .output ∧ letter = 'o' ∨ f = .scope ∧ letter = 'n' := by
    cases f <;> cases hletter <;> simp
  constructor
  · rcases hcases with ⟨rfl, rfl⟩ | ⟨rfl, rfl⟩
    · rw [read_attached hlist (by decide) hfirst (by decide), Grammar.readDashed, hlist]
      rfl
    · rw [read_attached hlist (by decide) hfirst (by decide), Grammar.readDashed, hlist]
      rfl
  · rcases hcases with ⟨rfl, rfl⟩ | ⟨rfl, rfl⟩
    · rw [read_attached hlist (by decide) hfirst (by decide)]
      refine exists_readDashed ?_
      rw [hlist]
      rfl
    · rw [read_attached hlist (by decide) hfirst (by decide)]
      refine exists_readDashed ?_
      rw [hlist]
      rfl

/-- **Reading occurrences** after the command. -/
theorem readAll_words (occs : List Occurrence) :
    printGrammar.readAll (occs.flatMap Occurrence.words)
      = .ok (occs.flatMap Occurrence.readings) := by
  induction occs with
  | nil => rfl
  | cons o occs ih =>
    rw [List.flatMap_cons, List.flatMap_cons]
    cases o with
    | apart f name value hname hvalue =>
      change printGrammar.readAll (name :: value :: occs.flatMap Occurrence.words) = _
      rw [readAll_cons (read_name hname) nofun, readAll_cons (read_of_no_dash hvalue _) nofun, ih]
      rfl
    | equals f value =>
      change printGrammar.readAll (_ :: occs.flatMap Occurrence.words) = _
      rw [readAll_cons (read_longName f value).1 nofun, ih]
      rfl
    | attached f letter first rest hletter hfirst =>
      change printGrammar.readAll (_ :: occs.flatMap Occurrence.words) = _
      rw [readAll_cons (read_letter hletter hfirst rest.toList).1 nofun, ih]
      rfl
    | all name hname =>
      change printGrammar.readAll (_ :: occs.flatMap Occurrence.words) = _
      rw [readAll_cons (read_allFlag hname) nofun, ih]
      rfl

/-- The program takes no argument of the command for the separator, nor for a beginning of several
of its flags. -/
theorem exists_read_program {o : Occurrence} {a : String} (h : a ∈ o.words) :
    ∃ r, programGrammar.read a = .ok r ∧ r ≠ .separator := by
  cases o with
  | apart f name value hname hvalue =>
    simp only [Occurrence.words, List.mem_cons, List.not_mem_nil, or_false] at h
    rcases h with rfl | rfl
    · have hall : ∀ f ∈ [Field.output, .scope, .engine, .kubeconfig], ∀ name ∈ f.flag.names,
          programGrammar.read name = .ok .unknownFlag := by
        decide
      exact ⟨_, hall f (by cases f <;> decide) a hname, nofun⟩
    · exact ⟨_, read_of_no_dash hvalue _, nofun⟩
  | equals f value =>
    rw [List.mem_singleton.mp h]
    exact (read_longName f value).2
  | attached f letter first rest hletter hfirst =>
    rw [List.mem_singleton.mp h]
    exact (read_letter hletter hfirst rest.toList).2
  | all name hname =>
    rw [List.mem_singleton.mp h]
    have hall : ∀ name ∈ allFlag.names, programGrammar.read name = .ok .unknownFlag := by
      decide
    exact ⟨_, hall name hname, nofun⟩

/-- Arguments that are read one by one, without a separator, are read together. -/
theorem exists_readAll {g : Grammar} {args : List String}
    (h : ∀ a ∈ args, ∃ r, g.read a = .ok r ∧ r ≠ .separator) :
    ∃ l, g.readAll args = .ok l ∧ l.map Prod.fst = args := by
  induction args with
  | nil => exact ⟨[], rfl, rfl⟩
  | cons a args ih =>
    obtain ⟨r, hr, hne⟩ := h a List.mem_cons_self
    obtain ⟨l, hl, hargs⟩ := ih fun b hb ↦ h b (List.mem_cons_of_mem a hb)
    refine ⟨(a, r) :: l, ?_, congrArg (a :: ·) hargs⟩
    rw [readAll_cons hr hne, hl, map_ok]

/-! ## Taking occurrences in -/

private theorem attached_store {g : Grammar} {next : Option (String × Reading)} {f : Flag}
    (h : f.takesValue = true) (name value : String) :
    attached g next f name value.toList = .ok ([(f, some value)], false) := by
  have hvalue : value = String.ofList value.toList := String.ofList_toList.symm
  cases hlist : value.toList with
  | nil =>
    rw [hlist] at hvalue
    rw [attached, if_pos h, hvalue]
  | cons c rest =>
    rw [hlist] at hvalue
    rw [attached, if_pos h, hvalue]

theorem takeFlags_attached (f : Field) (a name value : String) (s : Settings)
    (rest : List (String × Reading)) :
    takeFlags .print false s ((a, .flag ⟨f.flag, name, some value⟩) :: rest)
      = takeFlags .print false (s.set f (.ofText value)) rest := by
  have htakes : f.flag.takesValue = true := by
    cases f <;> rfl
  have happly : s.applyAll (some .print) [(f.flag, some value)]
      = .ok (s.set f (.ofText value)) := by
    cases f <;> rfl
  simp only [takeFlags, flagsOf, attached_store htakes, refuse, ok_bind, happly, Bool.false_eq_true,
    if_false]

/-- **Taking in an occurrence** sets its field. -/
theorem takeFlags_readings (o : Occurrence) (s : Settings) (rest : List (String × Reading)) :
    takeFlags .print false s (o.readings ++ rest) = takeFlags .print false (o.apply s) rest := by
  cases o with
  | apart f name value hname hvalue => cases f <;> rfl
  | equals f value => exact takeFlags_attached f _ _ _ s rest
  | attached f letter first rest' hletter hfirst => exact takeFlags_attached f _ _ _ s rest
  | all name hname => rfl

private theorem takeFlags_occurrences (occs : List Occurrence) (s : Settings) :
    takeFlags .print false s (occs.flatMap Occurrence.readings)
      = .ok (occs.foldl (fun s o ↦ o.apply s) s, []) := by
  induction occs generalizing s with
  | nil => rfl
  | cons o occs ih => rw [List.flatMap_cons, takeFlags_readings, ih, List.foldl_cons]

/-! ## What is left of the values -/

theorem lastValue?_cons (f : Field) (o : Occurrence) (occs : List Occurrence) :
    lastValue? f (o :: occs) = (lastValue? f occs).or ((o.value? f).map .ofText) := by
  rw [lastValue?, lastValue?, values, values, List.filterMap_cons]
  cases o.value? f with
  | none => simp
  | some v =>
    rw [List.getLast?_cons]
    cases (occs.filterMap (·.value? f)).getLast? <;> rfl

theorem Occurrence.apply_eq (s : Settings) (o : Occurrence) :
    o.apply s = { s with
      output := ((o.value? .output).map .ofText).getD s.output
      scope := ((o.value? .scope).map .ofText).getD s.scope
      allNamespaces := o.isAll || s.allNamespaces
      engine := ((o.value? .engine).map .ofText).or s.engine
      kubeconfig := ((o.value? .kubeconfig).map .ofText).or s.kubeconfig } := by
  cases o with
  | apart f name value hname hvalue => cases f <;> rfl
  | equals f value => cases f <;> rfl
  | attached f letter first rest hletter hfirst => cases f <;> rfl
  | all name hname => rfl

/-- **Occurrences one after another** leave each field at its last value. -/
theorem foldl_apply (occs : List Occurrence) (s : Settings) :
    occs.foldl (fun s o ↦ o.apply s) s = { s with
      output := (lastValue? .output occs).getD s.output
      scope := (lastValue? .scope occs).getD s.scope
      allNamespaces := occs.any Occurrence.isAll || s.allNamespaces
      engine := (lastValue? .engine occs).or s.engine
      kubeconfig := (lastValue? .kubeconfig occs).or s.kubeconfig } := by
  induction occs generalizing s with
  | nil => rfl
  | cons o occs ih =>
    rw [List.foldl_cons, ih, Occurrence.apply_eq]
    simp only [lastValue?_cons, Option.getD_or, Option.or_assoc, List.any_cons, Bool.or_left_comm,
      Bool.or_assoc]

/-- What a field is set to. -/
def Settings.field (s : Settings) : Field → Option Argument
  | .output => s.output
  | .scope => s.scope
  | .engine => s.engine
  | .kubeconfig => s.kubeconfig

/-- A field is what its last value amounts to, or keeps its default. -/
theorem field_asked (f : Field) (occs : List Occurrence) :
    (asked occs).field f = (lastValue? f occs).or (({} : Settings).field f) := by
  have hdefault : ∀ (x : Option Argument) (a : Argument), some (x.getD a) = x.or (some a) := by
    rintro (_ | x) a <;> rfl
  cases f with
  | output => exact hdefault ..
  | scope => exact hdefault ..
  | engine => exact Option.or_none.symm
  | kubeconfig => exact Option.or_none.symm

theorem asked_congr {occs occs' : List Occurrence} (hvalues : ∀ f, values f occs' = values f occs)
    (hall : occs'.any Occurrence.isAll = occs.any Occurrence.isAll) : asked occs' = asked occs := by
  have hlast : ∀ f, lastValue? f occs' = lastValue? f occs := fun f ↦ by
    rw [lastValue?, lastValue?, hvalues f]
  rw [asked, asked, hlast, hlast, hlast, hlast, hall]

theorem parse_print (occs : List Occurrence) :
    parse ("print" :: occs.flatMap Occurrence.words) = .ok (asked occs) := by
  have hwords : ∀ a ∈ occs.flatMap Occurrence.words,
      ∃ r, programGrammar.read a = .ok r ∧ r ≠ .separator := by
    intro a ha
    obtain ⟨o, -, ha⟩ := List.mem_flatMap.mp ha
    exact exists_read_program ha
  obtain ⟨l, hl, hargs⟩ := exists_readAll hwords
  have hcommand : takeProgram {} (("print", .plain) :: l) = .ok (asked occs, []) := by
    change takeCommand {} .print (l.map Prod.fst) = _
    rw [hargs, takeCommand, readAll_words, refuse, ok_bind, takeFlags_occurrences, foldl_apply]
    simp [asked]
  rw [parse, readAll_cons (r := .plain) rfl (by decide), hl, map_ok, refuse, ok_bind, hcommand]
  rfl

/-- **The settings of a print command line.** Occurrences of its flags are accepted, each field is
what its last value amounts to, and all namespaces are asked for if they are anywhere. A field
without a value keeps its default, and a value is the text itself unless that is two dashes. So
neither the order in which the flags stand, other than that of one flag with itself, nor the way
they are written matters. -/
theorem parse_occurrences (occs : List Occurrence) :
    parse ("print" :: occs.flatMap Occurrence.words) = .ok (asked occs) ∧
      (∀ f, values f occs = [] → (asked occs).field f = ({} : Settings).field f) ∧
      (∀ f v, (values f occs).getLast? = some v →
        ((asked occs).field f = some (.given v) ↔ v ≠ "--")) ∧
      ∀ occs' : List Occurrence, (∀ f, values f occs' = values f occs) →
        occs'.any Occurrence.isAll = occs.any Occurrence.isAll →
        parse ("print" :: occs'.flatMap Occurrence.words)
          = parse ("print" :: occs.flatMap Occurrence.words) := by
  refine ⟨parse_print occs, fun f hf ↦ ?_, fun f v hv ↦ ?_, fun occs' hvalues hall ↦ ?_⟩
  · rw [field_asked, lastValue?, hf]
    rfl
  · rw [field_asked, lastValue?, hv, Option.map_some, Option.some_or, Argument.ofText]
    split
    · next h => simp [h]
    · next h => simp [h]
  · rw [parse_print, parse_print, asked_congr hvalues hall]

theorem parse_occurrences_dashes :
    ∃ s, parse ["print", "-njson", "-n", "a b", "--output=--", "--all-namespaces"] = .ok s ∧
      s.field .output ≠ some (.given "--") ∧ s.field .scope = some (.given "a b") ∧
      s.field .engine = none ∧ s.allNamespaces = true ∧
      parse ["print", "-A", "--namespace=json", "-o--", "-na b"]
        = parse ["print", "-njson", "-n", "a b", "--output=--", "--all-namespaces"] := by
  let occs : List Occurrence :=
    [.attached .scope 'n' 'j' "son" rfl (by decide),
      .apart .scope "-n" "a b" (by decide) (by decide), .equals .output "--",
      .all "--all-namespaces" (by decide)]
  let occs' : List Occurrence :=
    [.all "-A" (by decide), .equals .scope "json",
      .attached .output 'o' '-' "-" rfl (by decide),
      .attached .scope 'n' 'a' " b" rfl (by decide)]
  have hvalues : ∀ f, values f occs' = values f occs := by
    intro f
    cases f <;> rfl
  obtain ⟨hparse, hdefault, hvalue, hsame⟩ := parse_occurrences occs
  exact ⟨asked occs, hparse, (hvalue .output "--" rfl).not.mpr (by decide),
    (hvalue .scope "a b" rfl).mpr (by decide), hdefault .engine rfl, rfl,
    hsame occs' hvalues rfl⟩

end GatewayPrint.CommandLine
