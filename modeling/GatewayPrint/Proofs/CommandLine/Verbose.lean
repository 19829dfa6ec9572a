import GatewayPrint.CommandLine.Settings
import GatewayPrint.Proofs.Association
import GatewayPrint.Proofs.Outcome

/-!
# The flag for verbose output

The flag `-v` may stand anywhere before the command. It is read without regard to what is around it,
and all it does is to set one field that no other flag looks at: taking arguments commutes with
setting it (`takeProgram_loud`). So it changes the settings of an accepted command line in that
field alone (`parse_insert_verbose`).

What makes the place of the flag matter is the separator: behind two dashes `-v` would be a plain
argument. But nothing is accepted behind a separator, and no flag before the command takes the next
argument as its value, so that what stands before the first `print` of an accepted print command is
flags only.
-/

namespace GatewayPrint.CommandLine

open Outcome

variable {s s' : Settings} {c : Command} {left : List String} {a : String} {m : Match}

/-! ## Setting the field -/

def Settings.loud (s : Settings) : Settings := { s with verbose := true }

theorem Settings.set_loud (s : Settings) (f : Field) (x : Argument) :
    s.loud.set f x = (s.set f x).loud := by
  cases f <;> rfl

theorem Settings.apply_loud (place : Option Command) (s : Settings) (f : Flag)
    (value : Option String) : s.loud.apply place f value = (s.apply place f value).map loud := by
  rw [apply, apply]
  cases f.action with
  | store field => exact congrArg Except.ok (s.set_loud field _)
  | _ => rfl

theorem Settings.applyAll_loud (place : Option Command) (s : Settings)
    (fs : List (Flag × Option String)) :
    s.loud.applyAll place fs = (s.applyAll place fs).map loud := by
  induction fs generalizing s with
  | nil => rfl
  | cons f fs ih =>
    obtain ⟨f, value⟩ := f
    rw [applyAll, applyAll, apply_loud]
    cases s.apply place f value with
    | error stop => rfl
    | ok s => exact ih s

/-- What is taken, with verbose output. -/
def loudly (taken : Settings × List String) : Settings × List String := (taken.1.loud, taken.2)

/-- What follows keeps verbose output if it does so for anything that is taken. -/
theorem bind_loudly {f : Settings × List String → Except Stop (Settings × List String)}
    (hf : ∀ r, f (loudly r) = (f r).map loudly) (x : Except Stop (Settings × List String)) :
    (x.map loudly >>= f) = (x >>= f).map loudly := by
  cases x with
  | error stop => rfl
  | ok r => exact hf r

private theorem takeFlags_loud (c : Command) (skip : Bool) (s : Settings)
    (l : List (String × Reading)) :
    takeFlags c skip s.loud l = (takeFlags c skip s l).map loudly := by
  induction l generalizing skip s with
  | nil => rfl
  | cons x l ih =>
    obtain ⟨a, r⟩ := x
    cases r with
    | flag m =>
      rw [takeFlags, takeFlags]
      split
      · exact ih false s
      · cases refuse (some c) (flagsOf c.grammar l.head? m) with
        | error stop => rfl
        | ok found =>
          rw [ok_bind, ok_bind]
          dsimp only
          rw [Settings.applyAll_loud]
          cases s.applyAll (some c) found.1 with
          | error stop => rfl
          | ok s => exact ih found.2 s
    | _ =>
      rw [takeFlags, takeFlags]
      · split
        · exact ih false s
        · rw [ih]
          exact bind_loudly (fun _ ↦ rfl) _
      all_goals rintro m ⟨⟩

private theorem takeCommand_loud (s : Settings) (c : Command) (args : List String) :
    takeCommand s.loud c args = (takeCommand s c args).map loudly := by
  rw [takeCommand, takeCommand]
  cases refuse (some c) (c.grammar.readAll args) with
  | error stop => rfl
  | ok read => exact takeFlags_loud c false { s with command := some c } read

private theorem takeProgram_loud (s : Settings) (l : List (String × Reading)) :
    takeProgram s.loud l = (takeProgram s l).map loudly := by
  induction l generalizing s with
  | nil => rfl
  | cons x l ih =>
    obtain ⟨a, r⟩ := x
    -- Settings only ever change in fields of their own, so loud ones stay loud at every step.
    cases r with
    | flag m =>
      rw [takeProgram, takeProgram]
      cases refuse none (flagsOf programGrammar l.head? m) with
      | error stop => rfl
      | ok found =>
        rw [ok_bind, ok_bind]
        dsimp only
        rw [Settings.applyAll_loud]
        cases s.applyAll none found.1 with
        | error stop => rfl
        | ok s => exact ih s
    | unknownFlag =>
      rw [takeProgram, takeProgram, ih]
      exact bind_loudly (fun _ ↦ rfl) _
    | plain =>
      rw [takeProgram, takeProgram]
      cases Command.ofName? a with
      | none => rfl
      | some c => exact takeCommand_loud s c _
    | separator =>
      rw [takeProgram, takeProgram]
      split <;> rfl

/-! ## The command -/

private theorem command_apply {place : Option Command} {f : Flag} {value : Option String}
    (h : s.apply place f value = .ok s') : s'.command = s.command := by
  rw [Settings.apply] at h
  split at h
  · cases h
  · cases h
  · cases h
    rfl
  · cases h
    rfl
  · next field _ =>
    cases h
    cases field <;> rfl

private theorem command_applyAll {place : Option Command} {fs : List (Flag × Option String)}
    (h : s.applyAll place fs = .ok s') : s'.command = s.command := by
  induction fs generalizing s with
  | nil =>
    cases h
    rfl
  | cons f fs ih =>
    obtain ⟨f, value⟩ := f
    rw [Settings.applyAll] at h
    obtain ⟨t, ht, h⟩ := bind_eq_ok.mp h
    rw [ih h, command_apply ht]

private theorem command_takeFlags {skip : Bool} {l : List (String × Reading)}
    (h : takeFlags c skip s l = .ok (s', left)) : s'.command = s.command := by
  induction l generalizing skip s left with
  | nil =>
    cases h
    rfl
  | cons x l ih =>
    obtain ⟨a, r⟩ := x
    cases r with
    | flag m =>
      rw [takeFlags] at h
      split at h
      · exact ih h
      · obtain ⟨found, -, h⟩ := bind_eq_ok.mp h
        obtain ⟨t, ht, h⟩ := bind_eq_ok.mp h
        rw [ih h, command_applyAll ht]
    | _ =>
      rw [takeFlags] at h
      · split at h
        · exact ih h
        · obtain ⟨⟨t, left'⟩, ht, h⟩ := bind_eq_ok.mp h
          cases h
          exact ih ht
      all_goals rintro m ⟨⟩

private theorem command_takeCommand {args : List String}
    (h : takeCommand s c args = .ok (s', left)) : s'.command = some c := by
  rw [takeCommand] at h
  obtain ⟨read, -, h⟩ := bind_eq_ok.mp h
  exact command_takeFlags h

/-! ## Flags before the command -/

theorem mem_names_of_longMatches {g : Grammar} {t : List Char} (h : m ∈ g.longMatches t) :
    ∃ name, (name, m.flag) ∈ g.names := by
  obtain ⟨n, hn, rfl⟩ := List.mem_map.mp h
  exact ⟨n.1, (List.mem_filter.mp hn).1⟩

theorem mem_names_of_shortMatches {g : Grammar} {t : List Char} (h : m ∈ g.shortMatches t) :
    ∃ name, (name, m.flag) ∈ g.names := by
  obtain ⟨n, hn, hm⟩ := List.mem_filterMap.mp h
  split at hm
  · cases hm
    exact ⟨n.1, hn⟩
  · split at hm
    · cases hm
      exact ⟨n.1, hn⟩
    · cases hm

theorem mem_names_of_readDashed {g : Grammar} (h : g.readDashed a = .ok (.flag m)) :
    ∃ name, (name, m.flag) ∈ g.names := by
  rw [Grammar.readDashed] at h
  split at h
  · next m' hfits =>
    cases h
    have hm : m ∈ [m] := List.mem_cons_self
    rw [← hfits] at hm
    split at hm
    · exact mem_names_of_longMatches hm
    · exact mem_names_of_shortMatches hm
  · cases h
  · split at h <;> cases h

theorem mem_names_of_read {g : Grammar} (h : g.read a = .ok (.flag m)) :
    ∃ name, (name, m.flag) ∈ g.names := by
  have hflag : ∀ {name : String} {f : Flag}, g.flag? name = some f → (name, f) ∈ g.names :=
    fun hf ↦ mem_of_lookup hf
  rw [Grammar.read] at h
  split at h
  · cases h
  · split at h
    · next f hf =>
      cases h
      exact ⟨a, hflag hf⟩
    · split at h
      · cases h
      · dsimp only at h
        split at h
        · next hf =>
          cases h
          exact ⟨_, hflag hf⟩
        · exact mem_names_of_readDashed h
  · cases h

theorem takesValue_of_mem_names {name : String} {f : Flag}
    (h : (name, f) ∈ programGrammar.names) : f.takesValue = false := by
  have hall : ∀ n ∈ programGrammar.names, n.2.takesValue = false := by decide
  exact hall _ h

theorem needNext_of_not_takesValue {f : Flag} (h : f.takesValue = false)
    (next : Option (String × Reading)) : needNext f next = .ok ([(f, none)], false) := by
  unfold needNext
  rw [h]
  rfl

/-- What comes next does not matter to a flag before the command. -/
theorem attached_program (next next' : Option (String × Reading)) {f : Flag}
    (h : f.takesValue = false) (name : String) (s : List Char) :
    attached programGrammar next f name s = attached programGrammar next' f name s := by
  induction s generalizing f name with
  | nil => rfl
  | cons c rest ih =>
    rw [attached, attached, h, if_neg Bool.false_ne_true, if_neg Bool.false_ne_true]
    split
    · rfl
    · dsimp only
      split
      · rfl
      · next other hother =>
        have hvalue := takesValue_of_mem_names (mem_of_lookup hother)
        split
        · rw [needNext_of_not_takesValue hvalue, needNext_of_not_takesValue hvalue]
        · rw [ih hvalue]

private theorem flagsOf_program (next next' : Option (String × Reading))
    (h : programGrammar.read a = .ok (.flag m)) :
    flagsOf programGrammar next m = flagsOf programGrammar next' m := by
  obtain ⟨name, hname⟩ := mem_names_of_read h
  have hvalue := takesValue_of_mem_names hname
  rw [flagsOf, flagsOf]
  split
  · rw [needNext_of_not_takesValue hvalue, needNext_of_not_takesValue hvalue]
  · exact attached_program next next' hvalue m.name _

private theorem ofName?_ne_print {c : Command} (h : Command.ofName? a = some c) (ha : a ≠ "print") :
    c ≠ .print := by
  rintro rfl
  have hname := List.find?_some h
  exact ha (by simpa [Command.name] using (beq_iff_eq.mp hname).symm)

/-! ## Putting the flag in -/

theorem readAll_cons {g : Grammar} {rest : List String} {r : Reading} (h : g.read a = .ok r)
    (hr : r ≠ .separator) :
    g.readAll (a :: rest) = (g.readAll rest).map fun l ↦ (a, r) :: l := by
  rw [Grammar.readAll, h, ok_bind]
  split
  · exact absurd rfl hr
  · cases g.readAll rest <;> rfl

/-- The flag for verbose output, as it is read. -/
def verboseMatch : Match := ⟨⟨["-v", "--verbose"], .verbose⟩, "-v", none⟩

private theorem read_verbose : programGrammar.read "-v" = .ok (.flag verboseMatch) := rfl

private theorem takeProgram_verbose (s : Settings) (l : List (String × Reading)) :
    takeProgram s (("-v", .flag verboseMatch) :: l) = (takeProgram s l).map loudly :=
  takeProgram_loud s l

/-- An accepted print command has nothing but flags before its name. -/
theorem exists_flag_of_takeProgram (ha : a ≠ "print") {rest : List String}
    {l : List (String × Reading)} (hread : programGrammar.readAll (a :: rest) = .ok l)
    (htake : takeProgram s l = .ok (s', [])) (hprint : s'.command = some .print) :
    ∃ m l₁, programGrammar.read a = .ok (.flag m) ∧ programGrammar.readAll rest = .ok l₁ ∧
      l = (a, .flag m) :: l₁ := by
  cases hr : programGrammar.read a with
  | error f =>
    rw [Grammar.readAll, hr] at hread
    cases hread
  | ok r =>
    cases r with
    | separator =>
      -- Nothing is accepted behind the separator, and it would itself be left over.
      rw [Grammar.readAll, hr, ok_bind] at hread
      cases hread
      rw [takeProgram] at htake
      split at htake <;> cases htake
    | plain =>
      rw [readAll_cons hr nofun] at hread
      obtain ⟨l₁, -, rfl⟩ := map_eq_ok.mp hread
      rw [takeProgram] at htake
      split at htake
      · next c hc =>
        rw [command_takeCommand htake] at hprint
        exact absurd (Option.some.inj hprint) (ofName?_ne_print hc ha)
      · cases htake
    | unknownFlag =>
      rw [readAll_cons hr nofun] at hread
      obtain ⟨l₁, -, rfl⟩ := map_eq_ok.mp hread
      rw [takeProgram] at htake
      obtain ⟨⟨t, left⟩, -, ht⟩ := bind_eq_ok.mp htake
      cases ht
    | flag m =>
      rw [readAll_cons hr nofun] at hread
      obtain ⟨l₁, hl₁, rfl⟩ := map_eq_ok.mp hread
      exact ⟨m, l₁, rfl, hl₁, rfl⟩

/-- **The flag among those before the command**: it makes what is taken loud. The induction is on
what stands before the flag. -/
theorem takeProgram_insert_verbose {before after : List String} (hbefore : "print" ∉ before)
    {l : List (String × Reading)} (hread : programGrammar.readAll (before ++ after) = .ok l)
    (htake : takeProgram s l = .ok (s', [])) (hprint : s'.command = some .print) :
    ∃ l', programGrammar.readAll (before ++ "-v" :: after) = .ok l' ∧
      takeProgram s l' = .ok (s'.loud, []) := by
  induction before generalizing s l with
  | nil =>
    refine ⟨("-v", .flag verboseMatch) :: l, ?_, ?_⟩
    · rw [List.nil_append, readAll_cons read_verbose nofun, ← List.nil_append after, hread, map_ok]
    · rw [takeProgram_verbose, htake]
      rfl
  | cons a before ih =>
    have ha : a ≠ "print" := fun h ↦ hbefore (h ▸ List.mem_cons_self)
    have hrest : "print" ∉ before := fun h ↦ hbefore (List.mem_cons_of_mem _ h)
    rw [List.cons_append] at hread
    obtain ⟨m, rest, hm, hread', rfl⟩ := exists_flag_of_takeProgram ha hread htake hprint
    rw [takeProgram] at htake
    obtain ⟨found, hfound, htake⟩ := bind_eq_ok.mp htake
    obtain ⟨t, ht, htake⟩ := bind_eq_ok.mp htake
    obtain ⟨l', hl', htake'⟩ := ih hrest hread' htake
    refine ⟨(a, .flag m) :: l', ?_, ?_⟩
    · rw [List.cons_append, readAll_cons hm nofun, hl', map_ok]
    · rw [takeProgram, flagsOf_program l'.head? rest.head? hm, hfound, ok_bind]
      dsimp only
      rw [ht, ok_bind, htake']

/-- **The flag for verbose output before the command** changes the settings in its own field
only. -/
theorem parse_insert_verbose {before after : List String} (hbefore : "print" ∉ before)
    (h : parse (before ++ after) = .ok s) (hprint : s.command = some .print) :
    parse (before ++ "-v" :: after) = .ok s.loud := by
  rw [parse] at h ⊢
  cases hread : programGrammar.readAll (before ++ after) with
  | error f =>
    rw [hread] at h
    cases h
  | ok l =>
    rw [hread, refuse, ok_bind] at h
    obtain ⟨⟨s', left⟩, htake, h⟩ := bind_eq_ok.mp h
    dsimp only at h
    split at h
    · next hleft =>
      cases h
      rw [List.isEmpty_iff.mp hleft] at htake
      obtain ⟨l', hl', htake'⟩ := takeProgram_insert_verbose hbefore hread htake hprint
      rw [hl', refuse, ok_bind, htake']
      rfl
    · cases h

end GatewayPrint.CommandLine
