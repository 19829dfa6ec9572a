import GatewayPrint.Proofs.Boundary
import GatewayPrint.Proofs.Console.Shown
import GatewayPrint.Proofs.Records

/-!
# The text of an error on the console

An error of the program and its hint are to be read on the console as they are, whatever they quote:
paths, names of formats, texts of other code. The error boundary escapes both, and the console wraps
them.

For printable ASCII it can be told from the two texts alone whether this works: they must be shown
as they are, each on its own (`Markup.IsIntact`), on a console that has any width at all.
-/

namespace GatewayPrint.App

open Text

variable {w : Surroundings} {args : List String} {f : Failure} {width : Nat}

/-! ## Notices -/

/-- A text behind a word in a style. -/
structure Notice where
  style : String
  word : String
  text : String

namespace Notice

def markup (n : Notice) : String := Markup.inStyle n.style n.word ++ " " ++ escaped n.text

/-- The characters that are to be read of notices. -/
def reading (ns : List Notice) : List Char :=
  ns.flatMap fun n ↦ n.word.toList ++ n.text.toList

/-- What a console shows of notices. -/
def output (width : Nat) (ns : List Notice) : List Char :=
  ns.flatMap fun n ↦ Console.display width n.markup.toList

/-- A word of the program's own in a style. -/
structure IsLead (style word : String) : Prop where
  style : Markup.IsStyle style.toList
  quiet : Markup.IsQuiet word.toList
  plain : IsPlain word.toList
  visible : solid word.toList ≠ []
  shown : Markup.shownText word.toList = word.toList

private theorem isLead_error : IsLead "bold red" "Error:" where
  style := by decide
  quiet := by decide
  plain := by decide
  visible := by decide
  shown := Markup.shownText_of_isQuiet (by decide) (by decide) (by decide)

private theorem isLead_hint : IsLead "yellow" "Hint:" where
  style := by decide
  quiet := by decide
  plain := by decide
  visible := by decide
  shown := Markup.shownText_of_isQuiet (by decide) (by decide) (by decide)

/-- A notice that says a printable text. -/
structure IsPrintable (n : Notice) : Prop where
  lead : IsLead n.style n.word
  text : IsPlain n.text.toList

/-- No emoji is shown in a notice. -/
def IsUncoded (n : Notice) : Prop :=
  Markup.IsUncoded (Markup.segments (Markup.tokens n.text.toList))

variable {n : Notice} {ns : List Notice} {width : Nat}

theorem IsPrintable.plain_markup (h : n.IsPrintable) :
    Markup.plain n.markup.toList = n.word.toList ++ ' ' :: Markup.shown n.text.toList := by
  have hlist : n.markup.toList
      = (Markup.inStyle n.style n.word).toList ++ ' ' :: Markup.escape n.text.toList := by
    simp [markup, escaped]
  rw [hlist, Markup.plain_inStyle_escape h.lead.style h.lead.quiet, h.lead.shown]

theorem IsPrintable.isLine (h : n.IsPrintable) : Console.IsLine (Markup.plain n.markup.toList) := by
  rw [h.plain_markup]
  intro c hc
  rcases List.mem_append.mp hc with hc | hc
  · exact Console.isLine_of_isPlain h.lead.plain c hc
  · rcases List.mem_cons.mp hc with rfl | hc
    · decide
    · exact Markup.isLine_shown h.text c hc

theorem IsPrintable.isPlain (h : n.IsPrintable) (hcodes : n.IsUncoded) :
    IsPlain (Markup.plain n.markup.toList) := by
  rw [h.plain_markup]
  refine h.lead.plain.append (List.forall_mem_cons.mpr ⟨by decide, ?_⟩)
  exact Markup.isPlain_shown h.text hcodes

private theorem solid_plain_markup (h : n.IsPrintable) :
    solid (Markup.plain n.markup.toList)
      = solid n.word.toList ++ solid (Markup.shown n.text.toList) := by
  rw [h.plain_markup, solid_append]
  rfl

theorem colons_solid (s : List Char) : colons (solid s) = colons s := List.count_filter rfl

private theorem colons_output (h : ∀ n ∈ ns, n.IsPrintable) (width : Nat) :
    colons (output width ns) ≤ colons (reading ns) ∧
      (colons (output width ns) = colons (reading ns) → ∀ n ∈ ns, n.IsUncoded) := by
  induction ns with
  | nil => exact ⟨Nat.le_refl _, fun _ ↦ nofun⟩
  | cons n ns ih =>
    obtain ⟨hn, hns⟩ := List.forall_mem_cons.mp h
    obtain ⟨hle, hsame⟩ := ih hns
    obtain ⟨htext, hcodes⟩ := Markup.colons_shown n.text.toList
    have hshown : colons (Console.display width n.markup.toList)
        ≤ colons n.word.toList + colons (Markup.shown n.text.toList) := by
      have hsub := (Console.solid_display_sublist hn.isLine width).count_le ':'
      change colons _ ≤ colons _ at hsub
      rwa [colons_solid, colons_solid, hn.plain_markup, colons_append,
        colons_cons_of_ne (by decide)] at hsub
    rw [output, reading, List.flatMap_cons, List.flatMap_cons, colons_append, colons_append,
      colons_append, ← output, ← reading]
    refine ⟨by omega, fun h ↦ List.forall_mem_cons.mpr ⟨hcodes ?_, hsame ?_⟩⟩
    · omega
    · omega

/-- Wrapping loses nothing of notices without emoji. -/
theorem solid_output (hwidth : 0 < width) (h : ∀ n ∈ ns, n.IsPrintable)
    (hcodes : ∀ n ∈ ns, n.IsUncoded) :
    solid (output width ns)
      = ns.flatMap fun n ↦ solid n.word.toList ++ solid (Markup.shown n.text.toList) := by
  rw [output, solid, List.filter_flatMap, List.flatMap_def, List.flatMap_def]
  refine congrArg List.flatten (List.map_congr_left fun n hn ↦ ?_)
  rw [← solid_plain_markup (h n hn)]
  exact Console.solid_display hwidth ((h n hn).isPlain (hcodes n hn))

theorem solid_output_zero (h : ∀ n ∈ ns, n.IsPrintable) (hcodes : ∀ n ∈ ns, n.IsUncoded) :
    solid (output 0 ns) = [] := by
  rw [output, solid, List.filter_flatMap, List.flatMap_eq_nil_iff]
  exact fun n hn ↦ Console.solid_display_zero ((h n hn).isPlain (hcodes n hn))

theorem solid_reading (ns : List Notice) :
    solid (reading ns) = ns.flatMap fun n ↦ solid n.word.toList ++ solid n.text.toList := by
  rw [reading, solid, List.filter_flatMap]
  simp only [List.filter_append]
  rfl

/-- What is to be read of notices does not begin with a backslash. -/
theorem head?_solid_reading (h : ∀ n ∈ ns, n.IsPrintable) :
    (solid (reading ns)).head? ≠ some '\\' := by
  rw [solid_reading]
  intro hhead
  cases ns with
  | nil => cases hhead
  | cons n ns =>
    have hn := (h n List.mem_cons_self).lead
    obtain ⟨c, word, hword⟩ := List.exists_cons_of_ne_nil hn.visible
    rw [List.flatMap_cons, hword] at hhead
    obtain rfl := Option.some.inj hhead
    have hmem : '\\' ∈ solid n.word.toList := hword ▸ List.mem_cons_self
    exact (hn.quiet _ (List.mem_filter.mp hmem).1).2 rfl

/-- Notices of which everything is shown are shown as they are. -/
theorem isIntact_of_solid (h : ∀ n ∈ ns, n.IsPrintable) (hcodes : ∀ n ∈ ns, n.IsUncoded)
    (heq : (ns.flatMap fun n ↦ solid n.word.toList ++ solid (Markup.shown n.text.toList))
      = solid (reading ns)) : ∀ n ∈ ns, Markup.IsIntact n.text.toList := by
  induction ns with
  | nil => exact nofun
  | cons n ns ih =>
    obtain ⟨hn, hns⟩ := List.forall_mem_cons.mp h
    obtain ⟨hncodes, hnscodes⟩ := List.forall_mem_cons.mp hcodes
    rw [solid_reading, List.flatMap_cons, List.flatMap_cons, List.append_assoc, List.append_assoc,
      ← solid_reading] at heq
    obtain ⟨hintact, hrest⟩ := Markup.isIntact_of_solid hn.text hncodes (head?_solid_reading hns)
      (List.append_cancel_left heq)
    exact List.forall_mem_cons.mpr ⟨hintact, ih hns hnscodes hrest⟩

/-- **When notices are read as they are**: on a console with any width, if each of their texts is
shown as it is. -/
theorem solid_output_iff (h : ∀ n ∈ ns, n.IsPrintable) (hne : ns ≠ []) :
    solid (output width ns) = solid (reading ns) ↔
      0 < width ∧ ∀ n ∈ ns, Markup.IsIntact n.text.toList := by
  constructor
  · intro heq
    have hcolons : colons (output width ns) = colons (reading ns) := by
      rw [← colons_solid, heq, colons_solid]
    have hcodes := (colons_output h width).2 hcolons
    have hwidth : 0 < width := by
      by_contra hzero
      obtain rfl := Nat.eq_zero_of_not_pos hzero
      obtain ⟨n, ns, rfl⟩ := List.exists_cons_of_ne_nil hne
      rw [solid_output_zero h hcodes, solid_reading, List.flatMap_cons] at heq
      have hword := (List.append_eq_nil_iff.mp (List.append_eq_nil_iff.mp heq.symm).1).1
      exact (h n List.mem_cons_self).lead.visible hword
    rw [solid_output hwidth h hcodes] at heq
    exact ⟨hwidth, isIntact_of_solid h hcodes heq⟩
  · rintro ⟨hwidth, hintact⟩
    have hcodes : ∀ n ∈ ns, n.IsUncoded := fun n hn ↦ (hintact n hn).isUncoded
    rw [solid_output hwidth h hcodes, solid_reading, List.flatMap_def, List.flatMap_def]
    refine congrArg List.flatten (List.map_congr_left fun n hn ↦ ?_)
    rw [(hintact n hn).shown_eq (h n hn).text]

end Notice

/-! ## What is said about a failure -/

/-- The notice of a hint, unless it is empty. -/
def hintNotices : Option String → List Notice
  | none => []
  | some h => if h.isEmpty then [] else [⟨"yellow", "Hint:", h⟩]

def notices (f : Failure) : List Notice := ⟨"bold red", "Error:", f.message⟩ :: hintNotices f.hint

/-- What is to be read of a hint, unless it is empty. -/
def hintText : Option String → String
  | none => ""
  | some h => if h.isEmpty then "" else "Hint:" ++ h

/-- What is to be read of an error of the program. -/
def errorText (f : Failure) : String := "Error:" ++ f.message ++ hintText f.hint

theorem hintNotice_eq (hint : Option String) :
    hintNotice hint = (hintNotices hint).map Notice.markup := by
  cases hint with
  | none => rfl
  | some h =>
    rw [hintNotice, hintNotices]
    split <;> rfl

theorem notice_eq (hown : f.isOwn = true) : notice f = (notices f).map Notice.markup := by
  have hnotice : notice f = (errorLead ++ escaped f.message) :: hintNotice f.hint := by
    cases f with
    | foreign error => cases hown
    | interrupt message => cases hown
    | exit code => cases hown
    | _ => rfl
  rw [hnotice, hintNotice_eq, notices, List.map_cons]
  rfl

theorem toList_hintText (hint : Option String) :
    (hintText hint).toList = Notice.reading (hintNotices hint) := by
  cases hint with
  | none => rfl
  | some h =>
    rw [hintText, hintNotices]
    split
    · rfl
    · simp [Notice.reading]

theorem toList_errorText (f : Failure) : (errorText f).toList = Notice.reading (notices f) := by
  rw [errorText, String.toList_append, String.toList_append, toList_hintText]
  rfl

private theorem isPrintable_notices (hmessage : IsPlain f.message.toList)
    (hhint : ∀ h ∈ f.hint, IsPlain h.toList) : ∀ n ∈ notices f, n.IsPrintable := by
  refine List.forall_mem_cons.mpr ⟨⟨Notice.isLead_error, hmessage⟩, fun n hn ↦ ?_⟩
  rw [hintNotices.eq_def] at hn
  split at hn
  · cases hn
  · next h heq =>
    split at hn
    · cases hn
    · rw [List.mem_singleton.mp hn]
      exact ⟨Notice.isLead_hint, hhint h heq⟩

theorem forall_mem_notices_iff :
    (∀ n ∈ notices f, Markup.IsIntact n.text.toList) ↔
      Markup.IsIntact f.message.toList ∧ ∀ h ∈ f.hint, Markup.IsIntact h.toList := by
  rw [notices, List.forall_mem_cons]
  refine and_congr_right fun _ ↦ ?_
  cases f.hint with
  | none => exact iff_of_true nofun nofun
  | some h =>
    rw [hintNotices]
    split
    · next hempty =>
      refine iff_of_true nofun fun h' hh ↦ ?_
      cases hh
      rw [String.isEmpty_iff.mp hempty]
      exact Markup.isIntact_of_isQuiet (by decide) (by decide)
    · simp

/-! ## On the console -/

theorem toList_displayed (w : Surroundings) (ns : List Notice) :
    (displayed w (ns.map Notice.markup)).toList = Notice.output w.width ns := by
  induction ns with
  | nil => rfl
  | cons n ns ih =>
    have hcons : (displayed w ((n :: ns).map Notice.markup)).toList
        = Console.display w.width n.markup.toList
          ++ (displayed w (ns.map Notice.markup)).toList := by
      simp [displayed, String.join_cons]
    rw [hcons, ih, Notice.output, Notice.output, List.flatMap_cons]

/-- A run that ends by an error of the program has shown nothing before. -/
theorem err_main_of_own {s : CommandLine.Settings} (hparse : CommandLine.parse args = .ok s)
    (hverbose : s.verbose = false) (h : (main w args).ending = .failed f)
    (hown : f.isOwn = true) : (main w args).err = "" := by
  rw [main, hparse] at h ⊢
  dsimp only at h ⊢
  split at h
  · cases h
  · -- The doctor fails by errors of other code only.
    rcases doctor_ending w s with ⟨f', ⟨g, hg, hc⟩, hend⟩ | ⟨-, cs, -, hend, -⟩
    · obtain ⟨error, rfl⟩ := foreign_of_not_isConfigFailure hg hc
      cases (doctor_of_foreign (checks_of_otherFailure hg hc)).symm.trans h
      cases hown
    · cases hend.symm.trans h
  · rw [hverbose]
    exact logText_print w s

/-- **The text of an error on the console.** When a run without verbose output ends by an error of
the program, and its text and its hint are printable ASCII, then what is on the console reads, apart
from spaces and line ends, as `Error:` with the text, and `Hint:` with the hint unless that is
empty, if and only if the console has any width and both are texts that are shown as they are. -/
theorem cli_err_of_own {s : CommandLine.Settings} (hparse : CommandLine.parse args = .ok s)
    (hverbose : s.verbose = false) (h : (main w args).ending = .failed f) (hown : f.isOwn = true)
    (hmessage : IsPlain f.message.toList) (hhint : ∀ h ∈ f.hint, IsPlain h.toList) :
    solid (cli w args).err.toList = solid (errorText f).toList ↔
      0 < w.width ∧ Markup.IsIntact f.message.toList ∧
        ∀ h ∈ f.hint, Markup.IsIntact h.toList := by
  have herr : (cli w args).err.toList = Notice.output w.width (notices f) := by
    rw [cli_of_failed h, err_main_of_own hparse hverbose h hown, notice_eq hown]
    dsimp only
    rw [String.empty_append, toList_displayed]
  rw [herr, toList_errorText,
    Notice.solid_output_iff (isPrintable_notices hmessage hhint) (List.cons_ne_nil _ _),
    forall_mem_notices_iff]

/-- A console of twelve cells. -/
def narrow : Surroundings := { (default : Surroundings) with width := 12 }

theorem cli_err_of_own_tagged :
    solid (cli narrow ["print", "-o", "a[/b]"]).err.toList
        = solid "Error:a[/b] is not a supported output formatHint:Use one of: json, yaml".toList ∧
      ¬ solid (cli narrow ["print", "-o", "a\\[1]"]).err.toList
        = solid
          "Error:a\\[1] is not a supported output formatHint:Use one of: json, yaml".toList := by
  have hhint : ∀ h ∈ some "Use one of: json, yaml", Markup.IsIntact h.toList := by
    rintro h ⟨⟩
    exact Markup.isIntact_of_isQuiet (by decide) (by decide)
  have hplain : ∀ h ∈ some "Use one of: json, yaml", IsPlain h.toList := by
    rintro h ⟨⟩
    decide
  have htagged : Markup.segments (Markup.tokens "a[/b] is not a supported output format".toList)
      = ["a".toList, [], "[/b]".toList, " is not a supported output format".toList] := by
    have hsplit : "a[/b] is not a supported output format".toList = "a".toList
        ++ (List.replicate 0 '\\' ++ Markup.bracketed "/b".toList
          ++ " is not a supported output format".toList) := by
      decide
    rw [hsplit, Markup.tokens_append_of_isQuiet (by decide), Markup.tokens_tag 0 (by decide),
      Markup.tokens_of_isQuiet (by decide)]
    rfl
  have huntagged : Markup.segments (Markup.tokens "a\\[1] is not a supported output format".toList)
      = ["a\\[1] is not a supported output format".toList] := by
    have hsplit : "a\\[1] is not a supported output format".toList = "a".toList
        ++ '\\' :: '[' :: "1] is not a supported output format".toList := by
      decide
    have hopen : Markup.IsUntagged ('[' :: "1] is not a supported output format".toList) := rfl
    rw [hsplit, Markup.tokens_append_of_isQuiet (by decide),
      Markup.tokens_char (Markup.isUntagged_cons_backslash.mpr hopen), Markup.tokens_char hopen,
      Markup.tokens_of_isQuiet (by decide)]
    rfl
  constructor
  · refine (cli_err_of_own (f := .unsupportedFormat (.text "a[/b]") (some "Use one of: json, yaml"))
      rfl rfl rfl rfl (by decide) hplain).mpr ⟨by decide, ?_, hhint⟩
    have hunescaped : ∀ t ∈ ["a".toList, [], "[/b]".toList,
        " is not a supported output format".toList], Markup.IsUnescaped t := by
      decide
    rw [← htagged] at hunescaped
    exact Markup.isIntact_of_colons (by decide) (by decide) hunescaped
  · refine (cli_err_of_own
      (f := .unsupportedFormat (.text "a\\[1]") (some "Use one of: json, yaml"))
      rfl rfl rfl rfl (by decide) hplain).not.mpr fun ⟨_, hintact, _⟩ ↦ ?_
    have hescaped : ¬ Markup.IsUnescaped "a\\[1] is not a supported output format".toList := by
      decide
    exact hescaped (hintact.unescaped _ (huntagged ▸ List.mem_cons_self))

end GatewayPrint.App
