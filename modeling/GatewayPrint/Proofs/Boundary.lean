import GatewayPrint.Proofs.Console.Escaping
import GatewayPrint.Proofs.Doctor

/-!
# The error boundary

Whatever happens inside it, a run ends by a request to exit. The only way out would be a message of
the boundary itself that the console refuses, since what it says quotes failures whose text comes
from files and arguments. No text can bring this about: all tags that act in a message are those of
the words it begins with (`Shows`).
-/

namespace GatewayPrint

open Outcome

namespace App

variable {w : Surroundings} {args : List String} {f : Failure} {error : Foreign}

/-- The console does not refuse markup, whatever it makes of styles, and the tags that act in it are
the given ones. -/
structure Shows (markup : String) (tags : List String) : Prop where
  accepted : ∀ reader, Markup.fault? reader markup.toList = none
  tags : Markup.tags markup.toList = tags.map String.toList

/-- Markup of the program's own: it leaves on what was on. -/
structure Leads (lead : String) (tags : List String) : Prop where
  balanced : Markup.IsBalanced lead.toList
  tags : Markup.tags lead.toList = tags.map String.toList

theorem Leads.shows {lead : String} {tags : List String} (h : Leads lead tags) :
    Shows lead tags := ⟨h.balanced.fault?, h.tags⟩

/-- **A text behind a lead** adds no tag that acts. -/
theorem Leads.shows_escaped {lead : String} {tags : List String} (h : Leads lead tags)
    (text : String) : Shows (lead ++ escaped text) tags := by
  have hlist : (lead ++ escaped text).toList = lead.toList ++ Markup.escape text.toList := by
    simp [escaped]
  constructor
  · intro reader
    rw [hlist, h.balanced.fault?_append_escape]
  · rw [hlist, h.balanced.tags_append_escape, h.tags]

theorem Leads.append {lead text : String} {tags : List String} (h : Leads lead tags)
    (htext : Markup.IsQuiet text.toList) : Leads (lead ++ text) tags := by
  constructor
  · rw [String.toList_append]
    exact h.balanced.append (Markup.isBalanced_of_isQuiet htext)
  · rw [String.toList_append, h.balanced.tags_append, Markup.tags_of_isQuiet htext,
      List.append_nil, h.tags]

theorem Leads.prepend {lead text : String} {tags : List String} (h : Leads lead tags)
    (htext : Markup.IsQuiet text.toList) : Leads (text ++ lead) tags := by
  have hbalanced := Markup.isBalanced_of_isQuiet htext
  constructor
  · rw [String.toList_append]
    exact hbalanced.append h.balanced
  · rw [String.toList_append, hbalanced.tags_append, Markup.tags_of_isQuiet htext,
      List.nil_append, h.tags]

theorem leads_inStyle {style word : String} (hstyle : Markup.IsStyle style.toList)
    (hword : Markup.IsQuiet word.toList) :
    Leads (Markup.inStyle style word) [style, "/" ++ style] := by
  refine ⟨Markup.isBalanced_inStyle hstyle hword, ?_⟩
  rw [Markup.tags_inStyle hstyle hword]
  simp

/-! ## What is said about failures -/

theorem leads_errorLead : Leads errorLead ["bold red", "/bold red"] :=
  (leads_inStyle (by decide) (by decide)).append (by decide)

theorem leads_hintLead : Leads hintLead ["yellow", "/yellow"] :=
  (leads_inStyle (by decide) (by decide)).append (by decide)

theorem leads_surpriseLead {kind : String} (h : Markup.IsQuiet kind.toList) :
    Leads (surpriseLead kind) ["bold red", "/bold red"] := by
  have hlead : Leads (Markup.inStyle "bold red" "Unexpected error.") ["bold red", "/bold red"] :=
    leads_inStyle (by decide) (by decide)
  exact ((hlead.append (by decide)).append h).append (by decide)

theorem leads_farewell : Leads farewell ["yellow", "/yellow"] :=
  (leads_inStyle (by decide) (by decide)).prepend (by decide)

private theorem isQuiet_of_mem_escapingKinds {kind : String}
    (h : kind ∈ Kubeconfig.Fault.escapingKinds) : Markup.IsQuiet kind.toList := by
  have hall : ∀ kind ∈ Kubeconfig.Fault.escapingKinds, Markup.IsQuiet kind.toList := by
    decide
  exact hall kind h

/-- **What is said about a failure** is shown, as soon as an error of other code has a plain
class. -/
theorem shows_notice (h : ∀ error, f = .foreign error → Markup.IsQuiet error.kind.toList)
    {markup : String} (hm : markup ∈ notice f) : ∃ tags, Shows markup tags := by
  -- An error of the program comes with its hint, everything else is one message.
  have hown : markup ∈ (errorLead ++ escaped f.message) :: hintNotice f.hint →
      ∃ tags, Shows markup tags := by
    intro hm
    rcases List.mem_cons.mp hm with rfl | hm
    · exact ⟨_, leads_errorLead.shows_escaped _⟩
    · cases hhint : f.hint with
      | none =>
        rw [hhint] at hm
        cases hm
      | some hint =>
        rw [hhint, hintNotice] at hm
        split at hm
        · cases hm
        · rw [List.mem_singleton.mp hm]
          exact ⟨_, leads_hintLead.shows_escaped _⟩
  cases f with
  | exit code => cases hm
  | interrupt message =>
    rw [List.mem_singleton.mp hm]
    exact ⟨_, leads_farewell.shows⟩
  | foreign error =>
    rw [List.mem_singleton.mp hm]
    exact ⟨_, (leads_surpriseLead (h error rfl)).shows_escaped _⟩
  | _ => exact hown hm

/-- The texts that the console shows of messages. -/
def displayed (w : Surroundings) (messages : List String) : String :=
  String.join (messages.map fun markup ↦ String.ofList (Console.display w.width markup.toList))

theorem say_eq (w : Surroundings) {messages : List String}
    (h : ∀ markup ∈ messages, ∃ tags, Shows markup tags) :
    say w messages = (displayed w messages, none) := by
  induction messages with
  | nil => rfl
  | cons markup rest ih =>
    obtain ⟨tags, hshows⟩ := h markup List.mem_cons_self
    rw [say, onConsole, hshows.accepted, ih fun m hm ↦ h m (List.mem_cons_of_mem _ hm)]
    simp [displayed]

/-! ## What escapes from a run -/

/-- An error of other code that ends a run comes from the look-up of the current context. -/
theorem kind_of_main (h : (main w args).ending = .failed (.foreign error)) :
    error.kind ∈ Kubeconfig.Fault.escapingKinds := by
  rw [main] at h
  cases hparse : CommandLine.parse args with
  | error stop =>
    rw [hparse] at h
    cases stop <;> cases h
  | ok s =>
    rw [hparse] at h
    dsimp only at h
    -- The doctor and the print command let errors of other code through from the look-up alone.
    split at h
    · cases h
    · rcases doctor_ending w s with ⟨f, ⟨g, hg, hc⟩, hend⟩ | ⟨-, cs, -, hend, -⟩
      · obtain ⟨error', rfl⟩ := foreign_of_not_isConfigFailure hg hc
        cases (doctor_of_foreign (checks_of_otherFailure hg hc)).symm.trans h
        exact kind_of_activeNamespace hg
      · cases hend.symm.trans h
    · cases hfailure : (print w s).failure with
      | none =>
        simp only [hfailure] at h
        cases h
      | some f =>
        simp only [hfailure] at h
        cases f with
        | foreign error' =>
          cases h
          exact kind_of_print hfailure
        | _ => cases h

private theorem main_ending_ne_failed_exit (w : Surroundings) (args : List String)
    (code : ExitCode) : (main w args).ending ≠ .failed (.exit code) := by
  have hending : ∀ f, endingOf f ≠ .failed (.exit code) := by
    intro f
    cases f <;> rintro ⟨⟩
  rw [main]
  split
  · next stop _ => cases stop <;> rintro ⟨⟩
  · split
    · rintro ⟨⟩
    · rw [doctor]
      split
      · exact hending _
      · rintro ⟨⟩
    · dsimp only
      split
      · rintro ⟨⟩
      · exact hending _

/-! ## The boundary -/

theorem cli_of_returned {s : ExitStatus} (h : (main w args).ending = .returned s) :
    cli w args = { main w args with ending := .exited (codeOf s) } := by
  rw [cli]
  dsimp only
  rw [h]

theorem cli_of_exited {code : ExitCode} (h : (main w args).ending = .exited code) :
    cli w args = main w args := by
  rw [cli]
  dsimp only
  rw [h]

/-- A failure is put into words, and none of them is refused. -/
theorem cli_of_failed (h : (main w args).ending = .failed f) :
    cli w args = { main w args with
      err := (main w args).err ++ displayed w (notice f)
      ending := .exited (failureCode f) } := by
  have hsay : say w (notice f) = (displayed w (notice f), none) := by
    refine say_eq w fun markup hm ↦ shows_notice (fun error hf ↦ ?_) hm
    subst hf
    exact isQuiet_of_mem_escapingKinds (kind_of_main h)
  rw [cli]
  dsimp only
  rw [h]
  dsimp only
  rw [hsay]

theorem failureCode_eq (h : (main w args).ending = .failed f) :
    failureCode f = .number (if f.isOwn then 1 else if f.isError then 2 else 130) := by
  cases f with
  | exit code => exact absurd h (main_ending_ne_failed_exit w args code)
  | _ => rfl

/-- **The error boundary is complete and safe.** For all command lines and surroundings:

* A run ends by a request to exit: with the status that it returns; as it is, when it ends by such a
  request already; and after a failure with 1 for an error of the program, 130 for an interrupt, and
  2 for any other error. All that the boundary says about a failure is shown behind what the run
  itself wrote, and nothing else changes.
* A command line that asks for help or for the version, or is refused, and an engine that asks to
  exit, end the run as they do without the boundary.
* Whatever text an error or a hint has, the console shows the message, and the only tags that act in
  it are the two of its first words. -/
theorem cli_exits (w : Surroundings) (args : List String) :
    (match (main w args).ending with
      | .returned s => cli w args = { main w args with ending := .exited (.number s.code) }
      | .exited _ => cli w args = main w args
      | .failed f => cli w args = { main w args with
          err := (main w args).err ++ displayed w (notice f)
          ending := .exited (.number (if f.isOwn then 1 else if f.isError then 2 else 130)) }) ∧
    (∀ stop, CommandLine.parse args = .error stop → cli w args = stopped stop) ∧
    (∀ s code, CommandLine.parse args = .ok s → s.command = some .print →
      (print w s).failure = some (.exit code) → (cli w args).ending = .exited code) ∧
    ∀ text,
      Shows (errorLead ++ escaped text) ["bold red", "/bold red"] ∧
      Shows (hintLead ++ escaped text) ["yellow", "/yellow"] ∧
      (∀ kind, '[' ∉ kind.toList → '\\' ∉ kind.toList →
        Shows (surpriseLead kind ++ escaped text) ["bold red", "/bold red"]) ∧
      Shows farewell ["yellow", "/yellow"] := by
  refine ⟨?_, fun stop hstop ↦ ?_, fun s code hs hprint hcode ↦ ?_, fun text ↦ ⟨?_, ?_, ?_, ?_⟩⟩
  · split
    · next s hs => exact cli_of_returned hs
    · next code hcode => exact cli_of_exited hcode
    · next f hf => rw [cli_of_failed hf, failureCode_eq hf]
  · have hmain : main w args = stopped stop := by rw [main, hstop]
    have hending : ∃ code, (stopped stop).ending = .exited code := by
      cases stop <;> exact ⟨_, rfl⟩
    obtain ⟨code, hcode⟩ := hending
    rw [cli_of_exited (by rw [hmain, hcode]), hmain]
  · have hending : (main w args).ending = .exited code := by
      rw [main, hs]
      dsimp only
      rw [hprint]
      dsimp only
      rw [hcode]
      rfl
    rw [cli_of_exited hending, hending]
  · exact leads_errorLead.shows_escaped text
  · exact leads_hintLead.shows_escaped text
  · intro kind hopen hback
    have hquiet : Markup.IsQuiet kind.toList := by
      intro c hc
      constructor
      · rintro rfl
        exact hopen hc
      · rintro rfl
        exact hback hc
    exact (leads_surpriseLead hquiet).shows_escaped text
  · exact leads_farewell.shows

end App

/-! ## The doctor's table -/

namespace Doctor

variable {s : Kubeconfig.Source} {i : Installation} {c : Check} {cs : List Check}

private theorem label_of_kubeconfigChecks (h : (kubeconfigChecks s).result = .ok cs) (hc : c ∈ cs) :
    c.label ∈ ["kubeconfig", "namespace"] := by
  have hchecks := kubeconfigChecks_eq s
  split at hchecks
  · obtain ⟨files, hok, hlabel, -⟩ := hchecks
    cases hok.symm.trans h
    simp only [List.mem_cons, List.not_mem_nil, or_false] at hc
    rcases hc with rfl | rfl
    · simp [hlabel]
    · simp
  · split at hchecks
    · obtain ⟨cs', hok, htells⟩ := hchecks
      cases hok.symm.trans h
      rcases htells with rfl | ⟨files, rfl, hlabel, -⟩
      · simp [List.mem_singleton.mp hc]
      · simp only [List.mem_cons, List.not_mem_nil, or_false] at hc
        rcases hc with rfl | rfl
        · simp [hlabel]
        · simp
    · cases hchecks.symm.trans h

def labels : List String :=
  [Program.name, "Python", "kubernetes", "PyYAML", "kubeconfig", "namespace", "engines"]

private theorem label_mem_labels (h : (checks i s).result = .ok cs) (hc : c ∈ cs) :
    c.label ∈ labels := by
  rw [result_checks] at h
  obtain ⟨config, hconfig, rfl⟩ := map_eq_ok.mp h
  simp only [List.mem_append, List.mem_cons, List.not_mem_nil, or_false] at hc
  rcases hc with ((rfl | rfl | rfl | rfl) | hc) | rfl
  · decide
  · exact List.mem_cons_of_mem _ List.mem_cons_self
  · rw [label_packageCheck]
    decide
  · rw [label_packageCheck]
    decide
  · have hlabel := label_of_kubeconfigChecks hconfig hc
    simp only [List.mem_cons, List.not_mem_nil, or_false] at hlabel
    rcases hlabel with hlabel | hlabel
    all_goals
      rw [hlabel]
      decide
  · rw [label_engineCheck]
    decide

/-- **The cells of the doctor's table** are shown, whatever was found. -/
theorem fault?_rowMarkup (h : (checks i s).result = .ok cs) (hc : c ∈ cs) {markup : List Char}
    (hm : markup ∈ rowMarkup c) (reader : Markup.StyleReader) :
    Markup.fault? reader markup = none := by
  have hnil : Markup.IsBalanced [] := Markup.isBalanced_of_isQuiet (fun c hc ↦ nomatch hc)
  simp only [rowMarkup, List.mem_cons, List.not_mem_nil, or_false] at hm
  rcases hm with rfl | rfl | rfl
  · have hquiet : ∀ label ∈ labels, Markup.IsQuiet label.toList := by decide
    exact (Markup.isBalanced_of_isQuiet (hquiet _ (label_mem_labels h hc))).fault? reader
  · exact hnil.fault?_append_escape reader _
  · have hstatus : ∀ status : Status,
        Markup.IsStyle status.colour.toList ∧ Markup.IsQuiet status.text.toList := by
      intro status
      cases status <;> decide
    exact (Markup.isBalanced_inStyle (hstatus c.status).1 (hstatus c.status).2).fault? reader

end Doctor

end GatewayPrint
