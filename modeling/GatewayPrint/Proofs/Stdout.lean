import GatewayPrint.Proofs.Boundary
import GatewayPrint.Proofs.CommandLine.Verbose

/-!
# Standard output of the print command

Standard output belongs to the engine. Nothing else writes there: records and what is said about
failures go to the console, and a run that does not get as far as an engine writes nothing. So the
output says whether and how far the engine got, and asking for verbose output, which only shows more
records, changes nothing of it.
-/

namespace GatewayPrint.App

open CommandLine (Settings)

variable {w : Surroundings} {args : List String} {s : Settings}

/-! ## Inside and outside of the boundary -/

theorem out_cli (w : Surroundings) (args : List String) : (cli w args).out = (main w args).out := by
  rw [cli]
  dsimp only
  split <;> rfl

theorem calls_cli (w : Surroundings) (args : List String) :
    (cli w args).calls = (main w args).calls := by
  rw [cli]
  dsimp only
  split <;> rfl

/-- Runs that end alike end alike inside the boundary. -/
theorem ending_cli_congr {args' : List String} (h : (main w args').ending = (main w args).ending) :
    (cli w args').ending = (cli w args).ending := by
  cases hending : (main w args).ending with
  | returned s => rw [cli_of_returned (h.trans hending), cli_of_returned hending]
  | exited code => rw [cli_of_exited (h.trans hending), cli_of_exited hending, h]
  | failed f => rw [cli_of_failed (h.trans hending), cli_of_failed hending]

/-- What a print command leaves behind besides the console. -/
theorem main_of_print (hs : CommandLine.parse args = .ok s) (hprint : s.command = some .print)
    (w : Surroundings) :
    (main w args).out = (print w s).out ∧ (main w args).calls = (print w s).calls ∧
      (main w args).ending = match (print w s).failure with
        | none => .returned .success
        | some f => endingOf f := by
  rw [main, hs]
  dsimp only
  rw [hprint]
  exact ⟨rfl, rfl, rfl⟩

/-- The print command does not look at whether output is verbose. -/
theorem print_loud (w : Surroundings) (s : Settings) : print w s.loud = print w s := rfl

/-! ## Standard output -/

/-- **Standard output belongs to the engine.** For every print command line that is accepted:

* Either the command gets as far as an engine, and then it calls this engine once and writes exactly
  what the engine writes, by itself or through its printer, until it returns or fails; or it does
  not, because of the format, the filter, or the engine, and then it calls nothing and writes
  nothing.
* Putting `-v` anywhere before the command changes neither the output, nor the way the run ends, nor
  the calls. -/
theorem cli_out_of_print (hs : CommandLine.parse args = .ok s) (hprint : s.command = some .print)
    (w : Surroundings) :
    ((∃ format filter e, Reaches w s format filter e ∧
        (cli w args).calls = [⟨e.name, (Printer.new format).name, filter⟩] ∧
        (cli w args).out = String.join (Engine.written filter (.new format) e.actions)) ∨
      ((∀ format filter e, ¬Reaches w s format filter e) ∧
        (cli w args).calls = [] ∧ (cli w args).out = "")) ∧
    ∀ before after, args = before ++ after → "print" ∉ before →
      (cli w (before ++ "-v" :: after)).out = (cli w args).out ∧
      (cli w (before ++ "-v" :: after)).ending = (cli w args).ending ∧
      (cli w (before ++ "-v" :: after)).calls = (cli w args).calls := by
  obtain ⟨hout, hcalls, hending⟩ := main_of_print hs hprint w
  constructor
  · rw [out_cli, calls_cli, hout, hcalls]
    rcases print_cases w s with h | ⟨hnone, hcalls, hout, -⟩
    · exact .inl h
    · exact .inr ⟨hnone, hcalls, hout⟩
  · rintro before after rfl hbefore
    have hloud := CommandLine.parse_insert_verbose hbefore hs hprint
    obtain ⟨hout', hcalls', hending'⟩ := main_of_print hloud hprint w
    rw [print_loud] at hout' hcalls' hending'
    refine ⟨?_, ending_cli_congr (hending'.trans hending.symm), ?_⟩
    · rw [out_cli, out_cli, hout', hout]
    · rw [calls_cli, calls_cli, hcalls', hcalls]

/-- An engine that writes a line and a resource, and fails before it writes another line. -/
def interrupted : Surroundings where
  source := {
    explicitPath := none
    env := []
    home := "/root"
    homeFile := .ofText Kubeconfig.Source.defaultHomeFile
    account := .ofText Kubeconfig.Source.defaultAccount
    files := .empty }
  installation := {
    interpreter := [3, 10, 1]
    packages := []
    engines := [⟨"demo", "demo:run", none, true,
      [.write "# routes\n", .print (.map [(.text "kind", .text "Gateway")]),
        .fail (.general "stop" none), .write "# end\n"]⟩] }
  width := 80

theorem cli_out_of_print_interrupted :
    CommandLine.parse ["print", "-A"] = .ok { command := some .print, allNamespaces := true } ∧
      (cli interrupted ["print", "-A"]).calls = [⟨"demo", "YAMLPrinter", ""⟩] ∧
      (cli interrupted ["print", "-A"]).out = "# routes\nkind: Gateway\n" ∧
      (cli interrupted ["-v", "print", "-A"]).out = (cli interrupted ["print", "-A"]).out := by
  have hs : CommandLine.parse ["print", "-A"]
      = .ok { command := some .print, allNamespaces := true } := rfl
  obtain ⟨hcases, hverbose⟩ := cli_out_of_print hs rfl interrupted
  have hready : Reaches interrupted { command := some .print, allNamespaces := true } .yaml ""
      ⟨"demo", "demo:run", none, true, _⟩ := ⟨rfl, rfl, ⟨rfl, rfl, rfl⟩⟩
  rcases hcases with ⟨format, filter, e, hreach, hcalls, hout⟩ | ⟨hnone, -⟩
  · cases hreach.format.symm.trans hready.format
    cases hreach.filter.symm.trans hready.filter
    cases hreach.ready.unique hready.ready
    exact ⟨hs, hcalls, hout.trans (by decide), (hverbose [] _ rfl (by decide)).1⟩
  · exact absurd hready (hnone _ _ _)

end GatewayPrint.App
