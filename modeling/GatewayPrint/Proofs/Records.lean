import GatewayPrint.App
import GatewayPrint.Proofs.Logged

/-!
# Records of the print command

All that a print command reports on its way are details, which are not shown unless they are asked
for (`logText_print`). So what is on the console after a failed run is what is said about the
failure.
-/

namespace GatewayPrint

open Logged

namespace Kubeconfig.Source

theorem isDiscreet_lift {α : Type} (r : Except Fault α) : IsDiscreet (lift r) := by
  cases r with
  | error f => exact isDiscreet_fail _
  | ok a => exact isDiscreet_pure a

theorem isDiscreet_note (message : String) : IsDiscreet (note message) :=
  Logged.isDiscreet_note logger message

private theorem isDiscreet_contextNamespace (s : Source) (paths : List String) :
    IsDiscreet (s.contextNamespace paths) := by
  refine IsDiscreet.bind (isDiscreet_lift _) fun merged ↦ ?_
  split
  · exact IsDiscreet.bind (isDiscreet_note _) fun _ ↦ isDiscreet_pure _
  · refine IsDiscreet.bind (isDiscreet_lift _) fun current ↦ ?_
    split
    · exact IsDiscreet.bind (isDiscreet_note _) fun _ ↦ isDiscreet_pure _
    · exact isDiscreet_lift _

/-- The look-up of the current context reports details only. -/
theorem isDiscreet_activeNamespace (s : Source) : IsDiscreet s.activeNamespace := by
  refine IsDiscreet.bind (isDiscreet_lift _) fun paths ↦ ?_
  split
  · exact IsDiscreet.bind (isDiscreet_note _) fun _ ↦ isDiscreet_lift _
  · refine IsDiscreet.bind (isDiscreet_note _) fun _ ↦ ?_
    refine IsDiscreet.bind (isDiscreet_lift _) fun written ↦ ?_
    split
    · exact IsDiscreet.bind (isDiscreet_note _) fun _ ↦ isDiscreet_lift _
    · exact isDiscreet_contextNamespace s _

end Kubeconfig.Source

theorem PrintOptions.isDiscreet_filter {σ : Type} {ask : σ → Logged String × σ}
    (hask : ∀ s, IsDiscreet (ask s).1) (o : PrintOptions) (s : σ) :
    IsDiscreet (o.filter ask s).1 := by
  rw [filter]
  split
  · split
    · exact isDiscreet_pure _
    · exact Logged.isDiscreet_note filterLogger _
  · split
    · exact isDiscreet_pure _
    · exact IsDiscreet.bind (hask s) fun _ ↦ Logged.isDiscreet_note filterLogger _

theorem PrintRun.isDiscreet_resolve {σ : Type} {ask : σ → Logged String × σ}
    (hask : ∀ s, IsDiscreet (ask s).1) (o : PrintOptions) (s : σ) :
    IsDiscreet (resolve ask o s).1 := by
  rw [resolve]
  split
  · exact isDiscreet_fail _
  · exact IsDiscreet.bind (PrintOptions.isDiscreet_filter hask o s) fun _ ↦
      Logged.isDiscreet_note logger _

theorem Registry.isDiscreet_load (engines : List Engine) (request : Option Value) :
    IsDiscreet (load engines request) := by
  refine IsDiscreet.bind (isDiscreet_lift _) fun e ↦ ?_
  refine IsDiscreet.bind (Logged.isDiscreet_note logger _) fun _ ↦ ?_
  split
  · split <;> exact isDiscreet_fail _
  · split
    · exact isDiscreet_pure e
    · exact isDiscreet_fail _

/-- A call of an engine reports no more than how it was found. -/
theorem Registry.records_call (engines : List Engine) (request : Option Value) (p : Printer)
    (filter : String) :
    (call engines request p filter).records = (load engines request).records := by
  rw [call]
  dsimp only
  split <;> rfl

theorem PrintRun.level_of_mem_run {σ : Type} {engine : Printer → String → Engine.Outcome}
    {ask : σ → Logged String × σ} (hengine : ∀ p filter, ∀ r ∈ (engine p filter).records,
      r.level = .debug) (hask : ∀ s, IsDiscreet (ask s).1) (o : PrintOptions) (s : σ)
    {r : Log.Record} (hr : r ∈ (run engine ask o s).1.records) : r.level = .debug := by
  rw [run] at hr
  dsimp only at hr
  split at hr
  · exact isDiscreet_resolve hask o s r hr
  · rcases List.mem_append.mp hr with hr | hr
    · exact isDiscreet_resolve hask o s r hr
    · exact hengine _ _ r hr

namespace App

variable {w : Surroundings}

private theorem level_of_mem_print {s : CommandLine.Settings} {r : Log.Record}
    (hr : r ∈ (print w s).records) : r.level = .debug := by
  rw [print] at hr
  split at hr
  · cases hr
  · refine PrintRun.level_of_mem_run (fun p filter r hr ↦ ?_)
      (fun src ↦ src.isDiscreet_activeNamespace) _ _ hr
    rw [Registry.records_call] at hr
    exact Registry.isDiscreet_load _ _ r hr

/-- Details are not shown unless they are asked for. -/
theorem logText_of_debug (w : Surroundings) {rs : List Log.Record}
    (h : ∀ r ∈ rs, r.level = .debug) : logText w false rs = "" := by
  have hnone : ∀ v : LogView, v.level = .warning → v.writeAll w.width rs = (v, []) := by
    intro v hv
    induction rs with
    | nil => rfl
    | cons r rs ih =>
      obtain ⟨hr, hrs⟩ := List.forall_mem_cons.mp h
      have hskip : v.write w.width r = (v, []) := by
        rw [LogView.write, hr, hv, if_pos (by decide)]
      rw [LogView.writeAll, hskip]
      dsimp only
      rw [ih hrs]
      rfl
  rw [logText, hnone _ rfl]

/-- **Without verbose output** a print command shows no records. -/
theorem logText_print (w : Surroundings) (s : CommandLine.Settings) :
    logText w false (print w s).records = "" :=
  logText_of_debug w fun _ hr ↦ level_of_mem_print hr

end App

end GatewayPrint
