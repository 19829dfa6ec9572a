import GatewayPrint.Proofs.Yaml.Styled

/-!
# What is kept inside a scalar

Between its first and its last character a scalar is written by few moves of the pen: characters on
the line, line breaks, and the move to the column of the block. A property of the pen that each of
these moves keeps holds after the runs of a plain scalar (`Persists.plainRuns`) and after the inside
of single quotes (`Persists.singleRuns`) or of double quotes (`Persists.doubleRuns`), wherever the
lines are folded.
-/

namespace GatewayPrint.Yaml.Pen

variable {p : Pen} {s held : List Char} {indent : Nat} {fold first : Bool}
  {allowed : Char → Prop} {P : Pen → Prop} {rs : List (RunKind × List Char)}

/-- A property of the pen that is kept at an indentation while allowed characters are written. -/
structure Persists (indent : Nat) (allowed : Char → Prop) (P : Pen → Prop) : Prop where
  printable : ∀ c, Tree.IsPrintable c → allowed c
  unescaped : ∀ c, isUnescaped c = true → allowed c
  put : ∀ p s, P p → (∀ c ∈ s, allowed c) → P (p.put s)
  toColumn : ∀ p, P p → P (p.toColumn indent)
  singleBreaks : ∀ p s, P p → (∀ c ∈ s, Style.isBreak c = true) → P (p.singleBreaks indent s)
  /-- Only what is written counts. -/
  settle : ∀ p, P p → P { p with spaced := false, fresh := false }

namespace Persists

theorem plainRuns (h : Persists indent allowed P) (hp : P p)
    (hrs : ∀ r ∈ rs, ∀ c ∈ r.2, allowed c) : P (Pen.plainRuns indent fold rs p) := by
  induction rs generalizing p with
  | nil => exact hp
  | cons r rs ih =>
    have hr := hrs r List.mem_cons_self
    have hrest : ∀ r ∈ rs, ∀ c ∈ r.2, allowed c := fun r hr ↦ hrs r (List.mem_cons_of_mem _ hr)
    rw [Pen.plainRuns.eq_def]
    split
    · exact hp
    · next heq =>
      cases heq
      split
      · exact ih (h.settle _ (h.toColumn _ hp)) hrest
      · exact ih (h.put _ _ hp hr) hrest
    · next heq =>
      cases heq
      exact ih (h.put _ _ hp hr) hrest

theorem doubleQuotes (h : Persists indent allowed P) (hs : ∀ c ∈ s, allowed c) :
    ∀ c ∈ Pen.doubleQuotes s, allowed c := by
  intro c hc
  obtain ⟨d, hd, hc⟩ := List.mem_flatMap.mp hc
  split at hc
  · rw [List.mem_cons, List.mem_singleton, or_self] at hc
    rw [hc]
    exact h.printable _ ⟨by decide, by decide⟩
  · rw [List.mem_singleton.mp hc]
    exact hs d hd

/-- Between single quotes line breaks are written as well. -/
theorem singleRuns (h : Persists indent allowed P) (hp : P p)
    (hrs : ∀ r ∈ rs, (∀ c ∈ r.2, runKind c = r.1) ∧ (r.1 ≠ .breaks → ∀ c ∈ r.2, allowed c)) :
    P (Pen.singleRuns indent fold first rs p) := by
  induction rs generalizing first p with
  | nil => exact hp
  | cons r rs ih =>
    obtain ⟨hkind, hr⟩ := hrs r List.mem_cons_self
    have hrest := fun r hr ↦ hrs r (List.mem_cons_of_mem _ hr)
    obtain ⟨k, cs⟩ := r
    cases k with
    | word => exact ih (h.put p _ hp (h.doubleQuotes (hr RunKind.noConfusion))) hrest
    | breaks => exact ih (h.singleBreaks p cs hp fun c hc ↦ runKind_breaks (hkind c hc)) hrest
    | spaces =>
      have hput : P (p.put cs) := h.put p cs hp (hr RunKind.noConfusion)
      rcases cs with _ | ⟨c, _ | ⟨d, cs⟩⟩
      · exact ih hput hrest
      · rw [Pen.singleRuns]
        split
        · exact ih (h.toColumn p hp) hrest
        · exact ih hput hrest
      · exact ih hput hrest

theorem doubleFold (h : Persists indent allowed P) (hp : P p) (rest : List Char) :
    P (p.doubleFold indent rest) := by
  have hslash : ∀ c ∈ ['\\'], allowed c :=
    List.forall_mem_singleton.mpr (h.printable _ ⟨by decide, by decide⟩)
  have hfold := h.settle _ (h.toColumn _ (h.put p _ hp hslash))
  rw [Pen.doubleFold]
  split
  · exact h.put _ _ hfold hslash
  · exact hfold

/-- What is held is written later, so it has to be allowed as well. -/
theorem doubleRuns (h : Persists indent allowed P) (hp : P p) (hheld : ∀ c ∈ held, allowed c) :
    P (Pen.doubleRuns indent fold first held s p) := by
  induction s generalizing first held p with
  | nil => exact h.put p held hp hheld
  | cons c rest ih =>
    have hput := h.put p held hp hheld
    rw [Pen.doubleRuns]
    dsimp only
    split
    · next hc =>
      have hc : ∀ d ∈ [c], allowed d := List.forall_mem_singleton.mpr (h.unescaped c hc)
      split
      · exact ih (h.doubleFold hput _) hc
      · exact ih hp (List.forall_mem_append.mpr ⟨hheld, hc⟩)
    · have hesc : P ((p.put held).put (escapeOf c)) :=
        h.put _ _ hput fun d hd ↦ h.printable d (Tree.isPrintable_of_mem_escapeOf hd)
      split
      · exact ih (h.doubleFold hesc rest) fun d hd ↦ absurd hd List.not_mem_nil
      · exact ih hesc fun d hd ↦ absurd hd List.not_mem_nil

end Persists

end GatewayPrint.Yaml.Pen
