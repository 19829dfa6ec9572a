import GatewayPrint.Proofs.Yaml.Characters
import GatewayPrint.Proofs.Yaml.Unended

/-!
# Documents that are written and read

A mapping of plain data is written as a document. It is read again as what is heard of it where all
its texts fit (`loadText_of_fits`), and it cannot be read where some text does not
(`loadText_of_not_fits`).
-/

namespace GatewayPrint.Yaml

open Scanner Cursor Outcome

variable {es : List (Value × Value)} {w : List Char}

theorem start_eq (s : List Char) : Scanner.start ⟨s, none⟩
    = stand true (.start s) [.here .streamStart (Cursor.start s).mark] (-1) [] := rfl

private theorem begins_start : Pen.Begins .start 0 := ⟨rfl, rfl, rfl⟩

theorem exists_text (h : Printable (.map es)) (hne : es ≠ []) :
    ∃ w, (treeOf (.map es)).text = w ++ ['\n'] ∧ ReadsEntries 0 es w := by
  obtain ⟨hkeys, hvalues⟩ : Value.TextKeys es ∧ ∀ e ∈ es, IsReadable e.2 := by
    cases h with
    | map hkeys _ h => exact ⟨textKeys_of_keys hkeys, fun e he ↦ readable (h e he)⟩
  obtain ⟨w, hw, hreads⟩ := readable_entries hkeys hvalues hne begins_start
  refine ⟨w, ?_, hreads⟩
  rw [Tree.text_map hne, Pen.toColumn_of_not_fresh (.inl hw.fresh), hw.out]
  rfl

/-- What a run through the lines of entries comes to: the tokens of the document, or a fault. -/
theorem runs_document (h : ReadsEntries 0 es w) :
    (Fits (entryTexts 0 es) ∧ ∃ m ts e,
      ConveysEntries (m.index + 1) w.length ts (heardEntries 0 es) ∧
      Runs (.start ⟨w ++ ['\n'], none⟩) (some (.here .streamStart m ::
        ((.here .blockMappingStart m :: (ts ++ [.here .blockEnd e])) ++ [.here .streamEnd e])))) ∨
    ¬Fits (entryTexts 0 es) ∧ Runs (.start ⟨w ++ ['\n'], none⟩) none := by
  have ha : Ahead (.start (w ++ ['\n'])) w 0 0 [] := by
    refine ⟨rfl, ⟨fun x hx ↦ absurd hx (Option.not_mem_none x), fun _ ↦ ⟨?_, ?_⟩⟩, Nat.le_refl 0⟩
    · exact List.cons_ne_nil _ _ ∘ Eq.symm
    · exact List.cons_ne_nil _ _ ∘ Eq.symm
  -- The entries begin in the first column, and nothing follows their last line.
  have hend : (after (.start (w ++ ['\n'])) w 0).rest = [] := (advance_line ha.chars).1
  rcases h.scans _ [.here .streamStart (Cursor.start (w ++ ['\n'])).mark] (-1) [] 0 [] ha rfl
    (by decide) with ⟨hf, ts, hts, hrun⟩ | ⟨hf, hrun⟩
  · refine .inl ⟨hf, _, ts, (after (.start (w ++ ['\n'])) w 0).mark, hts, ?_⟩
    have hlast := hrun _ (runs_end hend)
    have htokens : ∀ (t u e f : Token), [t] ++ ([u] ++ ts) ++ [e] ++ [f]
        = t :: ((u :: (ts ++ [e])) ++ [f]) := by
      intro t u e f
      simp only [List.append_assoc, List.cons_append, List.nil_append]
    rw [start_eq, ← htokens]
    exact hlast
  · exact .inr ⟨hf, hrun⟩

/-- **A document whose texts fit** is read as what is heard of it. -/
theorem loadText_of_fits (h : Printable (.map es)) (hne : es ≠ []) (hf : Fits (entryTexts 0 es)) :
    loadText (treeOf (.map es)).text = .ok ⟨.map (Value.collect (heardEntries 0 es)), []⟩ := by
  obtain ⟨w, hw, hreads⟩ := exists_text h hne
  rcases runs_document hreads with ⟨-, m, ts, e, ⟨nds, hspells, hmeans⟩, hrun⟩ | ⟨hnot, -⟩
  · -- The mapping is one character longer than its entries, as the building of it takes fuel.
    have hlen : w.length ≤ w.length + 1 := Nat.le_succ _
    have hnode := Node.means_map (Nat.zero_le m.index) (Nat.succ_pos _)
      (hmeans.mono (Nat.le_refl _) hlen)
    have hdocument : Node.ofTokens (.here .streamStart m :: ((.here .blockMappingStart m ::
        (ts ++ [.here .blockEnd e])) ++ [.here .streamEnd e])) none
        = .ok (some (.map .map nds m none)) := ofTokens_of_spells (spells_map hspells rfl m m)
    have hfuel : 2 * (w.length + 1) ≤ 2 * (w ++ ['\n']).length + 16 := by
      rw [List.length_append, List.length_singleton]
      omega
    rw [loadText, ofText_treeOf h, loadStream, scan_none, hw, tokens_of_runs hrun]
    dsimp only
    rw [hdocument, ok_bind]
    exact hnode.toDocument_eq hfuel
  · exact absurd hf hnot

/-- **A document with a text that does not fit** cannot be read. -/
theorem loadText_of_not_fits (h : Printable (.map es)) (hne : es ≠ [])
    (hf : ¬Fits (entryTexts 0 es)) : ∃ f, loadText (treeOf (.map es)).text = .error f := by
  obtain ⟨w, hw, hreads⟩ := exists_text h hne
  rcases runs_document hreads with ⟨hfits, -⟩ | ⟨-, hrun⟩
  · exact absurd hfits hf
  · -- The tokens before the fault do not end the stream, so no document comes of them.
    obtain ⟨ts, f, htokens, hend⟩ := tokens_of_runs_none hrun
    obtain ⟨g, hg⟩ := ofTokens_of_unended hend (some f)
    refine ⟨g, ?_⟩
    rw [loadText, ofText_treeOf h, loadStream, scan_none, hw, htokens]
    dsimp only
    rw [hg]
    rfl

end GatewayPrint.Yaml
