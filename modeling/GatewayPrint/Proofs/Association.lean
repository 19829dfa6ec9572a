import GatewayPrint.Value.Basic
import Mathlib.Tactic.Common

/-!
# Look-up in pairs

What a look-up finds is among the pairs that it looks through. A mapping that is built from entries
whose keys are different texts has just these entries, in their order (`Value.collect_eq`).
-/

namespace GatewayPrint

/-- A value that is found under a key stands there with a key that equals it. -/
theorem mem_of_lookup {α β : Type} [BEq α] [LawfulBEq α] {key : α} {v : β} {pairs : List (α × β)}
    (h : pairs.lookup key = some v) : (key, v) ∈ pairs := by
  obtain ⟨l₁, l₂, hsplit, -⟩ := List.lookup_eq_some_iff.mp h
  rw [hsplit]
  exact List.mem_append_right l₁ List.mem_cons_self

namespace Value

theorem mem_of_lookup {key : String} {entries : List (Value × Value)} {v : Value}
    (h : lookup key entries = some v) : (text key, v) ∈ entries := by
  induction entries with
  | nil => cases h
  | cons e rest ih =>
    rw [lookup.eq_def] at h
    split at h
    · cases h
    · next heq =>
      cases heq
      split at h
      · next hk =>
        cases h
        rw [hk]
        exact List.mem_cons_self
      · exact List.mem_cons_of_mem _ (ih h)
    · next heq =>
      cases heq
      exact List.mem_cons_of_mem _ (ih h)

/-! ## Building mappings -/

/-- Keys that are texts. -/
def TextKeys (entries : List (Value × Value)) : Prop := ∀ e ∈ entries, ∃ s, e.1 = text s

theorem same_text {v : Value} {s : String} : same v (text s) = true ↔ v = text s := by
  cases v <;> simp [same, sameScalar, compareNumbers?, decimal?]

private theorem insert_of_not_mem {entries : List (Value × Value)} {s : String} {v : Value}
    (hs : text s ∉ entries.map Prod.fst) :
    insert (text s) v entries = entries ++ [(text s, v)] := by
  induction entries with
  | nil => rfl
  | cons e rest ih =>
    rw [List.map_cons, List.mem_cons, not_or] at hs
    have hne : ¬same e.1 (text s) = true := fun h ↦ hs.1 (same_text.mp h).symm
    rw [insert, if_neg hne, ih hs.2,
      List.cons_append]

theorem foldl_insert {entries : List (Value × Value)} (done : List (Value × Value))
    (hkeys : TextKeys (done ++ entries))
    (hnodup : ((done ++ entries).map Prod.fst).Nodup) :
    entries.foldl (fun done e ↦ insert e.1 e.2 done) done = done ++ entries := by
  induction entries generalizing done with
  | nil => exact (List.append_nil done).symm
  | cons e rest ih =>
    obtain ⟨k, v⟩ := e
    obtain ⟨s, rfl⟩ : ∃ s, k = text s :=
      hkeys (k, v) (List.mem_append_right done List.mem_cons_self)
    have hs : text s ∉ done.map Prod.fst := by
      rw [List.map_append, List.map_cons] at hnodup
      intro hmem
      exact (List.nodup_append.mp hnodup).2.2 _ hmem _ List.mem_cons_self rfl
    rw [List.append_cons] at hkeys hnodup ⊢
    rw [List.foldl_cons, insert_of_not_mem hs, ih _ hkeys hnodup]

/-- **Entries with different texts as keys** are the entries of the mapping built from them. -/
theorem collect_eq {entries : List (Value × Value)} (hkeys : TextKeys entries)
    (hnodup : (entries.map Prod.fst).Nodup) : collect entries = entries :=
  foldl_insert [] hkeys hnodup

/-- An entry is new, or takes the place of one. -/
theorem insert_cases (k v : Value) (entries : List (Value × Value)) :
    insert k v entries = entries ++ [(k, v)] ∨ (insert k v entries).length = entries.length := by
  induction entries with
  | nil => exact .inl rfl
  | cons e rest ih =>
    rw [insert]
    split
    · exact .inr rfl
    · exact ih.imp (congrArg (e :: ·)) (congrArg (· + 1))

private theorem foldl_insert_cases (entries done : List (Value × Value)) :
    entries.foldl (fun done e ↦ insert e.1 e.2 done) done = done ++ entries ∨
      (entries.foldl (fun done e ↦ insert e.1 e.2 done) done).length
        < (done ++ entries).length := by
  induction entries generalizing done with
  | nil => exact .inl (List.append_nil done).symm
  | cons e rest ih =>
    rw [List.foldl_cons, List.append_cons]
    have hrest := ih (insert e.1 e.2 done)
    rcases insert_cases e.1 e.2 done with hnew | hold
    · rwa [hnew] at hrest ⊢
    · refine .inr ?_
      simp only [List.length_append, List.length_singleton, hold] at hrest ⊢
      rcases hrest with heq | hlt
      · rw [heq, List.length_append, hold]
        omega
      · omega

/-- A mapping has all entries that it is built from, or fewer. -/
theorem collect_cases (entries : List (Value × Value)) :
    collect entries = entries ∨ (collect entries).length < entries.length :=
  foldl_insert_cases entries []

end Value

end GatewayPrint
