import GatewayPrint.Files.Path
import GatewayPrint.Proofs.Association
import GatewayPrint.Proofs.Pieces
import Mathlib.Data.List.DropRight

/-!
# Paths and their texts

A path that is read from a text, and one that comes out of expanding it, is read back from its own
text (`ofText_text`), so different paths have different texts (`text_inj`).

The home directory is put in place of a tilde on paths and on texts, by two functions. On texts the
result is not looked at again, and a home directory that is itself relative may bring another tilde
to the front. A path that begins with a tilde after it has been expanded is below such a home
directory (`exists_ofHome?_of_tilde`); there is none if the home directory is settled.
-/

namespace GatewayPrint.Path

variable {accounts : List Account} {home : String} {p q : Path}

/-! ## Reading a text back -/

/-- A path as texts are read: at most two slashes in front, and parts that count. -/
structure Normal (p : Path) : Prop where
  root : p.root = "" ∨ p.root = "/" ∨ p.root = "//"
  parts : ∀ part ∈ p.parts, isPart part.toList = true ∧ '/' ∉ part.toList

theorem normal_ofText (s : String) : (ofText s).Normal where
  root := by
    rw [ofText]
    split <;> simp
  parts := by
    intro part hpart
    obtain ⟨cs, hcs, rfl⟩ := List.mem_map.mp hpart
    obtain ⟨hcs, hcounts⟩ := List.mem_filter.mp hcs
    rw [String.toList_ofList]
    exact ⟨hcounts, Text.not_mem_of_mem_splitOn hcs⟩

/-- The characters of the parts of a path, with slashes between them. -/
def joined (p : Path) : List Char := ['/'].intercalate (p.parts.map String.toList)

theorem toList_text (p : Path) :
    p.text.toList = if p.root = "" ∧ p.parts = [] then ['.'] else p.root.toList ++ p.joined := by
  rw [text, joined]
  by_cases h : p.root = "" ∧ p.parts = []
  · rw [if_pos h, if_pos (by simp [h.1, h.2])]
    rfl
  · rw [if_neg h, if_neg (by simpa using h), String.toList_append, String.toList_intercalate]
    rfl

theorem head?_joined (hp : p.Normal) {first : String} {rest : List String}
    (h : p.parts = first :: rest) : p.joined.head? = first.toList.head? := by
  have hne : first.toList ≠ [] := by
    have hcounts := (hp.parts first (by rw [h]; exact List.mem_cons_self)).1
    intro hnil
    rw [hnil] at hcounts
    cases hcounts
  obtain ⟨c, cs, hcs⟩ := List.exists_cons_of_ne_nil hne
  rw [joined, h, List.map_cons, hcs]
  cases rest with
  | nil => rfl
  | cons second rest => rw [List.map_cons, List.intercalate_cons_cons]; rfl

private theorem takeWhile_joined (hp : p.Normal) : p.joined.takeWhile (· = '/') = [] := by
  rw [List.takeWhile_eq_nil_iff]
  intro hlt
  cases hparts : p.parts with
  | nil =>
    rw [joined, hparts] at hlt
    exact absurd hlt (Nat.lt_irrefl 0)
  | cons first rest =>
    have hhead := head?_joined hp hparts
    rw [List.head?_eq_getElem?, List.getElem?_eq_getElem hlt] at hhead
    have hslash := (hp.parts first (by rw [hparts]; exact List.mem_cons_self)).2
    rw [decide_eq_true_iff, List.get_eq_getElem]
    intro heq
    rw [heq] at hhead
    exact hslash (List.mem_of_mem_head? hhead.symm)

/-- The parts come apart as they were joined. -/
theorem parts_joined (hp : p.Normal) :
    ((Text.splitOn '/' p.joined).filter isPart).map String.ofList = p.parts := by
  cases hparts : p.parts with
  | nil =>
    rw [joined, hparts]
    rfl
  | cons first rest =>
    have hne : p.parts.map String.toList ≠ [] := by simp [hparts]
    have hpieces : ∀ cs ∈ p.parts.map String.toList, isPart cs = true ∧ '/' ∉ cs := by
      intro cs hcs
      obtain ⟨part, hpart, rfl⟩ := List.mem_map.mp hcs
      exact hp.parts part hpart
    rw [joined, Text.splitOn_intercalate hne fun cs hcs ↦ (hpieces cs hcs).2,
      List.filter_eq_self.mpr fun cs hcs ↦ (hpieces cs hcs).1, List.map_map, ← hparts]
    exact (List.map_congr_left fun part _ ↦ String.ofList_toList).trans (List.map_id _)

/-- **A path is read back from its text.** -/
theorem ofText_text (hp : p.Normal) : ofText p.text = p := by
  obtain ⟨root, parts⟩ := p
  by_cases hdot : root = "" ∧ parts = []
  · obtain ⟨rfl, rfl⟩ := hdot
    rfl
  · have htext := toList_text ⟨root, parts⟩
    rw [if_neg hdot] at htext
    have hparts := parts_joined hp
    have htake := takeWhile_joined hp
    rw [ofText, htext]
    rcases hp.root with hroot | hroot | hroot
    all_goals
      simp only at hroot hparts
      subst hroot
      simp [Text.splitOn, htake, hparts, isPart]

theorem text_inj (hp : p.Normal) (hq : q.Normal) (h : p.text = q.text) : p = q := by
  rw [← ofText_text hp, h, ofText_text hq]

/-! ## Expanding -/

def Tilde (t : String) : Prop := t.toList.head? = some '~'

instance (t : String) : Decidable (Tilde t) := inferInstanceAs (Decidable (_ = _))

theorem expandText_of_not_tilde {t : String} (h : ¬Tilde t) : expandText accounts home t = t := by
  rw [expandText]
  split
  · next rest heq => exact absurd (by rw [Tilde, heq]; rfl) h
  · rfl

/-- A path whose text begins with a tilde is relative, and its first part does. -/
theorem tilde_text_iff (hp : p.Normal) :
    Tilde p.text ↔ p.root = "" ∧ ∃ first rest, p.parts = first :: rest ∧ Tilde first := by
  rw [Tilde, toList_text]
  constructor
  · intro h
    split at h
    · cases h
    · next hdot =>
      rcases hp.root with hroot | hroot | hroot
      · refine ⟨hroot, ?_⟩
        rw [hroot] at h hdot
        cases hparts : p.parts with
        | nil => exact absurd ⟨rfl, hparts⟩ hdot
        | cons first rest => exact ⟨first, rest, rfl, (head?_joined hp hparts).symm.trans h⟩
      · rw [hroot] at h
        cases h
      · rw [hroot] at h
        cases h
  · rintro ⟨hroot, first, rest, hparts, hfirst⟩
    rw [if_neg (by simp [hparts]), hroot]
    exact (head?_joined hp hparts).trans hfirst

/-- A path is expanded to itself, or it begins with a tilde and what that stands for is put in front
of the other parts. -/
theorem expandHome_eq_some (hp : p.Normal) (h : p.expandHome accounts home = some q) :
    (q = p ∧ ¬Tilde p.text) ∨ ∃ first rest, p = ⟨"", first :: rest⟩ ∧ Tilde first ∧
      ¬Tilde (expandText accounts home first) ∧ q = ⟨(ofText (expandText accounts home first)).root,
        (ofText (expandText accounts home first)).parts ++ rest⟩ := by
  obtain ⟨root, parts⟩ := p
  rw [tilde_text_iff hp]
  rw [expandHome] at h
  -- Only a relative path whose first part begins with a tilde is changed.
  cases parts with
  | nil =>
    cases h
    exact .inl ⟨rfl, fun ⟨_, _, _, hparts, _⟩ ↦ nomatch hparts⟩
  | cons first rest =>
    simp only at h
    split at h
    · next hcond =>
      obtain ⟨hroot, hfirst⟩ : root = "" ∧ first.toList.head? = some '~' := by simpa using hcond
      subst hroot
      split at h
      · cases h
      · next hexpanded =>
        cases h
        exact .inr ⟨first, rest, rfl, hfirst, hexpanded, rfl⟩
    · next hcond =>
      cases h
      refine .inl ⟨rfl, ?_⟩
      rintro ⟨hroot, other, others, hparts, htilde⟩
      cases hparts
      exact hcond (by simpa using ⟨hroot, htilde⟩)

theorem normal_expandHome (hp : p.Normal) (h : p.expandHome accounts home = some q) : q.Normal := by
  rcases expandHome_eq_some hp h with ⟨rfl, -⟩ | ⟨first, rest, rfl, -, -, rfl⟩
  · exact hp
  · have hbase := normal_ofText (expandText accounts home first)
    refine ⟨hbase.root, fun part hpart ↦ ?_⟩
    rcases List.mem_append.mp hpart with hpart | hpart
    · exact hbase.parts part hpart
    · exact hp.parts part (List.mem_cons_of_mem first hpart)

/-! ## Home directories -/

theorem trimSlashes_isBeginning (s : List Char) : trimSlashes s <+: s := List.rdropWhile_prefix _ s

theorem head?_trimSlashes {s : List Char} (h : trimSlashes s ≠ []) :
    (trimSlashes s).head? = s.head? := by
  obtain ⟨c, cs, hcs⟩ := List.exists_cons_of_ne_nil h
  obtain ⟨t, ht⟩ := trimSlashes_isBeginning s
  have hs : s = c :: (cs ++ t) := by rw [← ht, hcs, List.cons_append]
  rw [hcs, hs, List.head?_cons, List.head?_cons]

/-- A tilde stands for the user's own home directory, or, with a name, for that of an account. -/
theorem homeOf?_eq_some {name : List Char} {base : String}
    (h : homeOf? accounts home name = some base) :
    (name = [] ∧ base = home) ∨ (name ≠ [] ∧ ∃ a ∈ accounts, base = a.home) := by
  rw [homeOf?] at h
  split at h
  · next hname =>
    cases h
    exact .inl ⟨List.isEmpty_iff.mp hname, rfl⟩
  · next hname =>
    obtain ⟨a, ha, rfl⟩ := Option.map_eq_some_iff.mp h
    exact .inr ⟨by simpa using hname, a, List.mem_of_find?_eq_some ha, rfl⟩

/-- A text is expanded to itself, or what its tilde stands for is put in front of the rest. -/
theorem expandText_cases (accounts : List Account) (home t : String) :
    expandText accounts home t = t ∨ ∃ name rest base, t.toList = '~' :: (name ++ rest) ∧
      (∀ c ∈ rest.head?, c = '/') ∧ homeOf? accounts home name = some base ∧
      (expandText accounts home t).toList
        = if (trimSlashes base.toList ++ rest).isEmpty then ['/']
          else trimSlashes base.toList ++ rest := by
  rw [expandText]
  split
  · next cs hcs =>
    split
    · next base hbase =>
      refine .inr ⟨cs.takeWhile (· ≠ '/'), cs.dropWhile (· ≠ '/'), base, ?_, ?_, hbase, ?_⟩
      · rw [List.takeWhile_append_dropWhile, hcs]
      · intro c hc
        have hstop := List.head?_dropWhile_not (fun c : Char ↦ decide (c ≠ '/')) cs
        rw [Option.mem_def.mp hc] at hstop
        simpa using hstop
      · simp only
        split
        · rfl
        · rw [String.toList_ofList]
    · exact .inl rfl
  · exact .inl rfl

/-- A text that begins with a tilde after it has been expanded is as it was, unless the home
directory begins with one. -/
theorem eq_self_of_tilde_expandText {t : String} (h : Tilde (expandText accounts home t))
    (hhome : ¬Tilde home) : expandText accounts home t = t := by
  refine (expandText_cases accounts home t).resolve_right ?_
  rintro ⟨name, rest, base, -, hrest, hbase, htext⟩
  rw [Tilde, htext] at h
  split at h
  · cases h
  · by_cases hnil : trimSlashes base.toList = []
    · rw [hnil, List.nil_append] at h
      exact absurd (hrest _ h) (by decide)
    · rw [List.head?_append_of_ne_nil _ hnil] at h
      have hhead := (head?_trimSlashes hnil).symm.trans h
      rcases homeOf?_eq_some hbase with ⟨-, rfl⟩ | ⟨-, a, -, rfl⟩
      · exact hhome hhead
      · rw [a.rooted] at hhead
        cases hhead

theorem root_ofText_ne {s : String} (h : s.toList.head? = some '/') : (ofText s).root ≠ "" := by
  obtain ⟨cs, hcs⟩ : ∃ cs, s.toList = '/' :: cs := List.head?_eq_some_iff.mp h
  rw [ofText, hcs, List.takeWhile_cons_of_pos (by decide), List.length_cons]
  split
  · next hlen => cases hlen
  · change "//" ≠ ""
    decide
  · change "/" ≠ ""
    decide

/-- A part that begins with a tilde is the tilde alone, or is expanded to a path below the root. -/
theorem eq_tilde_or_root_ne {first : String} (hslash : '/' ∉ first.toList)
    (hexpanded : ¬Tilde (expandText accounts home first)) (hfirst : Tilde first) :
    first = "~" ∨ (ofText (expandText accounts home first)).root ≠ "" := by
  rcases expandText_cases accounts home first with
    hself | ⟨name, rest, base, htext, hrest, hbase, hto⟩
  · rw [hself] at hexpanded
    exact absurd hfirst hexpanded
  · -- a part holds no slash, so nothing comes after the name of the user
    have hnil : rest = [] := by
      cases rest with
      | nil => rfl
      | cons c cs =>
        rw [htext, hrest c rfl] at hslash
        simp at hslash
    subst hnil
    rw [List.append_nil] at htext hto
    rcases homeOf?_eq_some hbase with ⟨rfl, -⟩ | ⟨-, a, -, rfl⟩
    · exact .inl (String.toList_inj.mp htext)
    · refine .inr (root_ofText_ne ?_)
      rw [hto]
      split
      · rfl
      · next hne => rw [head?_trimSlashes (by simpa using hne), a.rooted]

private theorem mk_root_parts (p : Path) : ⟨p.root, p.parts⟩ = p := rfl

/-- The path that a tilde alone leads to; accounts have no part in that. -/
def ofHome? (home : String) : Option Path := expandHome [] home ⟨"", ["~"]⟩

/-- The home directory, if a tilde leads to one, is not the working directory, and its path does not
begin with a tilde. -/
def SettledHome (home : String) : Prop :=
  ∀ H, ofHome? home = some H → H ≠ ⟨"", []⟩ ∧ ¬Tilde H.text

theorem normal_ofHome? {H : Path} (h : ofHome? home = some H) : H.Normal := by
  rw [ofHome?] at h
  exact normal_expandHome ⟨.inl rfl, by decide⟩ h

private theorem expandText_tilde (accounts : List Account) (home : String) :
    expandText accounts home "~" = expandText [] home "~" := rfl

/-- The text of the home directory, without the slashes at its end. -/
theorem toList_expandText_tilde (home : String) :
    (expandText [] home "~").toList
      = if trimSlashes home.toList = [] then ['/'] else trimSlashes home.toList := by
  have htilde : "~".toList = ['~'] := rfl
  rw [expandText, htilde]
  simp only [homeOf?, List.takeWhile_nil, List.isEmpty_nil, if_true, List.dropWhile_nil,
    List.append_nil, List.isEmpty_iff]
  split
  · rfl
  · rw [String.toList_ofList]

theorem ofHome?_eq_some {H : Path} :
    ofHome? home = some H ↔
      ¬Tilde (expandText [] home "~") ∧ ofText (expandText [] home "~") = H := by
  rw [ofHome?, expandHome]
  simp only
  rw [if_pos (by decide), List.append_nil, Tilde]
  split
  · next h => exact iff_of_false nofun fun hH ↦ hH.1 h
  · next h => rw [Option.some_inj, mk_root_parts, and_iff_right h]

/-- **Below a relative home directory.** A path that begins with a tilde after it has been expanded
is below the path of the home directory, which is relative. -/
theorem exists_ofHome?_of_tilde (hp : p.Normal) (h : p.expandHome accounts home = some q)
    (hq : Tilde q.text) :
    ∃ H rest, ofHome? home = some H ∧ H.root = "" ∧ q = ⟨"", H.parts ++ rest⟩ := by
  obtain ⟨hroot, -⟩ := (tilde_text_iff (normal_expandHome hp h)).mp hq
  rcases expandHome_eq_some hp h with ⟨rfl, hnot⟩ | ⟨first, rest, rfl, hfirst, hexpanded, rfl⟩
  · exact absurd hq hnot
  · have hslash := (hp.parts first List.mem_cons_self).2
    obtain rfl := (eq_tilde_or_root_ne hslash hexpanded hfirst).resolve_right (not_not.mpr hroot)
    rw [expandText_tilde] at hexpanded hroot ⊢
    have hH : ofHome? home = some (ofText (expandText [] home "~")) :=
      ofHome?_eq_some.mpr ⟨hexpanded, rfl⟩
    simp only at hroot
    refine ⟨_, rest, hH, hroot, ?_⟩
    rw [← hroot]

/-- A settled home directory leaves no tilde to expand. -/
theorem not_tilde_of_settledHome (hhome : SettledHome home) (hp : p.Normal)
    (h : p.expandHome accounts home = some q) : ¬Tilde q.text := by
  intro hq
  obtain ⟨H, rest, hH, hroot, rfl⟩ := exists_ofHome?_of_tilde hp h hq
  obtain ⟨hne, hnot⟩ := hhome H hH
  obtain ⟨-, first, others, hparts, hfirst⟩ := (tilde_text_iff (normal_expandHome hp h)).mp hq
  obtain ⟨root, parts⟩ := H
  subst hroot
  cases parts with
  | nil => exact hne rfl
  | cons own parts =>
    cases hparts
    exact hnot ((tilde_text_iff (normal_ofHome? hH)).mpr
      ⟨rfl, first, parts, rfl, hfirst⟩)

theorem settledHome_of_absolute (h : home.toList.head? = some '/') : SettledHome home := by
  intro H hH
  have hroot : H.root ≠ "" := by
    obtain ⟨-, rfl⟩ := ofHome?_eq_some.mp hH
    refine root_ofText_ne ?_
    rw [toList_expandText_tilde]
    split
    · rfl
    · next hne => rw [head?_trimSlashes hne, h]
  refine ⟨?_, fun htilde ↦ hroot ((tilde_text_iff (normal_ofHome? hH)).mp htilde).1⟩
  rintro rfl
  exact hroot rfl

/-- No path begins with a tilde after it has been expanded by a home directory that does. -/
theorem not_tilde_home (hp : p.Normal) (h : p.expandHome accounts home = some q)
    (hq : Tilde q.text) : ¬Tilde home := by
  intro hhome
  obtain ⟨H, -, hH, -⟩ := exists_ofHome?_of_tilde hp h hq
  refine (ofHome?_eq_some.mp hH).1 ?_
  obtain ⟨cs, hcs⟩ : ∃ cs, home.toList = '~' :: cs := List.head?_eq_some_iff.mp hhome
  have hne : trimSlashes home.toList ≠ [] := by
    intro hnil
    have hall := List.rdropWhile_eq_nil_iff.mp hnil
    exact absurd (hall '~' (by rw [hcs]; exact List.mem_cons_self)) (by decide)
  rw [Tilde, toList_expandText_tilde, if_neg hne, head?_trimSlashes hne]
  exact hhome

/-! ## Colons -/

theorem noColon_text (hp : p.Normal) (h : ∀ part ∈ p.parts, ':' ∉ part.toList) :
    ':' ∉ p.text.toList := by
  rw [toList_text]
  split
  · decide
  · rw [List.mem_append, not_or]
    constructor
    · rcases hp.root with hroot | hroot | hroot
      all_goals
        rw [hroot]
        decide
    · intro hmem
      rcases Text.mem_of_mem_intercalate hmem with hsep | ⟨cs, hcs, hmem⟩
      · cases hsep
      · obtain ⟨part, hpart, rfl⟩ := List.mem_map.mp hcs
        exact h part hpart hmem

theorem noColon_ofText {s : String} (h : ':' ∉ s.toList) :
    ∀ part ∈ (ofText s).parts, ':' ∉ part.toList := by
  intro part hpart hmem
  obtain ⟨cs, hcs, rfl⟩ := List.mem_map.mp hpart
  rw [String.toList_ofList] at hmem
  exact h (Text.mem_of_mem_splitOn (List.mem_filter.mp hcs).1 hmem).1

private theorem noColon_homeOf? (hhome : ':' ∉ home.toList) {name : List Char} {base : String}
    (h : homeOf? accounts home name = some base) : ':' ∉ base.toList := by
  rcases homeOf?_eq_some h with ⟨-, rfl⟩ | ⟨-, a, -, rfl⟩
  · exact hhome
  · exact a.noColon

/-- A home directory brings no colon into a text without one. -/
theorem noColon_expandText (hhome : ':' ∉ home.toList) {t : String} (ht : ':' ∉ t.toList) :
    ':' ∉ (expandText accounts home t).toList := by
  rcases expandText_cases accounts home t with hself | ⟨name, rest, base, htext, -, hbase, hto⟩
  · rwa [hself]
  · rw [hto]
    split
    · decide
    · rw [List.mem_append, not_or]
      refine ⟨fun hmem ↦ ?_, fun hmem ↦ ht ?_⟩
      · exact noColon_homeOf? hhome hbase ((trimSlashes_isBeginning _).subset hmem)
      · rw [htext]
        exact List.mem_cons_of_mem _ (List.mem_append_right name hmem)

theorem noColon_expandHome (hhome : ':' ∉ home.toList) (hp : p.Normal)
    (hparts : ∀ part ∈ p.parts, ':' ∉ part.toList) (h : p.expandHome accounts home = some q) :
    ∀ part ∈ q.parts, ':' ∉ part.toList := by
  rcases expandHome_eq_some hp h with ⟨rfl, -⟩ | ⟨first, rest, rfl, -, -, rfl⟩
  · exact hparts
  · obtain ⟨hfirst, hrest⟩ := List.forall_mem_cons.mp hparts
    intro part hpart
    rcases List.mem_append.mp hpart with hpart | hpart
    · exact noColon_ofText (noColon_expandText hhome hfirst) part hpart
    · exact hrest part hpart

end GatewayPrint.Path
