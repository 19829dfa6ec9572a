import GatewayPrint.Engine.Registry
import GatewayPrint.Proofs.Association
import GatewayPrint.Proofs.KeyOrder
import GatewayPrint.Proofs.Logged
import Mathlib.Data.List.TakeWhile

/-!
# Choosing an engine

Engines are chosen by their names alone. They are listed by name, and a list in order of names
forgets in which order engines of different names were found; what it keeps is the order of engines
of one name (`filter_sorted`). So the first engine of a name in the list is the first that was found
(`find?_sorted`), and with different names nothing of the order is left (`sorted_perm`).

Which engine is meant is known from the names and the request (`place?`). Only this engine is ever
loaded, and what is said when there is none quotes names and nothing else (`select_eq`).
-/

namespace GatewayPrint

open Outcome

namespace Registry

variable {engines engines' : List Engine} {e : Engine} {name : String}

/-! ## The list by names -/

/-- One engine may stand before another. -/
def Precedes (e f : Engine) : Prop := Text.codePoints e.name ≤ Text.codePoints f.name

private theorem precedes_antisymm {f : Engine} (h : Precedes e f) (h' : Precedes f e) :
    e.name = f.name :=
  Text.codePoints_injective (le_antisymm h h')

/-- An engine is put between those that may stand before it and the rest. -/
theorem insert_eq (e : Engine) (l : List Engine) :
    insert e l = l.takeWhile (fun f ↦ Text.codePoints f.name ≤ Text.codePoints e.name)
      ++ e :: l.dropWhile (fun f ↦ Text.codePoints f.name ≤ Text.codePoints e.name) := by
  induction l with
  | nil => rfl
  | cons f rest ih =>
    rw [insert]
    by_cases h : Text.codePoints e.name < Text.codePoints f.name
    · have h' : ¬Text.codePoints f.name ≤ Text.codePoints e.name := not_le_of_gt h
      simp [h, h']
    · have h' : Text.codePoints f.name ≤ Text.codePoints e.name := le_of_not_gt h
      simp [h, h', ih]

theorem insert_perm (e : Engine) (l : List Engine) : (insert e l).Perm (e :: l) := by
  rw [insert_eq]
  refine List.perm_middle.trans ?_
  rw [List.takeWhile_append_dropWhile]

/-- In an ordered list, all that is not before an engine comes after it. -/
theorem lt_of_mem_dropWhile {l : List Engine} (hl : l.Pairwise Precedes) {f : Engine}
    (hf : f ∈ l.dropWhile (fun f ↦ Text.codePoints f.name ≤ Text.codePoints e.name)) :
    Text.codePoints e.name < Text.codePoints f.name := by
  induction l with
  | nil => cases hf
  | cons g rest ih =>
    rw [List.pairwise_cons] at hl
    by_cases h : Text.codePoints g.name ≤ Text.codePoints e.name
    · rw [List.dropWhile_cons_of_pos (by simpa using h)] at hf
      exact ih hl.2 hf
    · rw [List.dropWhile_cons_of_neg (by simpa using h)] at hf
      have hg : Text.codePoints e.name < Text.codePoints g.name := lt_of_not_ge h
      rcases List.mem_cons.mp hf with rfl | hf
      · exact hg
      · exact lt_of_lt_of_le hg (hl.1 f hf)

theorem insert_ordered {l : List Engine} (hl : l.Pairwise Precedes) (e : Engine) :
    (insert e l).Pairwise Precedes := by
  rw [insert_eq, List.pairwise_append, List.pairwise_cons]
  refine ⟨hl.sublist (List.takeWhile_sublist _), ⟨fun f hf ↦ ?_, ?_⟩, fun f hf g hg ↦ ?_⟩
  · exact (lt_of_mem_dropWhile hl hf).le
  · exact hl.sublist (List.dropWhile_sublist _)
  · have hle : Text.codePoints f.name ≤ Text.codePoints e.name := by
      simpa using List.mem_takeWhile_imp hf
    have hfe : Precedes f e := hle
    rcases List.mem_cons.mp hg with rfl | hg
    · exact hfe
    · exact hfe.trans (lt_of_mem_dropWhile hl hg).le

/-- Among the engines of one name a new one comes last. -/
theorem filter_insert {l : List Engine} (hl : l.Pairwise Precedes) (e : Engine) (name : String) :
    (insert e l).filter (·.name = name)
      = l.filter (·.name = name) ++ [e].filter (·.name = name) := by
  rw [insert_eq, List.filter_append]
  conv_rhs => rw [← List.takeWhile_append_dropWhile
    (p := fun f : Engine ↦ Text.codePoints f.name ≤ Text.codePoints e.name) (l := l)]
  rw [List.filter_append, List.append_assoc]
  congr 1
  by_cases h : e.name = name
  · -- Nothing of this name stands behind the new engine.
    have hnone : (l.dropWhile fun f ↦ Text.codePoints f.name ≤ Text.codePoints e.name).filter
        (·.name = name) = [] := by
      rw [List.filter_eq_nil_iff]
      intro f hf hname
      have hlt := lt_of_mem_dropWhile hl hf
      rw [of_decide_eq_true hname, h] at hlt
      exact lt_irrefl _ hlt
    rw [List.filter_cons_of_pos (by simpa using h), hnone, List.nil_append,
      List.filter_cons_of_pos (by simpa using h), List.filter_nil]
  · rw [List.filter_cons_of_neg (by simpa using h), List.filter_cons_of_neg (by simpa using h),
      List.filter_nil, List.append_nil]

/-- What putting engines into an ordered list one by one keeps. -/
theorem foldl_insert (engines : List Engine) {done : List Engine} (hdone : done.Pairwise Precedes) :
    (engines.foldl (fun done e ↦ insert e done) done).Perm (done ++ engines) ∧
      (engines.foldl (fun done e ↦ insert e done) done).Pairwise Precedes ∧
      ∀ name, (engines.foldl (fun done e ↦ insert e done) done).filter (·.name = name)
        = (done ++ engines).filter (·.name = name) := by
  induction engines generalizing done with
  | nil => simp [hdone]
  | cons e rest ih =>
    obtain ⟨hperm, hordered, hfilter⟩ := ih (insert_ordered hdone e)
    rw [List.foldl_cons]
    refine ⟨hperm.trans ?_, hordered, fun name ↦ (hfilter name).trans ?_⟩
    · exact ((insert_perm e done).append_right rest).trans List.perm_middle.symm
    · rw [List.filter_append, filter_insert hdone, List.append_cons, List.filter_append,
        List.filter_append]

theorem perm_sorted (engines : List Engine) : (sorted engines).Perm engines :=
  (foldl_insert engines .nil).1

theorem ordered_sorted (engines : List Engine) : (sorted engines).Pairwise Precedes :=
  (foldl_insert engines .nil).2.1

/-- **Engines of one name** are listed in the order in which they were found. -/
theorem filter_sorted (engines : List Engine) (name : String) :
    (sorted engines).filter (·.name = name) = engines.filter (·.name = name) :=
  (foldl_insert engines .nil).2.2 name

private theorem find?_sorted (engines : List Engine) (name : String) :
    (sorted engines).find? (·.name = name) = engines.find? (·.name = name) := by
  rw [← List.head?_filter, ← List.head?_filter, filter_sorted]

/-- The names of the list are known from the names that were found. -/
theorem map_name_sorted (h : engines'.map Engine.name = engines.map Engine.name) :
    (sorted engines').map Engine.name = (sorted engines).map Engine.name := by
  have hordered : ∀ l : List Engine, ((sorted l).map Engine.name).Pairwise
      fun s t ↦ Text.codePoints s ≤ Text.codePoints t := fun l ↦
    List.pairwise_map.mpr (ordered_sorted l)
  refine List.Perm.eq_of_pairwise (fun s t _ _ hst hts ↦ ?_) (hordered engines') (hordered engines)
    ?_
  · exact Text.codePoints_injective (le_antisymm hst hts)
  · have hperm := (perm_sorted engines').map Engine.name
    rw [h] at hperm
    exact hperm.trans ((perm_sorted engines).map Engine.name).symm

/-- **Engines of different names** are listed alike in whatever order they were found. -/
theorem sorted_perm (hperm : engines'.Perm engines) (hnodup : (engines.map Engine.name).Nodup) :
    sorted engines' = sorted engines := by
  have hsame : (sorted engines').Perm (sorted engines) :=
    (perm_sorted engines').trans (hperm.trans (perm_sorted engines).symm)
  refine List.Perm.eq_of_pairwise (fun e f he hf hef hfe ↦ ?_) (ordered_sorted engines')
    (ordered_sorted engines) hsame
  have hmem : ∀ {g}, g ∈ sorted engines → g ∈ engines := (perm_sorted engines).mem_iff.mp
  exact List.inj_on_of_nodup_map hnodup (hmem (hsame.mem_iff.mp he)) (hmem hf)
    (precedes_antisymm hef hfe)

/-! ## The engine that is meant -/

/-- The place, in the order in which engines were found, of the one that is meant: the first of the
name that was asked for, or the only engine. -/
def place? (engines : List Engine) : Option String → Option Nat
  | some name => engines.findIdx? (·.name = name)
  | none => if engines.length = 1 then some 0 else none

def meant? (engines : List Engine) (request : Option String) : Option Engine :=
  (place? engines request).bind (engines[·]?)

theorem meant?_name (engines : List Engine) (name : String) :
    meant? engines (some name) = engines.find? (·.name = name) := by
  rw [meant?, place?]
  induction engines with
  | nil => rfl
  | cons e rest ih =>
    rw [List.findIdx?_cons, List.find?_cons]
    cases h : decide (e.name = name) with
    | true => rfl
    | false =>
      rw [← ih]
      cases rest.findIdx? (·.name = name) <;> rfl

theorem meant?_none_eq_some : meant? engines none = some e ↔ engines = [e] := by
  rw [meant?, place?]
  constructor
  · intro h
    split at h
    · next hlen =>
      obtain ⟨f, rfl⟩ := List.length_eq_one_iff.mp hlen
      cases h
      rfl
    · cases h
  · rintro rfl
    rfl

/-- What is said when no engine is meant, given the names of the list. -/
def absence (names : List String) (request : Option String) : Failure :=
  if names = [] then
    unavailable "No conversion engine is installed."
      (some ("Install a package that provides the '" ++ group ++ "' entry point."))
  else
    match request with
    | some name => unavailable ("Conversion engine '" ++ name ++ "' is not installed.")
        (some ("Installed engines: " ++ ", ".intercalate names))
    | none => unavailable "Several conversion engines are installed."
        (some ("Choose one with --engine: " ++ ", ".intercalate names))

/-- **Choosing** gives the engine that is meant, or says that there is none. -/
theorem select_eq (engines : List Engine) (request : Option String) :
    select engines (request.map Value.text) =
      (meant? engines request).elim
        (.error (absence ((sorted engines).map Engine.name) request)) .ok := by
  rw [select, absence.eq_def]
  cases hs : sorted engines with
  | nil =>
    obtain rfl : engines = [] := List.Perm.nil_eq (hs ▸ perm_sorted engines) |>.symm
    cases request <;> rfl
  | cons first others =>
    rw [if_neg (by simp)]
    cases request with
    | some name =>
      -- Sorting keeps engines of one name in order, so the first of them is the same in both lists.
      have hfind : ((first :: others).find? fun e ↦ (Value.text name).same (.text e.name))
          = meant? engines (some name) := by
        rw [meant?_name, ← find?_sorted, hs]
        congr 1
        funext e
        rw [Bool.eq_iff_iff, Value.same_text, decide_eq_true_iff, Value.text.injEq, eq_comm]
      dsimp only [Option.map_some]
      rw [hfind]
      cases meant? engines (some name) <;> rfl
    | none =>
      have hperm : (first :: others).Perm engines := hs ▸ perm_sorted engines
      dsimp only [Option.map_none]
      cases others with
      | nil =>
        rw [meant?_none_eq_some.mpr (List.perm_singleton.mp hperm.symm)]
        rfl
      | cons second others =>
        -- Of two engines or more none is meant without a name.
        have hnone : meant? engines none = none := by
          rw [Option.eq_none_iff_forall_ne_some]
          intro e he
          rw [meant?_none_eq_some.mp he] at hperm
          simpa using hperm.length_eq
        rw [hnone]
        rfl

/-- Where all places have the same names, choosing depends on the place that is meant alone. -/
theorem select_congr {request : Option String}
    (hnames : engines'.map Engine.name = engines.map Engine.name)
    (hmeant : ∀ i, place? engines request = some i → engines'[i]? = engines[i]?) :
    select engines' (request.map Value.text) = select engines (request.map Value.text) := by
  have hplace : place? engines' request = place? engines request := by
    cases request with
    | some name =>
      have hmap : ∀ l : List Engine, place? l (some name)
          = (l.map Engine.name).findIdx? (· = name) := fun l ↦ by
        rw [place?, List.findIdx?_map]
        rfl
      rw [hmap, hmap, hnames]
    | none =>
      have hlen : engines'.length = engines.length := by
        simpa using congrArg List.length hnames
      rw [place?, place?, hlen]
  have hsame : meant? engines' request = meant? engines request := by
    rw [meant?, meant?, hplace]
    cases hi : place? engines request with
    | none => rfl
    | some i => exact hmeant i hi
  rw [select_eq, select_eq, hsame, map_name_sorted hnames]

/-! ## Loading -/

/-- What loading an engine comes to. -/
def readied (e : Engine) : Except Failure Engine :=
  match e.loadFailure with
  | some f =>
    if f.isError then
      .error (.engineUnavailable
        ("Conversion engine '" ++ e.name ++ "' failed to load: " ++ f.message) none
        (some f.summary))
    else .error f
  | none =>
    if e.callable then .ok e
    else .error (unavailable ("Conversion engine '" ++ e.name ++ "' is not callable.") none)

theorem result_load (engines : List Engine) (request : Option Value) :
    (load engines request).result = select engines request >>= readied := by
  rw [load, Logged.result_bind]
  cases hs : select engines request with
  | error f => rfl
  | ok e =>
    rw [Logged.lift, ok_bind, ok_bind, Logged.result_bind, Logged.note, ok_bind, readied]
    cases e.loadFailure with
    | some f => dsimp only; split <;> rfl
    | none => cases e.callable <;> rfl

theorem readied_eq_ok {f : Engine} :
    readied e = .ok f ↔ e = f ∧ e.loadFailure = none ∧ e.callable = true := by
  rw [readied]
  split
  · next g hg =>
    rw [hg]
    refine iff_of_false ?_ fun h ↦ nomatch h.2.1
    split <;> exact nofun
  · next hg =>
    rw [hg]
    by_cases hcallable : e.callable = true
    · simp [hcallable]
    · simp [hcallable]

/-- The failure that no engine is available. -/
def Refuses (x : Except Failure Engine) : Prop :=
  ∃ message hint cause, x = .error (.engineUnavailable message hint cause)

/-- An engine is refused when an error comes up while it is loaded, and when it cannot be called. -/
theorem refuses_readied : Refuses (readied e) ↔
    (∃ f, e.loadFailure = some f ∧ f.isError = true) ∨
      e.loadFailure = none ∧ e.callable = false := by
  rw [readied]
  split
  · next f hf =>
    rw [hf]
    by_cases herror : f.isError = true
    · simp [Refuses, herror]
    · have hf : ∀ message hint cause, f ≠ .engineUnavailable message hint cause := by
        rintro message hint cause rfl
        exact herror rfl
      simpa [Refuses, herror] using hf
  · next hf =>
    rw [hf]
    cases e.callable with
    | true => simp [Refuses]
    | false => simp [Refuses, unavailable]

private theorem refuses_load (engines : List Engine) (request : Option String) :
    Refuses (load engines (request.map Value.text)).result ↔
      meant? engines request = none ∨ ∃ e, meant? engines request = some e ∧
        Refuses (readied e) := by
  rw [result_load, select_eq]
  cases meant? engines request with
  | none =>
    have habsence : ∀ names, ∃ message hint, absence names request = unavailable message hint := by
      intro names
      rw [absence.eq_def]
      split
      · exact ⟨_, _, rfl⟩
      · split <;> exact ⟨_, _, rfl⟩
    obtain ⟨message, hint, h⟩ := habsence ((sorted engines).map Engine.name)
    refine iff_of_true ⟨message, hint, none, ?_⟩ (.inl rfl)
    rw [Option.elim_none, h, error_bind, unavailable]
  | some e => simp

/-- **Engines are chosen by their names alone.** For all engines that are installed:

* They are listed by name in the order of code points, each as often as it was found, and engines of
  one name in the order in which they were found.
* With a name, the engine that is loaded is the first one of this name that was found; no engine is
  available exactly when there is none, when an error comes up while it is loaded, or when it cannot
  be called.
* Without a name, only a single engine is ever loaded.
* With different names, the order in which the engines were found makes no difference, neither for
  the engine nor for what is said.
* Other engines than the one that is meant may be exchanged for others of their names. -/
theorem load_depends_on_names (engines : List Engine) :
    ((sorted engines).Perm engines ∧
      (sorted engines).Pairwise
        (fun e f ↦ Text.codePoints e.name ≤ Text.codePoints f.name) ∧
      ∀ name, (sorted engines).filter (·.name = name) = engines.filter (·.name = name)) ∧
    (∀ name e, (load engines (some (.text name))).result = .ok e ↔
      engines.find? (·.name = name) = some e ∧ e.loadFailure = none ∧ e.callable = true) ∧
    (∀ name, (∃ message hint cause, (load engines (some (.text name))).result
        = .error (.engineUnavailable message hint cause)) ↔
      (∀ e ∈ engines, e.name ≠ name) ∨ ∃ e, engines.find? (·.name = name) = some e ∧
        ((∃ f, e.loadFailure = some f ∧ f.isError = true) ∨
          e.loadFailure = none ∧ e.callable = false)) ∧
    (∀ e, (load engines none).result = .ok e ↔
      engines = [e] ∧ e.loadFailure = none ∧ e.callable = true) ∧
    (∀ engines' request, engines'.Perm engines → (engines.map Engine.name).Nodup →
      load engines' request = load engines request) ∧
    ∀ engines' request, engines'.map Engine.name = engines.map Engine.name →
      (∀ i, place? engines request = some i → engines'[i]? = engines[i]?) →
      load engines' (request.map Value.text) = load engines (request.map Value.text) := by
  have hload : ∀ request e, (load engines (request.map Value.text)).result = .ok e ↔
      meant? engines request = some e ∧ e.loadFailure = none ∧ e.callable = true := by
    intro request e
    rw [result_load, select_eq]
    cases meant? engines request with
    | none => simp
    | some f =>
      rw [Option.elim_some, ok_bind, readied_eq_ok, Option.some.injEq]
      refine ⟨?_, ?_⟩
      · rintro ⟨rfl, h⟩
        exact ⟨rfl, h⟩
      · rintro ⟨rfl, h⟩
        exact ⟨rfl, h⟩
  refine ⟨⟨perm_sorted engines, ordered_sorted engines, filter_sorted engines⟩, fun name e ↦ ?_,
    fun name ↦ ?_, fun e ↦ ?_, fun engines' request hperm hnodup ↦ ?_,
    fun engines' request hnames hmeant ↦ ?_⟩
  · rw [← meant?_name]
    exact hload (some name) e
  · have hrefuses := refuses_load engines (some name)
    rw [meant?_name, List.find?_eq_none] at hrefuses
    simp only [decide_eq_true_eq, refuses_readied] at hrefuses
    exact hrefuses
  · rw [← meant?_none_eq_some]
    exact hload none e
  · rw [load, load, select, select, sorted_perm hperm hnodup]
  · rw [load, load, select_congr hnames hmeant]

/-- Two engines of one name, of which the second one cannot be loaded, and one of another name. -/
def twins : List Engine :=
  [⟨"b", "b:first", none, true, []⟩, ⟨"a", "a:run", none, false, []⟩,
    ⟨"b", "b:second", some (.general "broken" none), true, []⟩]

theorem load_depends_on_names_twins :
    (load twins (some (.text "b"))).result = .ok ⟨"b", "b:first", none, true, []⟩ ∧
      (load [⟨"b", "b:first", none, true, []⟩, ⟨"a", "a:other", none, true, []⟩,
        ⟨"b", "b:third", none, true, []⟩] (some (.text "b"))).result
        = .ok ⟨"b", "b:first", none, true, []⟩ ∧
      load [⟨"d", "d:run", none, true, []⟩, ⟨"c", "c:run", none, true, []⟩] none
        = load [⟨"c", "c:run", none, true, []⟩, ⟨"d", "d:run", none, true, []⟩] none := by
  obtain ⟨-, hname, -, -, -, hothers⟩ := load_depends_on_names twins
  have hfirst := (hname "b" _).mpr ⟨rfl, rfl, rfl⟩
  refine ⟨hfirst, ?_, ?_⟩
  · rw [← hfirst]
    exact congrArg Logged.result (hothers _ (some "b") rfl (by rintro i ⟨⟩; rfl))
  · obtain ⟨-, -, -, -, hperm, -⟩ := load_depends_on_names
      [⟨"c", "c:run", none, true, []⟩, ⟨"d", "d:run", none, true, []⟩]
    exact hperm _ none (.swap _ _ _) (by decide)

end Registry

end GatewayPrint
