import GatewayPrint.Proofs.Yaml.HandingOver

/-!
# Runs of the scanner

A run takes the scanner from one state to the end of its stream, or to a fault (`Scanner.Runs`). It
is told as if no token were handed over on the way, since settled tokens make no difference. What a
reader of the stream gets is then read off the run: all its tokens (`tokens_of_runs`), or some of
them and a fault (`tokens_of_runs_none`).

The number of steps is bounded by the length of the stream and the number of tokens by
`Scanner.weight`, which no step increases.
-/

namespace GatewayPrint.Yaml.Scanner

open Outcome

variable {s t u v : Scanner} {r : Option (List Token)} {j k : Nat}

/-- A bound for the tokens that are pending or still to come: a block that is open takes one token
to close, and no character brings more than five. -/
def weight (s : Scanner) : Nat := s.pending.length + s.outer.length + 5 * s.cursor.rest.length

/-- A run from a state: all tokens of the stream, or none when there is a fault. -/
inductive Runs : Scanner → Option (List Token) → Prop where
  | last {s t : Scanner} (hs : s.behind = none ∧ s.done = false) (h : s.fetchNext = .ok t)
      (hd : t.done = true) (hw : t.pending.length ≤ s.weight + 1)
      (hlen : t.cursor.rest.length ≤ s.cursor.rest.length) : Runs s (some t.pending)
  | step {s t u : Scanner} {r : Option (List Token)} (hs : s.behind = none ∧ s.done = false)
      (h : s.fetchNext = .ok t) (hd : t.done = false) (hp : s.pending.length < t.pending.length)
      (hlen : t.cursor.rest.length < s.cursor.rest.length) (hw : t.weight ≤ s.weight)
      (hl : t.dropLapsed = .ok u) (hr : Runs u r) : Runs s r
  | fault {s : Scanner} {f : Fault} (hs : s.behind = none ∧ s.done = false)
      (h : s.fetchNext = .error f) : Runs s none
  | late {s t : Scanner} {f : Fault} (hs : s.behind = none ∧ s.done = false)
      (h : s.fetchNext = .ok t) (hd : t.done = false) (hp : s.pending.length < t.pending.length)
      (hlen : t.cursor.rest.length < s.cursor.rest.length) (hl : t.dropLapsed = .error f) :
      Runs s none

theorem Runs.start_eq (h : Runs s r) : s.behind = none ∧ s.done = false := by
  cases h <;> assumption

theorem Runs.congr (h : Runs t r) (hs : s.behind = none ∧ s.done = false)
    (heq : s.fetchNext = t.fetchNext) (hp : s.pending.length ≤ t.pending.length)
    (hlen : t.cursor.rest.length ≤ s.cursor.rest.length) (hw : t.weight ≤ s.weight) :
    Runs s r := by
  cases h with
  | last _ h hd hw' hl =>
    exact .last hs (heq.trans h) hd (Nat.le_trans hw' (Nat.succ_le_succ hw)) (Nat.le_trans hl hlen)
  | step _ h hd hp' hlen' hw' hl hr =>
    exact .step hs (heq.trans h) hd (Nat.lt_of_le_of_lt hp hp') (Nat.lt_of_lt_of_le hlen' hlen)
      (Nat.le_trans hw' hw) hl hr
  | fault _ h => exact .fault hs (heq.trans h)
  | late _ h hd hp' hlen' hl =>
    exact .late hs (heq.trans h) hd (Nat.lt_of_le_of_lt hp hp') (Nat.lt_of_lt_of_le hlen' hlen) hl

/-! ## Lapsed candidates -/

theorem dropLapsed_of_none (h : (s.candidates.find? fun e ↦ s.lapsed e.2 && e.2.required) = none) :
    s.dropLapsed = .ok { s with candidates := s.candidates.filter fun e ↦ !s.lapsed e.2 } := by
  rw [dropLapsed, h]

theorem dropLapsed_of_some {e : Nat × KeyCandidate}
    (h : (s.candidates.find? fun e ↦ s.lapsed e.2 && e.2.required) = some e) :
    s.dropLapsed = .error (s.missingColon e.2) := by
  rw [dropLapsed, h]

/-- What is left of candidates that need not be keys. -/
theorem dropLapsed_of_optional (h : ∀ e ∈ t.candidates, e.2.required = false) :
    t.dropLapsed = .ok { t with candidates := t.candidates.filter fun e ↦ !t.lapsed e.2 } := by
  refine dropLapsed_of_none (List.find?_eq_none.mpr fun e he ↦ ?_)
  rw [h e he, Bool.and_false]
  exact Bool.false_ne_true

theorem dropLapsed_of_lapsed (h : ∀ e ∈ t.candidates, e.2.required = false ∧ t.lapsed e.2 = true) :
    t.dropLapsed = .ok { t with candidates := [] } := by
  have hfilter : (t.candidates.filter fun e ↦ !t.lapsed e.2) = [] := by
    refine List.filter_eq_nil_iff.mpr fun e he ↦ ?_
    rw [(h e he).2]
    decide
  rw [dropLapsed_of_optional fun e he ↦ (h e he).1, hfilter]

/-- No candidate has lapsed. -/
def Clean (s : Scanner) : Prop := s.dropLapsed = .ok s

theorem eq_of_dropLapsed (h : t.dropLapsed = .ok u) :
    u = { t with candidates := t.candidates.filter fun e ↦ !t.lapsed e.2 } := by
  rw [dropLapsed] at h
  split at h
  · cases h
  · exact (Except.ok.inj h).symm

theorem clean_of_live (h : ∀ e ∈ t.candidates, t.lapsed e.2 = false) : t.Clean := by
  have hfind : (t.candidates.find? fun e ↦ t.lapsed e.2 && e.2.required) = none := by
    refine List.find?_eq_none.mpr fun e he ↦ ?_
    rw [h e he, Bool.false_and]
    exact Bool.false_ne_true
  have hfilter : (t.candidates.filter fun e ↦ !t.lapsed e.2) = t.candidates := by
    refine List.filter_eq_self.mpr fun e he ↦ ?_
    rw [h e he]
    rfl
  rw [Clean, dropLapsed_of_none hfind]
  exact congrArg (fun cs ↦ Except.ok { t with candidates := cs }) hfilter

theorem clean_of_nil (h : s.candidates = []) : s.Clean :=
  clean_of_live fun _ he ↦ absurd (h ▸ he) List.not_mem_nil

theorem clean_of_dropLapsed (h : t.dropLapsed = .ok u) : u.Clean := by
  have hu := eq_of_dropLapsed h
  refine clean_of_live fun e he ↦ ?_
  rw [hu] at he
  have hlive := (List.mem_filter.mp he).2
  rw [hu]
  change t.lapsed e.2 = false
  simpa using hlive

theorem Clean.shift (h : s.Clean) (hj : Settled j s) : (s.shift j).Clean := by
  rw [Clean, blind_dropLapsed.shift hj, h]
  rfl

/-! ## Getting ready -/

theorem ready_of_done (h : s.done = true) (k : Nat) : ready k s = .ok s := by
  cases k with
  | zero => rfl
  | succ k => rw [ready, if_pos h]

private theorem fetch_of_behind (h : s.behind = none) : s.fetch = s.fetchNext := by
  rw [fetch, h]

/-- Lapsed candidates are dropped before anything else when a token is pending. -/
theorem ready_of_dropLapsed (hd : t.done = false) (hp : t.pending ≠ []) (h : t.dropLapsed = .ok u)
    (k : Nat) : ready (k + 1) t = ready (k + 1) u := by
  have hu := clean_of_dropLapsed h
  have heq := eq_of_dropLapsed h
  have hud : u.done = false := by rw [heq]; exact hd
  have hup : u.pending = t.pending := by rw [heq]
  have ht : t.pending.isEmpty = false := by rw [List.isEmpty_eq_false_iff]; exact hp
  rw [ready, ready, hd, hud, hup, ht, h, hu]
  rfl

/-- A state in which a token can be handed over. -/
structure Stands (j : Nat) (r : Option (List Token)) (v : Scanner) : Prop where
  runs : Runs v r
  clean : v.Clean
  pending : j < v.pending.length
  free : v.firstCandidate? ≠ some (v.taken + j)

/-- What getting ready leads to on a run: a state in which a token can be handed over, the end of
the stream, or a fault. -/
inductive Reaches (j : Nat) (s : Scanner) (r : Option (List Token)) : Prop where
  | stands {v : Scanner} (h : v.Stands j r) (hj : Settled j v) (hn : s.NotEnded → v.NotEnded)
      (ht : v.taken = s.taken) (hlen : v.cursor.rest.length ≤ s.cursor.rest.length)
      (hw : v.weight ≤ s.weight)
      (hr : ∀ k, s.cursor.rest.length + 1 ≤ k → ready k (s.shift j) = .ok (v.shift j))
  | ends {v : Scanner} (hd : v.done = true) (h : r = some v.pending) (hj : Settled j v)
      (hw : v.pending.length ≤ s.weight + 1)
      (hr : ∀ k, s.cursor.rest.length + 1 ≤ k → ready k (s.shift j) = .ok (v.shift j))
  | fails {f : Fault} (h : r = none)
      (hr : ∀ k, s.cursor.rest.length + 1 ≤ k → ready k (s.shift j) = .error f)

/-- When the first token cannot be handed over, the next lexeme is read. -/
theorem ready_of_waiting (hs : s.behind = none ∧ s.done = false) (hc : s.Clean)
    (hj : Settled j s) (h : ¬(j < s.pending.length ∧ s.firstCandidate? ≠ some (s.taken + j)))
    (k : Nat) : ready (k + 1) (s.shift j) = (s.fetchNext.map (shift j)) >>= ready k := by
  have hb : (s.shift j).behind = none := hs.1
  have hfetch : (s.shift j).fetch = s.fetchNext.map (shift j) := by
    rw [fetch_of_behind hb]
    exact blind_fetchNext.shift hj
  have hd : (s.shift j).done = false := hs.2
  rw [ready, hd, if_neg Bool.false_ne_true]
  by_cases hp : (s.shift j).pending.isEmpty = true
  · rw [if_pos hp, hfetch]
  · have hlt : j < s.pending.length := by
      refine Nat.lt_of_not_le fun hle ↦ hp ?_
      rw [List.isEmpty_iff]
      exact List.drop_eq_nil_of_le hle
    have hf : (s.shift j).firstCandidate? = some (s.shift j).taken :=
      Decidable.byContradiction fun hne ↦ h ⟨hlt, hne⟩
    rw [if_neg hp, hc.shift hj, ok_bind, if_pos hf, hfetch]

private theorem ready_of_stands (h : v.Stands j r) (hj : Settled j v) (k : Nat) :
    ready (k + 1) (v.shift j) = .ok (v.shift j) := by
  have hd : (v.shift j).done = false := h.runs.start_eq.2
  have hp : (v.shift j).pending.isEmpty = false := by
    rw [List.isEmpty_eq_false_iff]
    exact List.ne_nil_of_length_pos (by
      change 0 < (v.pending.drop j).length
      rw [List.length_drop]
      exact Nat.sub_pos_of_lt h.pending)
  have hf : ¬(v.shift j).firstCandidate? = some (v.shift j).taken := h.free
  rw [ready, hd, if_neg Bool.false_ne_true, hp, if_neg Bool.false_ne_true, h.clean.shift hj,
    ok_bind, if_neg hf]

theorem exists_succ_of_le {n : Nat} (h : n + 1 ≤ k) : ∃ m, k = m + 1 ∧ n ≤ m :=
  ⟨k - 1, by omega, by omega⟩

/-- A token that came after the settled ones is still pending. -/
theorem pending_shift_ne_nil (hj : Settled j s) (hp : s.pending.length < t.pending.length) :
    (t.shift j).pending ≠ [] := by
  refine List.ne_nil_of_length_pos ?_
  change 0 < (t.pending.drop j).length
  rw [List.length_drop]
  exact Nat.sub_pos_of_lt (Nat.lt_of_le_of_lt hj.1 hp)

theorem Stands.reaches (h : s.Stands j r) (hj : Settled j s) : Reaches j s r := by
  refine .stands h hj id rfl (Nat.le_refl _) (Nat.le_refl _) fun k hk ↦ ?_
  obtain ⟨k, rfl, -⟩ := exists_succ_of_le hk
  exact ready_of_stands h hj k

/-- What is reached from the state after a step is reached from the state before it. -/
theorem Reaches.of_step (h : Reaches j u r) (hn : s.NotEnded → u.NotEnded)
    (ht : u.taken = s.taken) (hlen : u.cursor.rest.length < s.cursor.rest.length)
    (hw : u.weight ≤ s.weight)
    (hready : ∀ k, s.cursor.rest.length ≤ k →
      ready (k + 1) (s.shift j) = ready k (u.shift j)) : Reaches j s r := by
  -- Getting ready takes the step with one unit of fuel, and the rest is that of the next state.
  have htrans : ∀ {x : Except Fault Scanner},
      (∀ k, u.cursor.rest.length + 1 ≤ k → ready k (u.shift j) = x) →
      ∀ k, s.cursor.rest.length + 1 ≤ k → ready k (s.shift j) = x := by
    intro x hx k hk
    obtain ⟨m, rfl, hm⟩ := exists_succ_of_le hk
    exact (hready m hm).trans (hx m (Nat.le_trans hlen hm))
  cases h with
  | stands hv hjv hnv htv hlv hwv hrv =>
    exact .stands hv hjv (fun hsn ↦ hnv (hn hsn)) (htv.trans ht)
      (Nat.le_trans hlv (Nat.le_of_lt hlen)) (Nat.le_trans hwv hw) (htrans hrv)
  | ends hdv hrp hjv hwv hrv =>
    exact .ends hdv hrp hjv (Nat.le_trans hwv (Nat.succ_le_succ hw)) (htrans hrv)
  | fails hrn hrv => exact .fails hrn (htrans hrv)

/-- A step of a run, seen from the state with `j` tokens handed over. -/
theorem ready_of_step (hs : s.behind = none ∧ s.done = false) (hc : s.Clean) (hj : Settled j s)
    (hst : ¬(j < s.pending.length ∧ s.firstCandidate? ≠ some (s.taken + j)))
    (h : s.fetchNext = .ok t) (hd : t.done = false) (hp : s.pending.length < t.pending.length)
    (hl : t.dropLapsed = .ok u) (hk : 0 < k) :
    ready (k + 1) (s.shift j) = ready k (u.shift j) := by
  obtain ⟨k, rfl⟩ := Nat.exists_eq_add_one_of_ne_zero (Nat.ne_of_gt hk)
  have hdrop : (t.shift j).dropLapsed = .ok (u.shift j) := by
    rw [blind_dropLapsed.shift (blind_fetchNext.settled hj h).1, hl]
    rfl
  rw [ready_of_waiting hs hc hj hst, h]
  exact ready_of_dropLapsed (t := t.shift j) hd (pending_shift_ne_nil hj hp) hdrop k

/-- A key that has lapsed after a step is found before another token is handed over. -/
theorem ready_of_late {f : Fault} (hs : s.behind = none ∧ s.done = false) (hc : s.Clean)
    (hj : Settled j s) (hst : ¬(j < s.pending.length ∧ s.firstCandidate? ≠ some (s.taken + j)))
    (h : s.fetchNext = .ok t) (hd : t.done = false) (hp : s.pending.length < t.pending.length)
    (hl : t.dropLapsed = .error f) (hk : 0 < k) :
    ready (k + 1) (s.shift j) = .error f := by
  obtain ⟨k, rfl⟩ := Nat.exists_eq_add_one_of_ne_zero (Nat.ne_of_gt hk)
  have hdrop : (t.shift j).dropLapsed = .error f := by
    rw [blind_dropLapsed.shift (blind_fetchNext.settled hj h).1, hl]
    rfl
  have hpt : (t.shift j).pending.isEmpty = false :=
    List.isEmpty_eq_false_iff.mpr (pending_shift_ne_nil hj hp)
  have hdt : (t.shift j).done = false := hd
  rw [ready_of_waiting hs hc hj hst, h]
  change ready (k + 1) (t.shift j) = _
  rw [ready, hdt, if_neg Bool.false_ne_true, hpt, if_neg Bool.false_ne_true, hdrop]
  rfl

/-- **On a run the scanner gets ready** as long as the stream has tokens. -/
theorem Runs.reaches (h : Runs s r) (hc : s.Clean) (hj : Settled j s) : Reaches j s r := by
  -- Either the first token can be handed over at once, or the run makes its next step.
  induction h with
  | @last s t hs h hd hw hlen =>
    by_cases hst : j < s.pending.length ∧ s.firstCandidate? ≠ some (s.taken + j)
    · exact Stands.reaches ⟨.last hs h hd hw hlen, hc, hst.1, hst.2⟩ hj
    · refine .ends hd rfl (blind_fetchNext.settled hj h).1 hw fun k hk ↦ ?_
      obtain ⟨k, rfl, -⟩ := exists_succ_of_le hk
      rw [ready_of_waiting hs hc hj hst, h]
      exact ready_of_done (s := t.shift j) hd k
  | @step s t u r hs h hd hp hlen hw hl hr ih =>
    by_cases hst : j < s.pending.length ∧ s.firstCandidate? ≠ some (s.taken + j)
    · exact Stands.reaches ⟨.step hs h hd hp hlen hw hl hr, hc, hst.1, hst.2⟩ hj
    · have hu := eq_of_dropLapsed hl
      have hweight : u.weight = t.weight := by rw [hu, weight, weight]
      have hcursor : u.cursor = t.cursor := by rw [hu]
      have hju := (blind_dropLapsed.settled (blind_fetchNext.settled hj h).1 hl).1
      refine (ih (clean_of_dropLapsed hl) hju).of_step (fun hn ↦ ?_) ?_ ?_ ?_ fun k hk ↦ ?_
      · exact blind_dropLapsed.notEnded hl (blind_fetchNext.notEnded h hn)
      · exact (blind_dropLapsed.taken hl).trans (blind_fetchNext.taken h)
      · rw [hcursor]
        exact hlen
      · rw [hweight]
        exact hw
      · exact ready_of_step hs hc hj hst h hd hp hl (Nat.zero_lt_of_lt (Nat.lt_of_lt_of_le hlen hk))
  | @fault s f hs h =>
    by_cases hst : j < s.pending.length ∧ s.firstCandidate? ≠ some (s.taken + j)
    · exact Stands.reaches ⟨.fault hs h, hc, hst.1, hst.2⟩ hj
    · refine .fails (f := f) rfl fun k hk ↦ ?_
      obtain ⟨k, rfl, -⟩ := exists_succ_of_le hk
      rw [ready_of_waiting hs hc hj hst, h]
      rfl
  | @late s t f hs h hd hp hlen hl =>
    by_cases hst : j < s.pending.length ∧ s.firstCandidate? ≠ some (s.taken + j)
    · exact Stands.reaches ⟨.late hs h hd hp hlen hl, hc, hst.1, hst.2⟩ hj
    · refine .fails (f := f) rfl fun k hk ↦ ?_
      obtain ⟨m, rfl, hm⟩ := exists_succ_of_le hk
      exact ready_of_late hs hc hj hst h hd hp hl (Nat.zero_lt_of_lt (Nat.lt_of_lt_of_le hlen hm))

/-! ## Handing over -/

variable {ts : List Token} {steps fuel : Nat}

/-- Settled tokens stay as they are to the end. -/
theorem Runs.take_eq (h : Runs s (some ts)) (hj : Settled j s) : ts.take j = s.pending.take j := by
  generalize hr : some ts = r at h
  induction h with
  | last hs h hd hw hlen =>
    cases hr
    exact (blind_fetchNext.settled hj h).2
  | step hs h hd hp hlen hw hl _ ih =>
    obtain ⟨hjt, ht⟩ := blind_fetchNext.settled hj h
    obtain ⟨hju, hu⟩ := blind_dropLapsed.settled hjt hl
    exact (ih hju hr).trans (hu.trans ht)
  | fault hs h => cases hr
  | late hs h hd hp hlen hl => cases hr

private theorem handOver_of_done (h : s.done = true) (hf : s.pending.length < fuel) (steps : Nat) :
    handOver steps fuel s = (s.pending, none) := by
  induction fuel generalizing s with
  | zero => exact absurd hf (Nat.not_lt_zero _)
  | succ fuel ih =>
    rw [handOver, ready_of_done h]
    cases hp : s.pending with
    | nil => simp only [hp]
    | cons x rest =>
      have hlt : rest.length < fuel := by
        rw [hp, List.length_cons] at hf
        exact Nat.lt_of_succ_lt_succ hf
      simp only [hp]
      rw [ih (s := { s with pending := rest, taken := s.taken + 1 }) h hlt]

theorem Stands.settled (h : v.Stands j r) (hj : Settled j v) : Settled (j + 1) v := by
  refine ⟨h.pending, fun e he ↦ ?_⟩
  have hle := hj.2 e he
  refine Nat.lt_of_le_of_ne hle fun heq ↦ h.free ?_
  refine List.min?_eq_some_iff.mpr ⟨?_, ?_⟩
  · exact List.mem_map.mpr ⟨e, he, heq.symm⟩
  · intro n hn
    obtain ⟨e', he', rfl⟩ := List.mem_map.mp hn
    exact hj.2 e' he'

theorem Stands.pending_eq (h : v.Stands j r) :
    ∃ x, (v.shift j).pending = x :: (v.shift (j + 1)).pending ∧ v.pending[j]? = some x := by
  obtain ⟨x, hx⟩ : ∃ x, v.pending[j]? = some x := ⟨_, List.getElem?_eq_getElem h.pending⟩
  refine ⟨x, ?_, hx⟩
  obtain ⟨hlt, hget⟩ := List.getElem?_eq_some_iff.mp hx
  exact (List.drop_eq_getElem_cons hlt).trans (by rw [hget]; rfl)

theorem handOver_of_stands (h : v.Stands j r) (hr : ready steps (s.shift j) = .ok (v.shift j))
    (fuel : Nat) : ∃ x, v.pending[j]? = some x ∧ handOver steps (fuel + 1) (s.shift j) =
      (x :: (handOver steps fuel (v.shift (j + 1))).1,
        (handOver steps fuel (v.shift (j + 1))).2) := by
  obtain ⟨x, hx, hget⟩ := h.pending_eq
  refine ⟨x, hget, ?_⟩
  rw [handOver, hr]
  simp only [hx]
  rfl

theorem weight_pos_of_settled (hj : Settled j s) : j ≤ s.weight := by
  have := hj.1
  rw [weight]
  omega

/-- **All tokens of a run are handed over.** -/
theorem handOver_of_runs (h : Runs s (some ts)) (hc : s.Clean) (hj : Settled j s)
    (hsteps : s.cursor.rest.length + 1 ≤ steps) (hfuel : s.weight + 2 ≤ fuel + j) :
    handOver steps fuel (s.shift j) = (ts.drop j, none) := by
  induction fuel generalizing s j with
  | zero =>
    have := weight_pos_of_settled hj
    omega
  | succ fuel ih =>
    cases h.reaches hc hj with
    | @stands v hv hjv hn ht hlen hw hr =>
      obtain ⟨x, hx, hover⟩ := handOver_of_stands hv (hr steps hsteps) fuel
      have hj' := hv.settled hjv
      have hrest := ih hv.runs hv.clean hj' (Nat.le_trans (Nat.succ_le_succ hlen) hsteps) (by omega)
      -- The token that is handed over is settled, so it is the token at this place in the end.
      have htake := hv.runs.take_eq hj'
      have hget : ts[j]? = some x := by
        have := congrArg (·[j]?) htake
        simpa [List.getElem?_take, hx] using this
      obtain ⟨hlt, hget⟩ := List.getElem?_eq_some_iff.mp hget
      rw [hover, hrest, List.drop_eq_getElem_cons hlt, hget]
    | @ends v hd hrp hjv hw hr =>
      cases hrp
      have hready := hr steps hsteps
      have hdone : (v.shift j).done = true := hd
      have hlen : (v.shift j).pending.length < fuel + 1 := by
        change (v.pending.drop j).length < fuel + 1
        rw [List.length_drop]
        omega
      have hover := handOver_of_done hdone hlen steps
      rw [handOver, ready_of_done hdone] at hover
      rw [handOver, hready]
      exact hover
    | fails hrn hr => cases hrn

/-- **A run with a fault** hands over some tokens, the end of the stream not among them. -/
theorem handOver_of_runs_none (h : Runs s none) (hc : s.Clean) (hj : Settled j s)
    (hn : s.NotEnded) (hsteps : s.cursor.rest.length + 1 ≤ steps)
    (hfuel : s.weight + 2 ≤ fuel + j) :
    ∃ ts f, handOver steps fuel (s.shift j) = (ts, some f) ∧
      ∀ t ∈ ts, t.kind ≠ .streamEnd := by
  induction fuel generalizing s j with
  | zero =>
    have := weight_pos_of_settled hj
    omega
  | succ fuel ih =>
    -- A run with a fault stands at a token that can be handed over, or its next step fails.
    cases h.reaches hc hj with
    | @stands v hv hjv hnv ht hlen hw hr =>
      obtain ⟨x, hx, hover⟩ := handOver_of_stands hv (hr steps hsteps) fuel
      obtain ⟨ts, f, hrest, hts⟩ := ih hv.runs hv.clean (hv.settled hjv) (hnv hn)
        (Nat.le_trans (Nat.succ_le_succ hlen) hsteps) (by omega)
      refine ⟨x :: ts, f, ?_, ?_⟩
      · rw [hover, hrest]
      · intro t ht
        rcases List.mem_cons.mp ht with rfl | ht
        · exact hnv hn hv.runs.start_eq.2 t (List.mem_of_getElem? hx)
        · exact hts t ht
    | ends hd hrp hjv hw hr => cases hrp
    | @fails f hrn hr =>
      refine ⟨[], f, ?_, fun t ht ↦ absurd ht List.not_mem_nil⟩
      rw [handOver, hr steps hsteps]

end Scanner

open Scanner

variable {stream : Stream} {ts : List Token}

theorem clean_start : (Scanner.start stream).Clean := clean_of_nil rfl

theorem settled_start : Settled 0 (Scanner.start stream) :=
  ⟨Nat.zero_le _, fun _ he ↦ absurd he List.not_mem_nil⟩

theorem weight_start : (Scanner.start stream).weight = 1 + 5 * stream.text.length := rfl

theorem tokens_of_runs (h : Runs (.start stream) (some ts)) : tokens stream = (ts, none) :=
  handOver_of_runs h clean_start settled_start (Nat.le_succ _) (by rw [weight_start]; omega)

/-- The tokens of a stream with a fault do not include its end. -/
theorem tokens_of_runs_none (h : Runs (.start stream) none) :
    ∃ ts f, tokens stream = (ts, some f) ∧ ∀ t ∈ ts, t.kind ≠ .streamEnd := by
  refine handOver_of_runs_none h clean_start settled_start ?_ (Nat.le_succ _)
    (by rw [weight_start]; omega)
  intro _ t ht
  rw [List.mem_singleton.mp ht]
  exact fun h ↦ nomatch h

end GatewayPrint.Yaml
