import SwarmSim.Machine.Loop

namespace SwarmSim.Machine

variable {σ ε α : Type*}

/-- `for (i = 0; i < n; i++) for (j = 0; j < n; j++) if (i != j) f(i, j)`, where `f` may fault. -/
def forPairsM (f : ℕ → ℕ → σ → Except ε σ) (n : ℕ) : σ → Except ε σ :=
  forRangeM (fun i => forRangeM (fun j s => if i = j then .ok s else f i j s) n) n

def forPairs (f : ℕ → ℕ → σ → σ) (n : ℕ) : σ → σ :=
  forRange (fun i => forRange (fun j s => if i = j then s else f i j s) n) n

def pairsUpto (entries : ℕ → ℕ → List α) (n i j : ℕ) : List α :=
  ((List.range i).flatMap fun i => (List.range n).flatMap fun j => if i = j then [] else entries i j) ++
    (List.range j).flatMap fun j => if i = j then [] else entries i j

def seat (i j : ℕ) : ℕ := if j < i then i - 1 else i

section Pairs

variable {f : ℕ → ℕ → σ → Except ε σ} {g : ℕ → ℕ → σ → σ} {entries : ℕ → ℕ → List α} {n i j k : ℕ} {s : σ}

lemma forPairsM_ok (h : ∀ i j s, i < n → j < n → f i j s = .ok (g i j s)) :
    forPairsM f n s = .ok (forPairs g n s) := by
  have hrow : ∀ i s, i < n → forRangeM (fun j s => if i = j then .ok s else f i j s) n s =
      .ok (forRange (fun j s => if i = j then s else g i j s) n s) := by
    intro i s hi
    apply And.left
    apply forRangeM_skip (P := fun _ => True) trivial
    intro j s hj _ _
    exact ⟨h i j s hi hj, trivial⟩
  apply And.left
  apply forRangeM_ok (P := fun _ => True) trivial
  intro i s hi _
  exact ⟨hrow i s hi, trivial⟩

lemma forPairs_invariant {P : ℕ → ℕ → σ → Prop} (h : P 0 0 s)
    (hpair : ∀ i j s, i < n → j < n → i ≠ j → P i j s → P i (j + 1) (g i j s))
    (hdiagonal : ∀ i s, i < n → P i i s → P i (i + 1) s)
    (hrow : ∀ i s, i < n → P i n s → P (i + 1) 0 s) : P n 0 (forPairs g n s) := by
  apply forRange_invariant (P := fun i => P i 0) h
  intro i s hi hs
  apply hrow i _ hi
  apply forRange_invariant (P := fun j => P i j) hs
  intro j s hj hs
  by_cases hne : i = j
  · subst hne
    rw [if_pos rfl]
    exact hdiagonal i s hi hs
  · rw [if_neg hne]
    exact hpair i j s hi hj hne hs

@[simp] lemma pairsUpto_start : pairsUpto entries n 0 0 = [] := rfl

lemma pairsUpto_pair (h : i ≠ j) :
    pairsUpto entries n i (j + 1) = pairsUpto entries n i j ++ entries i j := by
  rw [pairsUpto, List.range_succ, List.flatMap_append, List.flatMap_singleton, if_neg h,
    ← List.append_assoc]
  rfl

@[simp] lemma pairsUpto_diagonal : pairsUpto entries n i (i + 1) = pairsUpto entries n i i := by
  rw [pairsUpto, List.range_succ, List.flatMap_append, List.flatMap_singleton, if_pos rfl,
    List.append_nil]
  rfl

@[simp] lemma pairsUpto_row : pairsUpto entries n (i + 1) 0 = pairsUpto entries n i n := by
  rw [pairsUpto, List.range_succ, List.flatMap_append, List.flatMap_singleton, List.range_zero,
    List.flatMap_nil, List.append_nil]
  rfl

lemma mem_pairsUpto {x : α} : x ∈ pairsUpto entries n n 0 ↔
    ∃ i < n, ∃ j < n, i ≠ j ∧ x ∈ entries i j := by
  simp only [pairsUpto, List.range_zero, List.flatMap_nil, List.append_nil, List.mem_flatMap,
    List.mem_range]
  constructor
  · rintro ⟨i, hi, j, hj, hx⟩
    split_ifs at hx with hne
    · cases hx
    · exact ⟨i, hi, j, hj, hne, hx⟩
  · rintro ⟨i, hi, j, hj, hne, hx⟩
    refine ⟨i, hi, j, hj, ?_⟩
    rwa [if_neg hne]

lemma pairsUpto_filterMap {β : Type*} (φ : α → Option β) :
    (pairsUpto entries n i j).filterMap φ = pairsUpto (fun i j => (entries i j).filterMap φ) n i j := by
  simp only [pairsUpto, List.filterMap_append, List.filterMap_flatMap, apply_ite (List.filterMap φ),
    List.filterMap_nil]

lemma seat_lt (hi : i < n) (hne : i ≠ j) (hj : j < n) : seat i j < n - 1 := by
  rw [seat]
  split_ifs <;> omega

lemma pairsUpto_column (e : ℕ → ℕ → α) (hk : k < n) :
    (pairsUpto (fun i j => if j = k then [e i j] else []) n n 0) =
      (((List.range n).filter (· ≠ k)).map fun i => e i k) := by
  have hrow : ∀ i, ((List.range n).flatMap fun j =>
      if i = j then [] else if j = k then [e i j] else []) = if i ≠ k then [e i k] else [] := by
    intro i
    have hupto : ∀ m, ((List.range m).flatMap fun j =>
        if i = j then [] else if j = k then [e i j] else []) = if k < m ∧ i ≠ k then [e i k] else [] := by
      intro m
      induction m with
      | zero => rfl
      | succ m ih =>
        rw [List.range_succ, List.flatMap_append, ih, List.flatMap_singleton]
        by_cases hm : m = k
        · subst hm
          simp
        · have hlt : k < m + 1 ↔ k < m := by omega
          simp [hm, hlt]
    simp only [hupto, hk, true_and]
  rw [pairsUpto, List.range_zero, List.flatMap_nil, List.append_nil]
  simp only [hrow]
  induction List.range n with
  | nil => rfl
  | cons i l ih =>
    rw [List.flatMap_cons, ih]
    by_cases hi : i = k <;> simp [hi]

lemma map_seat (φ : ℕ → α) (hk : k < n) :
    (((List.range n).filter (· ≠ k)).map fun i => φ (seat i k)) = (List.range (n - 1)).map φ := by
  have hupto : ∀ m, (((List.range m).filter (· ≠ k)).map fun i => φ (seat i k)) =
      (List.range (if k < m then m - 1 else m)).map φ := by
    intro m
    induction m with
    | zero => rfl
    | succ m ih =>
      rw [List.range_succ, List.filter_append, List.map_append, ih]
      rcases Nat.lt_trichotomy k m with hlt | rfl | hgt
      · have hm : m - 1 + 1 = m := by omega
        rw [if_pos hlt, if_pos (by omega), Nat.add_sub_cancel, List.filter_singleton]
        rw [decide_eq_true hlt.ne', cond_true, List.map_singleton, seat, if_pos hlt]
        conv_rhs => rw [← hm, List.range_succ, List.map_append, List.map_singleton]
      · simp
      · rw [if_neg hgt.not_gt, if_neg (by omega), List.filter_singleton, decide_eq_true hgt.ne,
          cond_true, List.map_singleton, seat, if_neg hgt.not_gt, List.range_succ, List.map_append,
          List.map_singleton]
  rw [hupto n, if_pos hk]

end Pairs

end SwarmSim.Machine
