import Mathlib.Algebra.BigOperators.Group.List.Basic
import Mathlib.Algebra.BigOperators.Intervals
import Mathlib.Data.Nat.Periodic
import Mathlib.Tactic

/-! Choice by running sums: a draw selects the first item whose running sum of
weights exceeds it. Sums are kept in a machine word of size `m`. -/

namespace SwarmSim.Machine

variable {α : Type*}

def total (l : List (α × ℕ)) : ℕ := (l.map Prod.snd).sum

@[simp] lemma total_nil : total ([] : List (α × ℕ)) = 0 := rfl

@[simp] lemma total_cons (p : α × ℕ) (l : List (α × ℕ)) : total (p :: l) = p.2 + total l := by
  simp [total]

lemma total_eq_zero {l : List (α × ℕ)} : total l = 0 ↔ ∀ p ∈ l, p.2 = 0 := by
  simp only [total, List.sum_eq_zero_iff, List.mem_map, Prod.exists, exists_eq_right, Prod.forall,
    forall_exists_index]
  exact forall_comm

lemma total_le {l : List (α × ℕ)} {bound : ℕ} (h : ∀ p ∈ l, p.2 ≤ bound) :
    total l ≤ l.length * bound := by
  rw [total, ← List.length_map (f := Prod.snd), ← smul_eq_mul]
  apply List.sum_le_card_nsmul
  intro w hw
  obtain ⟨p, hp, rfl⟩ := List.mem_map.mp hw
  exact h p hp

lemma total_perm {l l' : List (α × ℕ)} (h : l.Perm l') : total l = total l' :=
  (h.map Prod.snd).sum_eq

def runningSums (m : ℕ) : ℕ → List (α × ℕ) → List (α × ℕ)
  | _, [] => []
  | a, p :: l => (p.1, (a + p.2) % m) :: runningSums m ((a + p.2) % m) l

def pick (r : ℕ) (l : List (α × ℕ)) : Option α := (l.find? (fun p => r < p.2)).map Prod.fst

@[simp] lemma pick_nil (r : ℕ) : pick r ([] : List (α × ℕ)) = none := rfl

lemma pick_cons (r : ℕ) (p : α × ℕ) (l : List (α × ℕ)) :
    pick r (p :: l) = if r < p.2 then some p.1 else pick r l := by
  by_cases h : r < p.2 <;> simp [pick, h]

lemma pick_positive {m a r : ℕ} {l : List (α × ℕ)} (hm : a + total l < m) (ha : a ≤ r) {x : α}
    (h : pick r (runningSums m a l) = some x) : ∃ w, (x, w) ∈ l ∧ 0 < w := by
  induction l generalizing a with
  | nil => simp [runningSums] at h
  | cons p l ih =>
    rw [total_cons] at hm
    rw [runningSums, Nat.mod_eq_of_lt (by omega), pick_cons] at h
    split at h
    · rename_i hr
      obtain rfl := Option.some.inj h
      exact ⟨p.2, List.mem_cons_self, by dsimp only at hr; omega⟩
    · rename_i hr
      obtain ⟨w, hw, hpos⟩ := ih (by omega) (by dsimp only at hr; omega) h
      exact ⟨w, List.mem_cons_of_mem p hw, hpos⟩

lemma pick_total {m a r : ℕ} {l : List (α × ℕ)} (hm : a + total l < m) (hr : r < a + total l)
    (ha : a ≤ r) : ∃ x, pick r (runningSums m a l) = some x := by
  induction l generalizing a with
  | nil => simp at hr; omega
  | cons p l ih =>
    rw [total_cons] at hm hr
    rw [runningSums, Nat.mod_eq_of_lt (by omega), pick_cons]
    split
    · exact ⟨p.1, rfl⟩
    · rename_i hlt
      exact ih (by omega) (by omega) (by dsimp only at hlt; omega)

lemma pick_hits {m a : ℕ} {l : List (α × ℕ)} {x : α} {w : ℕ} (hm : a + total l < m)
    (hx : (x, w) ∈ l) (hw : 0 < w) :
    ∃ r, a ≤ r ∧ r < a + total l ∧ pick r (runningSums m a l) = some x := by
  induction l generalizing a with
  | nil => simp at hx
  | cons p l ih =>
    rw [total_cons] at hm ⊢
    rw [runningSums, Nat.mod_eq_of_lt (by omega)]
    rcases List.mem_cons.mp hx with rfl | hx
    · exact ⟨a, le_rfl, by dsimp only; omega, by rw [pick_cons, if_pos (by dsimp only; omega)]⟩
    · obtain ⟨r, hr, hlt, hp⟩ := ih (a := a + p.2) (by omega) hx
      exact ⟨r, by omega, by omega, by rw [pick_cons, if_neg (by dsimp only; omega), hp]⟩

lemma pick_beyond {m a r : ℕ} {l : List (α × ℕ)} (hm : a + total l < m) (hr : a + total l ≤ r) :
    pick r (runningSums m a l) = none := by
  induction l generalizing a with
  | nil => rfl
  | cons p l ih =>
    rw [total_cons] at hm hr
    rw [runningSums, Nat.mod_eq_of_lt (by omega), pick_cons, if_neg (by dsimp only; omega)]
    exact ih (by omega) (by omega)

section Relabelled

variable {β : Type*} (g : α → β) {m a r w : ℕ} {l : List (α × ℕ)}

lemma total_map (l : List (α × ℕ)) : total (l.map (Prod.map g id)) = total l := by
  rw [total, List.map_map]
  rfl

lemma runningSums_map (m a : ℕ) (l : List (α × ℕ)) :
    runningSums m a (l.map (Prod.map g id)) = (runningSums m a l).map (Prod.map g id) := by
  induction l generalizing a with
  | nil => rfl
  | cons p l ih =>
    rw [List.map_cons, runningSums, ih]
    rfl

lemma pick_map (r : ℕ) (l : List (α × ℕ)) : pick r (l.map (Prod.map g id)) = (pick r l).map g := by
  induction l with
  | nil => rfl
  | cons p l ih =>
    rw [List.map_cons, pick_cons, pick_cons, ih]
    by_cases hr : r < p.2
    · rw [if_pos hr]
      exact if_pos hr
    · rw [if_neg hr]
      exact if_neg hr

lemma pick_none (hm : 0 < m) (h : total l = 0) (r : ℕ) : pick r (runningSums m 0 l) = none := by
  apply pick_beyond <;> omega

lemma total_uniform (l : List α) (w : ℕ) : total (l.map fun x => (x, w)) = l.length * w := by
  induction l with
  | nil => rw [List.map_nil, total_nil, List.length_nil, Nat.zero_mul]
  | cons x l ih => rw [List.map_cons, total_cons, ih, List.length_cons, Nat.succ_mul, Nat.add_comm]

lemma pick_uniform {l : List α} (hw : 0 < w) (hm : a + l.length * w < m) (ha : a ≤ r) :
    pick r (runningSums m a (l.map fun x => (x, w))) = l[(r - a) / w]? := by
  induction l generalizing a with
  | nil => rfl
  | cons x l ih =>
    rw [List.length_cons, Nat.succ_mul] at hm
    rw [List.map_cons, runningSums, Nat.mod_eq_of_lt (by dsimp only; omega), pick_cons]
    by_cases hr : r < a + w
    · rw [if_pos hr, Nat.div_eq_of_lt (by omega)]
      rfl
    · rw [if_neg hr, ih (by omega) (by omega)]
      have hnext : (r - a) / w = (r - (a + w)) / w + 1 := by
        rw [← Nat.add_div_right _ hw]
        congr 1
        omega
      rw [hnext, List.getElem?_cons_succ]

end Relabelled

section Shares

variable [DecidableEq α]

def share (x : α) (l : List (α × ℕ)) : ℕ := total (l.filter fun p => p.1 = x)

@[simp] lemma share_nil (x : α) : share x ([] : List (α × ℕ)) = 0 := rfl

lemma share_cons (x : α) (p : α × ℕ) (l : List (α × ℕ)) :
    share x (p :: l) = (if p.1 = x then p.2 else 0) + share x l := by
  by_cases h : p.1 = x <;> simp [share, h]

lemma share_eq_zero {x : α} {l : List (α × ℕ)} (h : x ∉ l.map Prod.fst) : share x l = 0 := by
  rw [share, List.filter_eq_nil_iff.mpr, total_nil]
  intro p hp hpx
  exact h (List.mem_map.mpr ⟨p, hp, by simpa using hpx⟩)

lemma share_map (w : α → ℕ) {l : List α} (hl : l.Nodup) (x : α) :
    share x (l.map fun y => (y, w y)) = if x ∈ l then w x else 0 := by
  induction l with
  | nil => rfl
  | cons y l ih =>
    obtain ⟨hy, hl⟩ := List.nodup_cons.mp hl
    rw [List.map_cons, share_cons, ih hl]
    by_cases hyx : y = x
    · subst hyx
      rw [if_pos rfl, if_neg hy, if_pos List.mem_cons_self, Nat.add_zero]
    · rw [if_neg hyx, Nat.zero_add]
      have hcons : x ∈ y :: l ↔ x ∈ l := by
        rw [List.mem_cons, or_iff_right (Ne.symm hyx)]
      simp only [hcons]

lemma share_perm {l l' : List (α × ℕ)} (h : l.Perm l') (x : α) : share x l = share x l' :=
  total_perm (h.filter _)

lemma card_pick {m a : ℕ} {l : List (α × ℕ)} (hm : a + total l < m) (x : α) :
    ((Finset.Ico a (a + total l)).filter fun r => pick r (runningSums m a l) = some x).card =
      share x l := by
  induction l generalizing a with
  | nil => simp
  | cons p l ih =>
    rw [total_cons] at hm ⊢
    have hpick : ∀ r, pick r (runningSums m a (p :: l)) =
        if r < a + p.2 then some p.1 else pick r (runningSums m (a + p.2) l) := by
      intro r
      rw [runningSums, Nat.mod_eq_of_lt (by omega), pick_cons]
    have hhere : ∑ r ∈ Finset.Ico a (a + p.2),
        (if pick r (runningSums m a (p :: l)) = some x then 1 else 0) = if p.1 = x then p.2 else 0 := by
      calc
        _ = ∑ _r ∈ Finset.Ico a (a + p.2), (if p.1 = x then 1 else 0) := by
          apply Finset.sum_congr rfl
          intro r hr
          simp only [hpick, (Finset.mem_Ico.mp hr).2, if_true, Option.some.injEq]
        _ = if p.1 = x then p.2 else 0 := by simp
    have hrest : ∑ r ∈ Finset.Ico (a + p.2) (a + p.2 + total l),
        (if pick r (runningSums m a (p :: l)) = some x then 1 else 0) = share x l := by
      rw [← ih (a := a + p.2) (by omega), Finset.card_filter]
      apply Finset.sum_congr rfl
      intro r hr
      simp only [hpick, (Finset.mem_Ico.mp hr).1.not_gt, if_false]
    rw [Finset.card_filter, ← Nat.add_assoc, share_cons, ← hhere, ← hrest]
    exact (Finset.sum_Ico_consecutive _ (Nat.le_add_right a p.2) (Nat.le_add_right _ _)).symm

theorem card_pick_getD {m n : ℕ} {l : List (α × ℕ)} (hm : total l < m) (hn : total l ≤ n) (d x : α) :
    ((Finset.range n).filter fun r => (pick r (runningSums m 0 l)).getD d = x).card =
      share x l + if x = d then n - total l else 0 := by
  rw [← Nat.zero_add (total l)] at hm hn
  have hhit : ∑ r ∈ Finset.Ico 0 (0 + total l),
      (if (pick r (runningSums m 0 l)).getD d = x then 1 else 0) = share x l := by
    rw [← card_pick hm, Finset.card_filter]
    apply Finset.sum_congr rfl
    intro r hr
    obtain ⟨y, hy⟩ := pick_total hm (Finset.mem_Ico.mp hr).2 (Nat.zero_le r)
    simp only [hy, Option.getD_some, Option.some.injEq]
  have hmiss : ∑ r ∈ Finset.Ico (0 + total l) n,
      (if (pick r (runningSums m 0 l)).getD d = x then 1 else 0) =
        if x = d then n - total l else 0 := by
    calc
      _ = ∑ _r ∈ Finset.Ico (0 + total l) n, (if x = d then 1 else 0) := by
        apply Finset.sum_congr rfl
        intro r hr
        simp only [pick_beyond hm (Finset.mem_Ico.mp hr).1, Option.getD_none, eq_comm]
      _ = if x = d then n - total l else 0 := by simp
  rw [Finset.card_filter, Finset.range_eq_Ico, ← hhit, ← hmiss]
  exact (Finset.sum_Ico_consecutive _ (Nat.zero_le _) hn).symm

theorem card_pick_window {m : ℕ} {l : List (α × ℕ)} (hm : total l < m) (start : ℕ) (x : α) :
    ((Finset.Ico start (start + total l)).filter fun h =>
      pick (h % total l) (runningSums m 0 l) = some x).card = share x l := by
  have hperiod : Function.Periodic
      (fun h => pick (h % total l) (runningSums m 0 l) = some x) (total l) := by
    intro h
    dsimp only
    rw [Nat.add_mod_right]
  rw [Nat.filter_Ico_card_eq_of_periodic start (total l) _ hperiod,
    ← card_pick (a := 0) (by rwa [Nat.zero_add]) x, Nat.zero_add, Nat.count_eq_card_filter_range,
    Finset.range_eq_Ico]
  congr 1
  apply Finset.filter_congr
  intro r hr
  rw [Nat.mod_eq_of_lt (Finset.mem_Ico.mp hr).2]

end Shares

end SwarmSim.Machine
