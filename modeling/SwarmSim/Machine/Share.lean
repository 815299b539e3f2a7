import Mathlib.Data.List.Perm.Basic
import Mathlib.Tactic

/-! A list that is shared out among ranks: each rank goes over the whole list and keeps what it owns. -/

namespace SwarmSim.Machine

variable {α β : Type*} {owner : α → ℕ} {l : List α} {n rank rank' : ℕ} {x : α}

def sharedTo (owner : α → ℕ) (rank : ℕ) (l : List α) : List α := l.filter fun x => owner x = rank

lemma mem_sharedTo : x ∈ sharedTo owner rank l ↔ x ∈ l ∧ owner x = rank := by
  rw [sharedTo, List.mem_filter, decide_eq_true_eq]

lemma sharedTo_cons : sharedTo owner rank (x :: l) =
    if owner x = rank then x :: sharedTo owner rank l else sharedTo owner rank l := by
  rw [sharedTo, List.filter_cons]
  simp only [decide_eq_true_eq, sharedTo]

lemma shares_succ (l : List α) (n : ℕ) :
    ((l.filter fun x => owner x < n) ++ sharedTo owner n l).Perm (l.filter fun x => owner x < n + 1) := by
  induction l with
  | nil => exact List.Perm.refl _
  | cons x l ih =>
    rw [sharedTo_cons, List.filter_cons, List.filter_cons]
    rcases Nat.lt_trichotomy (owner x) n with hlt | heq | hgt
    · rw [if_pos (by simpa using hlt), if_neg hlt.ne, if_pos (by simpa using hlt.le)]
      exact ih.cons x
    · rw [if_neg (by simp [heq]), if_pos heq, if_pos (by simp [heq])]
      exact List.perm_middle.trans (ih.cons x)
    · rw [if_neg (by simpa using hgt.le), if_neg hgt.ne', if_neg (by simpa using hgt)]
      exact ih

lemma shares_perm (h : ∀ x ∈ l, owner x < n) : ((List.range n).flatMap fun r => sharedTo owner r l).Perm l := by
  have hbelow : ∀ k, ((List.range k).flatMap fun r => sharedTo owner r l).Perm
      (l.filter fun x => owner x < k) := by
    intro k
    induction k with
    | zero => simp
    | succ k ih =>
      rw [List.range_succ, List.flatMap_append, List.flatMap_singleton]
      exact (ih.append_right _).trans (shares_succ l k)
  have hall : (l.filter fun x => owner x < n) = l := by
    rw [List.filter_eq_self]
    exact fun x hx => decide_eq_true (h x hx)
  have hn := hbelow n
  rwa [hall] at hn

end SwarmSim.Machine
