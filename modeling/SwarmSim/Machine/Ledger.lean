import Mathlib.Algebra.BigOperators.Group.Finset.Basic
import Mathlib.Data.Fintype.BigOperators
import Mathlib.Data.List.Induction
import Mathlib.Tactic

/-! A ledger of events: the total of an amount over the events, the share of it that one of the
owners of the events has, and counters of finite width that follow the shares. -/

namespace SwarmSim.Machine

open scoped BigOperators

variable {ι κ : Type*}

def totalOf (amount : ι → ℕ) (cs : List ι) : ℕ := (cs.map amount).sum

def shareOf [DecidableEq κ] (owner : ι → Option κ) (k : κ) (amount : ι → ℕ) (c : ι) : ℕ :=
  if owner c = some k then amount c else 0

lemma totalOf_concat (amount : ι → ℕ) (cs : List ι) (c : ι) :
    totalOf amount (cs ++ [c]) = totalOf amount cs + amount c := by
  simp [totalOf]

lemma totalOf_add (amount amount' : ι → ℕ) (cs : List ι) :
    totalOf (fun c => amount c + amount' c) cs = totalOf amount cs + totalOf amount' cs := by
  induction cs using List.reverseRecOn with
  | nil => rfl
  | append_singleton cs c ih =>
    rw [totalOf_concat, totalOf_concat, totalOf_concat, ih]
    exact Nat.add_add_add_comm _ _ _ _

lemma totalOf_le {amount : ι → ℕ} {k : ℕ} (h : ∀ c, amount c ≤ k) (cs : List ι) :
    totalOf amount cs ≤ cs.length * k := by
  induction cs using List.reverseRecOn with
  | nil => exact Nat.zero_le _
  | append_singleton cs c ih =>
    rw [totalOf_concat, List.length_append, List.length_singleton, Nat.succ_mul]
    exact Nat.add_le_add ih (h c)

lemma toNat_ofNat_of_lt {w n : ℕ} (h : n < 2 ^ w) : (BitVec.ofNat w n).toNat = n := by
  rw [BitVec.toNat_ofNat, Nat.mod_eq_of_lt h]

lemma totalOf_shareOf_le [DecidableEq κ] (owner : ι → Option κ) (amount : ι → ℕ) (k : κ) (cs : List ι) :
    totalOf (shareOf owner k amount) cs ≤ totalOf amount cs := by
  induction cs using List.reverseRecOn with
  | nil => rfl
  | append_singleton cs c ih =>
    rw [totalOf_concat, totalOf_concat]
    apply Nat.add_le_add ih
    rw [shareOf]
    split_ifs
    · rfl
    · exact Nat.zero_le _

section Shares

variable [Fintype κ] [DecidableEq κ] {owner : ι → Option κ} {amount : ι → ℕ}

lemma sum_shareOf (c : ι) (h : owner c = none → amount c = 0) :
    ∑ k, shareOf owner k amount c = amount c := by
  cases ho : owner c with
  | none =>
    rw [h ho]
    apply Finset.sum_eq_zero
    intro k _
    exact if_neg (by simp [ho])
  | some k =>
    rw [Finset.sum_eq_single k]
    · exact if_pos ho
    · intro k' _ hne
      exact if_neg fun he => hne (Option.some.inj (he.symm.trans ho))
    · exact fun hk => absurd (Finset.mem_univ k) hk

theorem sum_totalOf_shareOf (h : ∀ c, owner c = none → amount c = 0) (cs : List ι) :
    ∑ k, totalOf (shareOf owner k amount) cs = totalOf amount cs := by
  induction cs using List.reverseRecOn with
  | nil => exact Finset.sum_const_zero
  | append_singleton cs c ih =>
    simp only [totalOf_concat, Finset.sum_add_distrib, ih, sum_shareOf c (h c)]

theorem sum_toNat_of_shares {w : ℕ} {cs : List ι} {counter : κ → BitVec w}
    (h : ∀ c, owner c = none → amount c = 0)
    (hcounter : ∀ k, counter k = BitVec.ofNat w (totalOf (shareOf owner k amount) cs))
    (hlt : ∀ k, totalOf (shareOf owner k amount) cs < 2 ^ w) :
    ∑ k, (counter k).toNat = totalOf amount cs := by
  rw [← sum_totalOf_shareOf h cs]
  apply Finset.sum_congr rfl
  intro k _
  rw [hcounter, toNat_ofNat_of_lt (hlt k)]

end Shares

end SwarmSim.Machine
