import SwarmSim.Wcmp.Lookup

namespace SwarmSim.Wcmp

open Machine Ns3

namespace WcmpWeights

variable {w : WcmpWeights} {entries : List EntryPtr} {level : ℕ}

lemma share_upWeights {e : EntryPtr} (hup : w.isIfUp e.getInterface = true) :
    share e (w.upWeights level entries) = entries.count e * w.getWeight e.getInterface level := by
  induction entries with
  | nil => simp [upWeights]
  | cons x es ih =>
    by_cases hx : w.isIfUp x.getInterface = true
    · rw [upWeights_cons_up hx, share_cons, ih, List.count_cons]
      by_cases hxe : x = e
      · simp only [hxe, if_true, beq_self_eq_true, Nat.add_mul, Nat.one_mul, Nat.add_comm]
      · simp only [hxe, beq_eq_false_iff_ne.mpr hxe, if_false, Bool.false_eq_true, Nat.zero_add,
          Nat.add_zero]
    · have hne : x ≠ e := fun h => hx (h ▸ hup)
      rw [upWeights_cons_down hx, ih, List.count_cons_of_ne hne]

lemma total_upWeights_lt (hlen : entries.length < 65537) (hw : ∀ i, w.getWeight i level < 2 ^ 16) :
    total (w.upWeights level entries) < 2 ^ 32 := by
  have hle : total (w.upWeights level entries) ≤
      (w.upWeights level entries).length * (2 ^ 16 - 1) := by
    apply total_le
    rintro ⟨e, x⟩ hx
    obtain ⟨-, -, rfl⟩ := mem_upWeights.mp hx
    exact Nat.le_of_lt_succ (hw _)
  have hcount : (w.upWeights level entries).length ≤ entries.length := by
    rw [upWeights, List.length_map]
    exact List.length_filter_le _ _
  calc
    _ ≤ (w.upWeights level entries).length * (2 ^ 16 - 1) := hle
    _ ≤ 65536 * (2 ^ 16 - 1) := Nat.mul_le_mul_right _ (by omega)
    _ < 2 ^ 32 := by norm_num

/-- Any `S` consecutive hash values return each up candidate as often as its weight says; a
candidate that stands several times in the list has the weight of all its occurrences. -/
theorem choose_proportional (w : WcmpWeights) (entries : List EntryPtr) (level m : ℕ)
    (hlen : entries.length < 65537) (hw : ∀ i, w.getWeight i level < 2 ^ 16)
    (hpos : 0 < total (w.upWeights level entries)) :
    (∀ e ∈ entries, w.isIfUp e.getInterface = true →
      ((Finset.Ico (m * total (w.upWeights level entries))
        ((m + 1) * total (w.upWeights level entries))).filter fun hash =>
          (choose entries hash level w).1 = .ok (some e)).card =
        entries.count e * w.getWeight e.getInterface level) ∧
    ∀ hash, ∃ e ∈ entries, (choose entries hash level w).1 = .ok (some e) ∧
      w.isIfUp e.getInterface = true ∧ 0 < w.getWeight e.getInterface level := by
  have hlt := total_upWeights_lt hlen hw
  refine ⟨fun e _ hup => ?_, fun hash => ?_⟩
  · simp only [choose_answer, answer_of_sum hlt hpos, Except.ok.injEq, Nat.add_mul, Nat.one_mul]
    rw [card_pick_window hlt, share_upWeights hup]
  · obtain ⟨e, x, ha, hmem, hx⟩ := answer_some hlt hpos hash
    obtain ⟨he, hup, rfl⟩ := mem_upWeights.mp hmem
    exact ⟨e, he, choose_answer.trans ha, hup, hx⟩

def oneToThree : WcmpWeights :=
  (((((WcmpWeights.new 1).setState 1 true).setState 2 true).setState 3 true).setWeight 1 0 1
    |>.setWeight 2 0 2).setWeight 3 0 3

def linkRoutes : List EntryPtr :=
  [⟨0, .createNetworkRouteTo 0 0 1⟩, ⟨1, .createNetworkRouteTo 0 0 2⟩,
    ⟨2, .createNetworkRouteTo 0 0 3⟩]

theorem choose_proportional_links :
    (∀ e ∈ linkRoutes, oneToThree.isIfUp e.getInterface = true →
      ((Finset.Ico (4 * 6) ((4 + 1) * 6)).filter fun hash =>
          (choose linkRoutes hash 0 oneToThree).1 = .ok (some e)).card =
        linkRoutes.count e * oneToThree.getWeight e.getInterface 0) ∧
    ∀ hash, ∃ e ∈ linkRoutes, (choose linkRoutes hash 0 oneToThree).1 = .ok (some e) ∧
      oneToThree.isIfUp e.getInterface = true ∧ 0 < oneToThree.getWeight e.getInterface 0 := by
  have hw : ∀ i, oneToThree.getWeight i 0 < 2 ^ 16 := by
    intro i
    simp only [oneToThree, getWeight_setWeight, getWeight_setState]
    split_ifs
    all_goals norm_num [getWeight, new]
  exact choose_proportional oneToThree linkRoutes 0 4 (by decide) hw (by decide)

end WcmpWeights

end SwarmSim.Wcmp
