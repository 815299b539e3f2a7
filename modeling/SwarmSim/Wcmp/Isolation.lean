import SwarmSim.Wcmp.StaticRouting

namespace SwarmSim.Wcmp

open Machine Ns3

namespace WcmpWeights

variable {w v : WcmpWeights} {i j l k weight : ℕ} {entries : List EntryPtr}

lemma getWeight_congr_key (h : getLeveledIf k j = getLeveledIf l i) (w : WcmpWeights) :
    w.getWeight j k = w.getWeight i l := by
  rw [getWeight, getWeight, h]

lemma setWeight_same (h : weight = w.getWeight i l) : Same (w.setWeight i l weight) w := by
  refine ⟨rfl, fun _ => rfl, fun j k => ?_⟩
  rw [getWeight_setWeight]
  split
  · rename_i hkey
    rw [h, getWeight_congr_key hkey]
  · rfl

lemma choose_congr (hash : ℕ) (hup : ∀ e ∈ entries, w.isIfUp e.getInterface = v.isIfUp e.getInterface)
    (hw : ∀ e ∈ entries, w.getWeight e.getInterface k = v.getWeight e.getInterface k) :
    (w.choose entries hash k).1 = (v.choose entries hash k).1 := by
  have hweights : w.upWeights k entries = v.upWeights k entries := by
    rw [upWeights, upWeights, List.filter_congr hup]
    apply List.map_congr_left
    intro e he
    rw [hw e (List.mem_of_mem_filter he)]
  rw [choose_answer, choose_answer, hweights]

lemma exists_alias (hl : l < 2 ^ 16) (i : ℕ) :
    ∃ j k, j < 2 ^ 32 ∧ k < 2 ^ 16 ∧ k ≠ l ∧ getLeveledIf k j = getLeveledIf l i := by
  by_cases h : l = 0
  · refine ⟨(i + (2 ^ 32 - 2 ^ 16)) % 2 ^ 32, 1, Nat.mod_lt _ (by decide), by decide, by omega, ?_⟩
    rw [getLeveledIf, getLeveledIf]
    omega
  · refine ⟨(i + 2 ^ 16) % 2 ^ 32, l - 1, Nat.mod_lt _ (by decide), by omega, by omega, ?_⟩
    rw [getLeveledIf, getLeveledIf]
    omega

/-- An index of more than 16 bits has the key of one that fits, at another level. -/
lemma exists_small_alias (hi : i < 2 ^ 32) (hbig : 2 ^ 16 ≤ i) (l : ℕ) :
    ∃ j k, j < 2 ^ 16 ∧ k < 2 ^ 16 ∧ k ≠ l ∧ getLeveledIf k j = getLeveledIf l i := by
  refine ⟨i % 2 ^ 16, (l + i / 2 ^ 16) % 2 ^ 16, Nat.mod_lt _ (by decide),
    Nat.mod_lt _ (by decide), by omega, ?_⟩
  rw [getLeveledIf, getLeveledIf]
  omega

end WcmpWeights

namespace WcmpStaticRouting

structure Isolates (bound i l weight : ℕ) (r : WcmpStaticRouting) : Prop where
  getWeight (j k : ℕ) : j < bound → k < 2 ^ 16 → (j, k) ≠ (i, l) →
    (r.setInterfaceWeight i l weight).weights.getWeight j k = r.weights.getWeight j k
  choose (entries : List EntryPtr) (hash k : ℕ) : (∀ e ∈ entries, e.getInterface < bound) →
    k < 2 ^ 16 → k ≠ l → ((r.setInterfaceWeight i l weight).weights.choose entries hash k).1 =
      (r.weights.choose entries hash k).1

variable {r : WcmpStaticRouting} {i j l k weight bound : ℕ}

lemma Isolates.of_getWeight (h : ∀ j k, j < bound → k < 2 ^ 16 → (j, k) ≠ (i, l) →
    (r.setInterfaceWeight i l weight).weights.getWeight j k = r.weights.getWeight j k) :
    r.Isolates bound i l weight := by
  refine ⟨h, fun entries hash k hentries hk hne => ?_⟩
  refine WcmpWeights.choose_congr hash (fun e _ => rfl) fun e he => ?_
  exact h e.getInterface k (hentries e he) hk fun heq => hne (Prod.mk.inj heq).2

lemma Isolates.eq_of_alias (h : r.Isolates bound i l weight) (hj : j < bound) (hk : k < 2 ^ 16)
    (hne : k ≠ l) (hkey : getLeveledIf k j = getLeveledIf l i) : weight = r.weights.getWeight i l := by
  have hread := h.getWeight j k hj hk fun heq => hne (Prod.mk.inj heq).2
  rw [setInterfaceWeight, WcmpWeights.getWeight_setWeight, if_pos hkey,
    WcmpWeights.getWeight_congr_key hkey] at hread
  exact hread

/-- Every update that changes a weight changes it under a second level and index. With indices of
16 bits on both sides none does. -/
theorem setInterfaceWeight_isolates_iff (r : WcmpStaticRouting) (i l weight : ℕ) (hi : i < 2 ^ 32)
    (hl : l < 2 ^ 16) :
    (r.Isolates (2 ^ 32) i l weight ↔ weight = r.weights.getWeight i l) ∧
      (r.Isolates (2 ^ 16) i l weight ↔ i < 2 ^ 16 ∨ weight = r.weights.getWeight i l) := by
  have hsame : ∀ bound, weight = r.weights.getWeight i l → r.Isolates bound i l weight := by
    intro bound h
    exact .of_getWeight fun j k _ _ _ => (WcmpWeights.setWeight_same h).getWeight j k
  refine ⟨⟨fun h => ?_, hsame _⟩, ⟨fun h => ?_, ?_⟩⟩
  · obtain ⟨j, k, hj, hk, hne, hkey⟩ := WcmpWeights.exists_alias hl i
    exact h.eq_of_alias hj hk hne hkey
  · by_cases hbig : i < 2 ^ 16
    · exact Or.inl hbig
    · obtain ⟨j, k, hj, hk, hne, hkey⟩ := WcmpWeights.exists_small_alias hi (not_lt.mp hbig) l
      exact Or.inr (h.eq_of_alias hj hk hne hkey)
  · rintro (hsmall | h)
    · apply Isolates.of_getWeight
      intro j k hj hk hne
      rw [setInterfaceWeight, WcmpWeights.getWeight_setWeight, if_neg]
      rw [WcmpWeights.getLeveledIf_inj hj hsmall hk hl]
      rintro ⟨rfl, rfl⟩
      exact hne rfl
    · exact hsame _ h

def twoInterfaces : WcmpStaticRouting :=
  ((new 2 none).notifyInterfaceUp 1 true).notifyInterfaceUp 2 true

theorem setInterfaceWeight_isolates_one : twoInterfaces.Isolates (2 ^ 16) 1 0 7 :=
  (setInterfaceWeight_isolates_iff twoInterfaces 1 0 7 (by decide) (by decide)).2.mpr
    (Or.inl (by decide))

theorem setInterfaceWeight_not_isolates :
    (¬ ∀ (r : WcmpStaticRouting) (i l weight : ℕ), i < 2 ^ 32 → l < 2 ^ 16 → weight < 2 ^ 16 →
      r.Isolates (2 ^ 32) i l weight) ∧
    let entries : List EntryPtr :=
      [⟨0, .createNetworkRouteTo 0 0 1⟩, ⟨1, .createNetworkRouteTo 0 0 2⟩]
    (twoInterfaces.weights.choose entries 0 1).1 = .ok entries[0]? ∧
      ((twoInterfaces.setInterfaceWeight 65537 0 0).weights.choose entries 0 1).1 = .ok entries[1]? := by
  refine ⟨fun hall => ?_, by decide⟩
  have hread := (hall twoInterfaces 65537 0 0 (by decide) (by decide) (by decide)).getWeight 1 1
    (by decide) (by decide) (by decide)
  exact absurd hread (by decide)

end WcmpStaticRouting

end SwarmSim.Wcmp
