import SwarmSim.Clos.LinkEffect
import SwarmSim.Wcmp.Interfaces

namespace SwarmSim.Clos

open Machine Ns3 Wcmp

namespace TopologyDescriptor

variable (p : TopologyDescriptor)

def IsEnd (l : Link) (v : Node) (i : ℕ) : Prop := (v, i) = p.srcEnd l ∨ (v, i) = p.dstEnd l

instance (l : Link) (v : Node) (i : ℕ) : Decidable (p.IsEnd l v i) :=
  inferInstanceAs (Decidable (_ ∨ _))

def Rewrites : Link → Node → ℕ → Prop
  | .edgeAgg pod e a, .edge q f, key => (q < p.numPods ∧ f < p.h ∧ ¬ (q = pod ∧ f = e)) ∧
      key = getLeveledIf ((pod * p.h + e) % 2 ^ 16) (p.numServers + a + 1)
  | .aggCore pod a k, .aggregate q b, key => (q < p.numPods ∧ q ≠ pod ∧ b = a) ∧
      ∃ m < p.h, key = getLeveledIf ((p.h * pod + m) % 2 ^ 16) (k + p.h + 1)
  | _, _, _ => False

def Restores : Link → Node → StaticRoute → Prop
  | .edgeAgg pod _ a, v, r => v = .aggregate pod a ∧ ∃ i < p.h, r = torRoute pod i
  | .aggCore _ a k, v, r => v = .core (k * p.h + a) ∧ ∃ q < p.numPods, r = podRoute q

structure WcmpEffect (l : Link) (up : Bool) (v : Node) (r r' : WcmpStaticRouting) : Prop where
  networkRoutes : r'.networkRoutes = r.networkRoutes
  levelMapper : r'.levelMapper = r.levelMapper
  levels : r'.weights.levels = r.weights.levels
  states (i : ℕ) : (r'.weights.states i).isSome ↔ p.IsEnd l v i ∨ (r.weights.states i).isSome
  isIfUp (i : ℕ) : r'.weights.isIfUp i = if p.IsEnd l v i then up else r.weights.isIfUp i
  written (i level : ℕ) : p.Rewrites l v (getLeveledIf level i) →
    r'.weights.getWeight i level = if up then 1 else 0
  kept (i level : ℕ) : (∀ j, p.IsEnd l v j → (r.weights.states j).isSome) →
    ¬ p.Rewrites l v (getLeveledIf level i) → r'.weights.getWeight i level = r.weights.getWeight i level

variable {p} {S : Ipv4StaticRouting} {l : Link} {up : Bool} {v : Node} {s : NodeStack S} {i j level : ℕ}

lemma isEnd_inj (hi : p.IsEnd l v i) (hj : p.IsEnd l v j) : i = j := by
  have hne := ends_ne p l
  rcases hi with hi | hi <;> rcases hj with hj | hj
  · exact (Prod.mk.inj (hi.trans hj.symm)).2
  · rw [← hi, ← hj] at hne
    exact (hne rfl).elim
  · rw [← hi, ← hj] at hne
    exact (hne rfl).elim
  · exact (Prod.mk.inj (hi.trans hj.symm)).2

lemma setEnds_at (h : p.IsEnd l v i) :
    p.setEnds up l v s = if up then s.setUp i else s.setDown i := by
  have hne := ends_ne p l
  rw [setEnds]
  rcases h with h | h
  · obtain ⟨hv, hi⟩ : v = (p.srcEnd l).1 ∧ i = (p.srcEnd l).2 := Prod.mk.inj h
    simp only [hv, hi, if_true, if_neg hne.symm]
  · obtain ⟨hv, hi⟩ : v = (p.dstEnd l).1 ∧ i = (p.dstEnd l).2 := Prod.mk.inj h
    simp only [hv, hi, if_true, if_neg hne]

lemma setEnds_away (h : ∀ i, ¬ p.IsEnd l v i) : p.setEnds up l v s = s := by
  have hsrc : v ≠ (p.srcEnd l).1 := fun hv => h (p.srcEnd l).2 (Or.inl (Prod.ext hv rfl))
  have hdst : v ≠ (p.dstEnd l).1 := fun hv => h (p.dstEnd l).2 (Or.inr (Prod.ext hv rfl))
  simp only [setEnds, if_neg hsrc, if_neg hdst]

lemma reweigh_frame (weight : ℕ) (l : Link) (v : Node) (s : NodeStack S) :
    (p.reweigh weight l v s).interfaces = s.interfaces ∧ (p.reweigh weight l v s).isUp = s.isUp ∧
      (p.reweigh weight l v s).addresses = s.addresses ∧
      (p.reweigh weight l v s).staticRouting = s.staticRouting := by
  unfold reweigh
  split
  · split <;> exact ⟨rfl, rfl, rfl, rfl⟩
  · split
    · rw [forRange_modifyWcmp]
      exact ⟨rfl, rfl, rfl, rfl⟩
    · exact ⟨rfl, rfl, rfl, rfl⟩
  · exact ⟨rfl, rfl, rfl, rfl⟩

lemma restore_frame (l : Link) (v : Node) (s : NodeStack S) :
    (p.restore l v s).interfaces = s.interfaces ∧ (p.restore l v s).isUp = s.isUp ∧
      (p.restore l v s).addresses = s.addresses ∧ (p.restore l v s).wcmp = s.wcmp := by
  unfold restore
  split
  · split
    · rw [forRange_addStaticRoute]
      exact ⟨rfl, rfl, rfl, rfl⟩
    · exact ⟨rfl, rfl, rfl, rfl⟩
  · split
    · rw [forRange_addStaticRoute]
      exact ⟨rfl, rfl, rfl, rfl⟩
    · exact ⟨rfl, rfl, rfl, rfl⟩

lemma restore_has (l : Link) (v : Node) (s : NodeStack S) (r : StaticRoute) :
    S.Has (p.restore l v s).staticRouting r ↔ p.Restores l v r ∨ S.Has s.staticRouting r := by
  unfold restore
  split
  · split
    · rename_i hv
      rw [forRange_addStaticRoute, has_forRange, Restores]
      simp only [hv, true_and]
    · rename_i hv
      simp only [Restores, hv, false_and, false_or]
  · split
    · rename_i hv
      rw [forRange_addStaticRoute, has_forRange, Restores]
      simp only [hv, true_and]
    · rename_i hv
      simp only [Restores, hv, false_and, false_or]

/-! The components of a node after a command. -/

lemma effect_frame (l : Link) (up : Bool) (v : Node) (s : NodeStack S) :
    (p.effect l up v s).interfaces = s.interfaces ∧ (p.effect l up v s).addresses = s.addresses ∧
      (p.effect l up v s).isUp = (p.setEnds up l v s).isUp ∧
      (p.effect l up v s).wcmp =
        (p.reweigh (if up then 1 else 0) l v (p.setEnds up l v s)).wcmp := by
  have hset : (p.setEnds up l v s).interfaces = s.interfaces ∧
      (p.setEnds up l v s).addresses = s.addresses := by
    by_cases h : ∃ i, p.IsEnd l v i
    · obtain ⟨i, hi⟩ := h
      rw [setEnds_at hi]
      cases up <;> exact ⟨rfl, rfl⟩
    · rw [setEnds_away (not_exists.mp h)]
      exact ⟨rfl, rfl⟩
  obtain ⟨hi, hu, ha, _⟩ := reweigh_frame (p := p) (if up then 1 else 0) l v (p.setEnds up l v s)
  cases up with
  | false => exact ⟨hi.trans hset.1, ha.trans hset.2, hu, rfl⟩
  | true =>
    obtain ⟨hi', hu', ha', hw'⟩ :=
      restore_frame (p := p) l v (p.reweigh 1 l v (p.setEnds true l v s))
    exact ⟨hi'.trans (hi.trans hset.1), ha'.trans (ha.trans hset.2), hu'.trans hu, hw'⟩

lemma effect_isUp (l : Link) (up : Bool) (v : Node) (s : NodeStack S) (i : ℕ) :
    (p.effect l up v s).isUp i = if p.IsEnd l v i then up else s.isUp i := by
  rw [(effect_frame l up v s).2.2.1]
  by_cases h : ∃ j, p.IsEnd l v j
  · obtain ⟨j, hj⟩ := h
    rw [setEnds_at hj]
    by_cases hij : i = j
    · subst hij
      rw [if_pos hj]
      cases up <;> exact Function.update_self _ _ _
    · rw [if_neg fun hi => hij (isEnd_inj hi hj)]
      cases up <;> exact Function.update_of_ne hij _ _
  · rw [setEnds_away (not_exists.mp h), if_neg (not_exists.mp h i)]

lemma effect_has_down (l : Link) (v : Node) (s : NodeStack S) (r : StaticRoute) :
    S.Has (p.effect l false v s).staticRouting r ↔
      S.Has s.staticRouting r ∧ ¬ p.IsEnd l v r.interface := by
  have hstatic : (p.effect l false v s).staticRouting = (p.setEnds false l v s).staticRouting :=
    (reweigh_frame 0 l v (p.setEnds false l v s)).2.2.2
  rw [hstatic]
  by_cases h : ∃ j, p.IsEnd l v j
  · obtain ⟨j, hj⟩ := h
    rw [setEnds_at hj]
    have hiff : p.IsEnd l v r.interface ↔ r.interface = j :=
      ⟨fun hi => isEnd_inj hi hj, fun hi => hi ▸ hj⟩
    rw [hiff]
    exact S.has_down j s.staticRouting r
  · rw [setEnds_away (not_exists.mp h)]
    simp only [not_exists.mp h, not_false_eq_true, and_true]

lemma effect_has_up (l : Link) (v : Node) (s : NodeStack S) (r : StaticRoute) :
    S.Has (p.effect l true v s).staticRouting r ↔ p.Restores l v r ∨ S.Has s.staticRouting r ∨
      ∃ i, p.IsEnd l v i ∧ ∃ a ∈ s.addresses i, a.hasNetwork = true ∧ r = a.connectedRoute i := by
  have hstatic : S.Has (p.effect l true v s).staticRouting r ↔
      p.Restores l v r ∨ S.Has (p.setEnds true l v s).staticRouting r := by
    rw [← (reweigh_frame 1 l v (p.setEnds true l v s)).2.2.2]
    exact restore_has _ _ _ _
  rw [hstatic]
  by_cases h : ∃ j, p.IsEnd l v j
  · obtain ⟨j, hj⟩ := h
    have hiff : ∀ i, p.IsEnd l v i ↔ i = j :=
      fun i => ⟨fun hi => isEnd_inj hi hj, fun hi => hi ▸ hj⟩
    rw [setEnds_at hj]
    simp only [hiff, exists_eq_left]
    exact or_congr Iff.rfl (S.has_up j _ _ r)
  · rw [setEnds_away (not_exists.mp h)]
    simp only [not_exists.mp h, false_and, exists_false, or_false]

section WcmpHalf

variable {r r' : WcmpStaticRouting}

lemma setEnds_wcmp (l : Link) (up : Bool) (v : Node) (h : s.wcmp = some r) :
    ∃ r', (p.setEnds up l v s).wcmp = some r' ∧ r'.networkRoutes = r.networkRoutes ∧
      r'.levelMapper = r.levelMapper ∧ r'.weights.levels = r.weights.levels ∧
      (∀ i, (r'.weights.states i).isSome ↔ p.IsEnd l v i ∨ (r.weights.states i).isSome) ∧
      (∀ i, r'.weights.isIfUp i = if p.IsEnd l v i then up else r.weights.isIfUp i) ∧
      ((∀ j, p.IsEnd l v j → (r.weights.states j).isSome) → ∀ i level,
        r'.weights.getWeight i level = r.weights.getWeight i level) := by
  by_cases hend : ∃ j, p.IsEnd l v j
  · obtain ⟨j, hj⟩ := hend
    have hiff : ∀ i, p.IsEnd l v i ↔ i = j :=
      fun i => ⟨fun hi => isEnd_inj hi hj, fun hi => hi ▸ hj⟩
    rw [setEnds_at hj]
    simp only [hiff]
    cases up with
    | false =>
      refine ⟨r.notifyInterfaceDown j, ?_, rfl, rfl, rfl, ?_, ?_, fun _ _ _ => rfl⟩
      · exact congrArg (Option.map _) h
      · exact notifyInterfaceDown_states r j
      · exact notifyInterfaceDown_isIfUp r j
    | true =>
      refine ⟨r.notifyInterfaceUp j true, ?_, rfl, rfl, ?_, ?_, ?_, fun hreg i level => ?_⟩
      · exact congrArg (Option.map _) h
      · exact notifyInterfaceUp_levels r j true
      · exact fun i => notifyInterfaceUp_states r j i true
      · exact fun i => notifyInterfaceUp_isIfUp r j i true
      · rw [WcmpStaticRouting.notifyInterfaceUp,
          WcmpWeights.addInterface_registered _ _ (hreg j rfl), WcmpWeights.getWeight_setState]
  · have hnone := not_exists.mp hend
    rw [setEnds_away hnone]
    simp only [hnone, false_or, if_false]
    exact ⟨r, h, rfl, rfl, rfl, fun _ => Iff.rfl, fun _ => rfl, fun _ _ _ => rfl⟩

structure Rewritten (K : ℕ → Prop) (weight : ℕ) (r r' : WcmpStaticRouting) : Prop where
  networkRoutes : r'.networkRoutes = r.networkRoutes
  levelMapper : r'.levelMapper = r.levelMapper
  levels : r'.weights.levels = r.weights.levels
  states : r'.weights.states = r.weights.states
  written (i level : ℕ) : K (getLeveledIf level i) → r'.weights.getWeight i level = weight
  kept (i level : ℕ) : ¬ K (getLeveledIf level i) →
    r'.weights.getWeight i level = r.weights.getWeight i level

lemma rewritten_none {K : ℕ → Prop} {weight : ℕ} (hK : ∀ key, ¬ K key) : Rewritten K weight r r :=
  ⟨rfl, rfl, rfl, rfl, fun _ _ h => (hK _ h).elim, fun _ _ _ => rfl⟩

lemma rewritten_setInterfaceWeight (r : WcmpStaticRouting) (j k weight : ℕ) :
    Rewritten (fun key => key = getLeveledIf k j) weight r (r.setInterfaceWeight j k weight) := by
  refine ⟨rfl, rfl, rfl, rfl, fun i level h => ?_, fun i level h => ?_⟩
  · exact (WcmpWeights.getWeight_setWeight _ _ _ _ _ _).trans (if_pos h)
  · exact (WcmpWeights.getWeight_setWeight _ _ _ _ _ _).trans (if_neg h)

lemma Rewritten.mono {K K' : ℕ → Prop} {weight : ℕ} (h : Rewritten K weight r r')
    (hK : ∀ key, K key ↔ K' key) : Rewritten K' weight r r' :=
  ⟨h.networkRoutes, h.levelMapper, h.levels, h.states, fun i level hk => h.written i level ((hK _).mpr hk),
    fun i level hk => h.kept i level fun hk' => hk ((hK _).mp hk')⟩

lemma Rewritten.trans {K K' : ℕ → Prop} {weight : ℕ} {r'' : WcmpStaticRouting}
    (h : Rewritten K weight r r') (h' : Rewritten K' weight r' r'') :
    Rewritten (fun key => K' key ∨ K key) weight r r'' := by
  refine ⟨h'.networkRoutes.trans h.networkRoutes, h'.levelMapper.trans h.levelMapper,
    h'.levels.trans h.levels, h'.states.trans h.states, fun i level hk => ?_, fun i level hk => ?_⟩
  · by_cases hk' : K' (getLeveledIf level i)
    · exact h'.written i level hk'
    · rw [h'.kept i level hk', h.written i level (hk.resolve_left hk')]
  · rw [not_or] at hk
    rw [h'.kept i level hk.1, h.kept i level hk.2]

lemma rewritten_forRange (r : WcmpStaticRouting) (j weight n : ℕ) (k : ℕ → ℕ) :
    Rewritten (fun key => ∃ m < n, key = getLeveledIf (k m) j) weight r
      (forRange (fun m r => r.setInterfaceWeight j (k m) weight) n r) := by
  induction n with
  | zero => exact rewritten_none (by simp)
  | succ n ih =>
    refine (ih.trans (rewritten_setInterfaceWeight _ j (k n) weight)).mono fun key => ?_
    rw [Nat.exists_lt_succ_right, or_comm]

lemma reweigh_wcmp (weight : ℕ) (l : Link) (v : Node) (h : s.wcmp = some r) :
    ∃ r', (p.reweigh weight l v s).wcmp = some r' ∧ Rewritten (p.Rewrites l v) weight r r' := by
  cases l with
  | edgeAgg pod e a =>
    cases v with
    | edge q f =>
      rw [reweigh]
      split
      · rename_i hq
        refine ⟨_, congrArg (Option.map _) h, (rewritten_setInterfaceWeight r _ _ weight).mono ?_⟩
        exact fun key => (and_iff_right hq).symm
      · rename_i hq
        exact ⟨r, h, rewritten_none fun key hk => hq hk.1⟩
    | _ => exact ⟨r, h, rewritten_none fun key hk => hk⟩
  | aggCore pod a k =>
    cases v with
    | aggregate q b =>
      rw [reweigh]
      split
      · rename_i hq
        rw [forRange_modifyWcmp]
        refine ⟨_, congrArg (Option.map _) h, (rewritten_forRange r _ weight _ _).mono ?_⟩
        exact fun key => (and_iff_right hq).symm
      · rename_i hq
        exact ⟨r, h, rewritten_none fun key hk => hq hk.1⟩
    | _ => exact ⟨r, h, rewritten_none fun key hk => hk⟩

lemma effect_wcmp (l : Link) (up : Bool) (v : Node) (h : s.wcmp = some r) :
    ∃ r', (p.effect l up v s).wcmp = some r' ∧ p.WcmpEffect l up v r r' := by
  obtain ⟨r₁, h₁, hroutes, hmapper, hlevels, hstates, hup, hweight⟩ := setEnds_wcmp (p := p) l up v h
  obtain ⟨r', h', hw⟩ := reweigh_wcmp (p := p) (if up then 1 else 0) l v h₁
  refine ⟨r', (effect_frame l up v s).2.2.2.trans h', hw.networkRoutes.trans hroutes,
    hw.levelMapper.trans hmapper, hw.levels.trans hlevels, fun i => ?_, fun i => ?_, hw.written,
    fun i level hreg hk => ?_⟩
  · rw [hw.states]
    exact hstates i
  · rw [WcmpWeights.isIfUp, hw.states]
    exact hup i
  · rw [hw.kept i level hk]
    exact hweight hreg i level

lemma effect_wcmp_isSome (l : Link) (up : Bool) (v : Node) (s : NodeStack S) :
    (p.effect l up v s).wcmp.isSome = s.wcmp.isSome := by
  rw [(effect_frame l up v s).2.2.2, ← setEnds_isSome l up v s]
  unfold reweigh
  split
  · split
    · exact Option.isSome_map
    · rfl
  · split
    · rw [forRange_modifyWcmp]
      exact Option.isSome_map
    · rfl
  · rfl

lemma Shape.effect (h : p.Shape v s) (l : Link) (up : Bool) : p.Shape v (p.effect l up v s) := by
  refine ⟨?_, ?_⟩
  · rw [(effect_frame l up v s).1, h.length]
  · rw [effect_wcmp_isSome, h.runsWcmp]

end WcmpHalf

end TopologyDescriptor

end SwarmSim.Clos
