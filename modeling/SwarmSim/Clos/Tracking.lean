import SwarmSim.Clos.WeightMirror

namespace SwarmSim.Clos

open Machine Ns3 Wcmp

namespace TopologyDescriptor

variable {p : TopologyDescriptor} {S : Ipv4StaticRouting} {v : Node} {l : Link} {i : ℕ}
  {up : Link → Bool} {s : NodeStack S} {cs : List (Link × Bool)}

lemma portLink_eq_some (hv : p.HasNode v) (hl : p.HasLink l) :
    p.portLink v i = some l ↔ p.IsEnd l v i := by
  cases l with
  | edgeAgg pod e a =>
    obtain ⟨hpod, he, ha⟩ := hl
    cases v with
    | edge q f =>
      simp only [portLink, IsEnd, srcEnd, dstEnd, Option.ite_none_right_eq_some, Option.some.injEq,
        Link.edgeAgg.injEq, Prod.mk.injEq, Node.edge.injEq, reduceCtorEq, false_and, or_false]
      omega
    | aggregate q b =>
      simp only [portLink, IsEnd, srcEnd, dstEnd, Prod.mk.injEq, Node.aggregate.injEq, reduceCtorEq,
        false_and, false_or]
      split
      · simp only [Option.some.injEq, Link.edgeAgg.injEq]
        omega
      · split
        · simp only [Option.some.injEq, reduceCtorEq, false_iff]
          omega
        · simp only [reduceCtorEq, false_iff]
          omega
    | core c => simp [portLink, IsEnd, srcEnd, dstEnd]
    | server t k => simp [portLink, IsEnd, srcEnd, dstEnd]
  | aggCore pod a k =>
    obtain ⟨hpod, ha, hk⟩ := hl
    cases v with
    | edge q f => simp [portLink, IsEnd, srcEnd, dstEnd]
    | aggregate q b =>
      simp only [portLink, IsEnd, srcEnd, dstEnd, Prod.mk.injEq, Node.aggregate.injEq, reduceCtorEq,
        false_and, or_false]
      split
      · simp only [Option.some.injEq, reduceCtorEq, false_iff]
        omega
      · split
        · simp only [Option.some.injEq, Link.aggCore.injEq]
          omega
        · simp only [reduceCtorEq, false_iff]
          omega
    | core c =>
      have hcore : c % p.h = a ∧ c / p.h = k ↔ c = k * p.h + a := by
        rw [and_comm]
        exact level_eq ha
      simp only [portLink, IsEnd, srcEnd, dstEnd, Option.ite_none_right_eq_some, Option.some.injEq,
        Link.aggCore.injEq, Prod.mk.injEq, Node.core.injEq, reduceCtorEq, false_and, false_or, hcore]
      omega
    | server t k => simp [portLink, IsEnd, srcEnd, dstEnd]

lemma portUp_update (hv : p.HasNode v) (hl : p.HasLink l) (b : Bool) (i : ℕ) :
    p.portUp (Function.update up l b) v i = if p.IsEnd l v i then b else p.portUp up v i := by
  have hport := portLink_eq_some (i := i) hv hl
  rw [portUp, portUp]
  split
  · rename_i hend
    rw [hport.mpr hend]
    simp [(isEnd_lt hl hend).2]
  · rename_i hend
    congr 1
    cases hlink : p.portLink v i with
    | none => rfl
    | some l' =>
      have hne : l' ≠ l := by
        rintro rfl
        exact hend (hport.mp hlink)
      simp [hne]

lemma restores_of_isEnd {r : StaticRoute} (hr : p.IsRoute v r) (h : p.IsEnd l v r.interface) :
    p.Restores l v r := by
  cases l with
  | edgeAgg pod e a =>
    rcases h with h | h <;> obtain ⟨rfl, hi⟩ := Prod.mk.inj h
    · obtain ⟨j, hj, rfl⟩ := hr
      simp only [hostRoute] at hi
      omega
    · exact ⟨rfl, hr⟩
  | aggCore pod a k =>
    rcases h with h | h <;> obtain ⟨rfl, hi⟩ := Prod.mk.inj h
    · obtain ⟨j, hj, rfl⟩ := hr
      simp only [torRoute] at hi
      omega
    · exact ⟨rfl, hr⟩

lemma isRoute_of_restores {r : StaticRoute} (h : p.Restores l v r) : p.IsRoute v r := by
  cases l <;> obtain ⟨rfl, hr⟩ := h <;> exact hr

lemma WcmpTracks.of_same {r r' : WcmpStaticRouting} {isUp isUp' : ℕ → Bool}
    (h : p.WcmpTracks v isUp r) (hroutes : r'.networkRoutes = r.networkRoutes)
    (hmapper : r'.levelMapper = r.levelMapper) (hlevels : r'.weights.levels = r.weights.levels)
    (hstates : ∀ i, (r'.weights.states i).isSome ↔ (r.weights.states i).isSome)
    (hup : ∀ i, r'.weights.isIfUp i = isUp' i) : p.WcmpTracks v isUp' r' := by
  refine ⟨hlevels.trans h.levels, hmapper.trans h.levelMapper, fun i => ?_, hup, fun e m => ?_, ?_⟩
  · rw [hstates, h.tracked]
  · rw [WcmpStaticRouting.HasRoute, hroutes]
    exact h.routes e m
  · rw [hroutes]
    exact h.length

lemma WcmpTracks.or_isEnd {r : WcmpStaticRouting} {isUp : ℕ → Bool} (h : p.WcmpTracks v isUp r)
    (hl : p.HasLink l) (i : ℕ) :
    (p.IsEnd l v i ∨ (r.weights.states i).isSome) ↔ (r.weights.states i).isSome := by
  apply or_iff_right_of_imp
  intro hend
  exact (h.tracked i).mpr (isEnd_lt hl hend).2

lemma WcmpEffect.tracks {r r' : WcmpStaticRouting} {isUp isUp' : ℕ → Bool} {b : Bool}
    (h : p.WcmpEffect l b v r r') (hl : p.HasLink l) (ht : p.WcmpTracks v isUp r)
    (hup : ∀ i, isUp' i = if p.IsEnd l v i then b else isUp i) : p.WcmpTracks v isUp' r' := by
  apply ht.of_same h.networkRoutes h.levelMapper h.levels
  · intro i
    rw [h.states, ht.or_isEnd hl]
  · intro i
    rw [h.isIfUp, ht.isIfUp, hup]

lemma effect_has_of_not_isEnd {r : StaticRoute} (b : Bool) (hend : ¬ p.IsEnd l v r.interface)
    (hr : S.Has s.staticRouting r) : S.Has (p.effect l b v s).staticRouting r := by
  cases b with
  | false => exact (effect_has_down l v s r).mpr ⟨hr, hend⟩
  | true => exact (effect_has_up l v s r).mpr (Or.inr (Or.inl hr))

lemma Tracks.effect_sound (h : p.Tracks up v s) (hl : p.HasLink l) (b : Bool) {r : StaticRoute}
    (hr : S.Has (p.effect l b v s).staticRouting r) :
    p.IsRoute v r ∨ ∃ i, r = (p.address v i).connectedRoute i := by
  cases b with
  | false => exact h.sound r ((effect_has_down l v s r).mp hr).1
  | true =>
    rcases (effect_has_up l v s r).mp hr with hr | hr | ⟨i, hend, a, ha, _, rfl⟩
    · exact Or.inl (isRoute_of_restores hr)
    · exact h.sound r hr
    · rw [h.addresses i (isEnd_lt hl hend).2, List.mem_singleton] at ha
      exact Or.inr ⟨i, by rw [ha]⟩

lemma Tracks.effect_wcmpTracks (h : p.Tracks up v s) (hl : p.HasLink l) (b : Bool)
    {r' : WcmpStaticRouting} (hr' : (p.effect l b v s).wcmp = some r') :
    p.WcmpTracks v (p.effect l b v s).isUp r' := by
  cases hr : s.wcmp with
  | none =>
    have hsome := effect_wcmp_isSome (p := p) l b v s
    rw [hr, hr'] at hsome
    cases hsome
  | some r =>
    obtain ⟨r'', hr'', heffect⟩ := effect_wcmp (p := p) l b v hr
    obtain rfl := Option.some.inj (hr'.symm.trans hr'')
    exact heffect.tracks hl (h.wcmp r hr) (effect_isUp l b v s)

theorem Tracks.effect (h : p.Tracks up v s) (hv : p.HasNode v) (hl : p.HasLink l) (b : Bool) :
    p.Tracks (Function.update up l b) v (p.effect l b v s) := by
  obtain ⟨hinterfaces, haddresses, -, -⟩ := effect_frame (p := p) l b v s
  refine ⟨?_, fun i => ?_, fun i hi => ?_, fun i hi hn => ?_, fun r hr hi => ?_,
    fun r hr => h.effect_sound hl b hr, ?_, fun r' hr' => h.effect_wcmpTracks hl b hr'⟩
  · rw [hinterfaces, h.interfaces]
  · rw [effect_isUp, portUp_update hv hl, h.isUp]
  · rw [haddresses, h.addresses i hi]
  · rw [portUp_update hv hl] at hi
    by_cases hend : p.IsEnd l v i
    · rw [if_pos hend] at hi
      subst hi
      refine (effect_has_up l v s _).mpr (Or.inr (Or.inr ⟨i, hend, p.address v i, ?_, hn, rfl⟩))
      rw [h.addresses i (isEnd_lt hl hend).2]
      exact List.mem_singleton_self _
    · rw [if_neg hend] at hi
      exact effect_has_of_not_isEnd b hend (h.connected i hi hn)
  · rw [portUp_update hv hl] at hi
    by_cases hend : p.IsEnd l v r.interface
    · rw [if_pos hend] at hi
      subst hi
      exact (effect_has_up l v s r).mpr (Or.inl (restores_of_isEnd hr hend))
    · rw [if_neg hend] at hi
      exact effect_has_of_not_isEnd b hend (h.routes r hr hi)
  · rw [effect_wcmp_isSome, h.runsWcmp]

lemma status_snoc (cs : List (Link × Bool)) (c : Link × Bool) :
    status (cs ++ [c]) = Function.update (status cs) c.1 c.2 := by
  rw [status, List.foldl_append]
  rfl

theorem Tracks.after (h : p.Tracks (status []) v s) (hv : p.HasNode v)
    (hcs : ∀ c ∈ cs, p.HasLink c.1) : p.Tracks (status cs) v (p.after cs v s) := by
  induction cs using List.reverseRecOn with
  | nil => exact h
  | append_singleton cs c ih =>
    rw [after_append, status_snoc]
    apply (ih fun c' hc' => hcs c' (List.mem_append_left _ hc')).effect hv
    exact hcs c (List.mem_append_right cs List.mem_cons_self)

lemma run_setup (S : Ipv4StaticRouting) {systemId : Node → ℕ} (hcs : ∀ c ∈ cs, p.Names systemId c) :
    p.run systemId (p.commands cs) (p.setupClosTopology S) =
      .ok fun v => p.after cs v (p.setupClosTopology S v) := by
  apply run_commands _ hcs
  intro v hv
  have htracks := setup_tracks (S := S) hv
  exact ⟨congrArg List.length htracks.interfaces, htracks.runsWcmp⟩

end TopologyDescriptor

end SwarmSim.Clos
