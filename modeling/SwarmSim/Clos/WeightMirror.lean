import SwarmSim.Clos.History
import SwarmSim.Clos.SetupState

/-! Every weight of a switch belongs to at most one link, and mirrors its status. -/

namespace SwarmSim.Clos

open Machine Ns3 Wcmp

namespace TopologyDescriptor

variable (p : TopologyDescriptor) {S : Ipv4StaticRouting}

def weightOwner : Node → ℕ → ℕ → Option Link
  | .edge q f, i, level =>
    if p.numServers < i ∧ i ≤ p.numServers + p.h ∧ level < p.numPods * p.h ∧ level ≠ q * p.h + f then
      some (.edgeAgg (level / p.h) (level % p.h) (i - p.numServers - 1))
    else none
  | .aggregate q a, i, level =>
    if p.h < i ∧ i ≤ p.h + p.h ∧ level < p.numPods * p.h ∧ level / p.h ≠ q then
      some (.aggCore (level / p.h) a (i - p.h - 1))
    else none
  | _, _, _ => none

structure Fits (p : TopologyDescriptor) : Prop where
  tors : p.numPods * p.h < 2 ^ 16
  interfaces (v : Node) : p.HasNode v → (p.devices v).length < 2 ^ 16

variable {p} {v : Node} {l : Link} {i level : ℕ}

lemma level_eq {pod e : ℕ} (he : e < p.h) :
    level / p.h = pod ∧ level % p.h = e ↔ level = pod * p.h + e := by
  constructor
  · rintro ⟨rfl, rfl⟩
    exact (Nat.div_add_mod' _ _).symm
  · rintro rfl
    exact ⟨mul_add_div he, mul_add_mod he⟩

lemma torLevel_lt {pod e : ℕ} (hf : p.Fits) (hpod : pod < p.numPods) (he : e < p.h) :
    pod * p.h + e < p.numPods * p.h ∧ (pod * p.h + e) % 2 ^ 16 = pod * p.h + e := by
  have hlt := mul_add_lt hpod he
  exact ⟨hlt, Nat.mod_eq_of_lt (hlt.trans hf.tors)⟩

lemma rewrites_iff_edge {q f pod e a : ℕ} (hf : p.Fits) (hv : p.HasNode (.edge q f))
    (hl : p.HasLink (.edgeAgg pod e a)) (hi : i < 2 ^ 16) (hlevel : level < 2 ^ 16) :
    p.Rewrites (.edgeAgg pod e a) (.edge q f) (getLeveledIf level i) ↔
      p.weightOwner (.edge q f) i level = some (.edgeAgg pod e a) := by
  obtain ⟨hpod, he, ha⟩ := hl
  obtain ⟨hlt, hmod⟩ := torLevel_lt hf hpod he
  have hlen := hf.interfaces (.edge q f) hv
  simp only [devices_length] at hlen
  have hkey : getLeveledIf level i = getLeveledIf (pod * p.h + e) (p.numServers + a + 1) ↔
      level = pod * p.h + e ∧ i = p.numServers + a + 1 :=
    WcmpWeights.getLeveledIf_inj hi (by omega) hlevel (hlt.trans hf.tors)
  have hself : pod * p.h + e = q * p.h + f ↔ q = pod ∧ f = e := by
    rw [mul_add_inj he hv.2, eq_comm, @eq_comm _ e]
  simp only [Rewrites, hmod, hkey, weightOwner, Option.ite_none_right_eq_some, Option.some.injEq,
    Link.edgeAgg.injEq]
  constructor
  · rintro ⟨⟨-, -, hne⟩, rfl, rfl⟩
    rw [← hself] at hne
    exact ⟨⟨by omega, by omega, hlt, hne⟩, mul_add_div he, mul_add_mod he, by omega⟩
  · rintro ⟨⟨hni, hih, -, hne⟩, hdiv, hmod', hia⟩
    have hlevel' := (level_eq he).mp ⟨hdiv, hmod'⟩
    rw [hlevel', ne_eq, hself] at hne
    exact ⟨⟨hv.1, hv.2, hne⟩, hlevel', by omega⟩

lemma rewrites_iff_aggregate {q b pod a k : ℕ} (hf : p.Fits) (hv : p.HasNode (.aggregate q b))
    (hl : p.HasLink (.aggCore pod a k)) (hi : i < 2 ^ 16) (hlevel : level < 2 ^ 16) :
    p.Rewrites (.aggCore pod a k) (.aggregate q b) (getLeveledIf level i) ↔
      p.weightOwner (.aggregate q b) i level = some (.aggCore pod a k) := by
  obtain ⟨hpod, ha, hk⟩ := hl
  have hlen := hf.interfaces (.aggregate q b) hv
  simp only [devices_length] at hlen
  have hkey : ∀ m, m < p.h → (getLeveledIf level i =
      getLeveledIf ((p.h * pod + m) % 2 ^ 16) (k + p.h + 1) ↔
        level = pod * p.h + m ∧ i = k + p.h + 1) := by
    intro m hm
    obtain ⟨hlt, hmod⟩ := torLevel_lt hf hpod hm
    rw [Nat.mul_comm p.h, hmod]
    exact WcmpWeights.getLeveledIf_inj hi (by omega) hlevel (hlt.trans hf.tors)
  simp only [Rewrites, weightOwner, Option.ite_none_right_eq_some, Option.some.injEq,
    Link.aggCore.injEq]
  constructor
  · rintro ⟨⟨-, hne, rfl⟩, m, hm, hkm⟩
    obtain ⟨rfl, rfl⟩ := (hkey m hm).mp hkm
    rw [mul_add_div hm]
    exact ⟨⟨by omega, by omega, mul_add_lt hpod hm, hne.symm⟩, rfl, rfl, by omega⟩
  · rintro ⟨⟨hhi, hih, -, hne⟩, hdiv, rfl, hik⟩
    have hm : level % p.h < p.h := Nat.mod_lt _ (by omega)
    refine ⟨⟨hv.1, hdiv ▸ hne.symm, rfl⟩, level % p.h, hm, (hkey _ hm).mpr ⟨?_, by omega⟩⟩
    exact (level_eq hm).mp ⟨hdiv, rfl⟩

lemma rewrites_iff (hf : p.Fits) (hv : p.HasNode v) (hl : p.HasLink l) (hi : i < 2 ^ 16)
    (hlevel : level < 2 ^ 16) :
    p.Rewrites l v (getLeveledIf level i) ↔ p.weightOwner v i level = some l := by
  cases l with
  | edgeAgg pod e a =>
    cases v with
    | edge q f => exact rewrites_iff_edge hf hv hl hi hlevel
    | aggregate q b => simp [Rewrites, weightOwner]
    | _ => simp [Rewrites, weightOwner]
  | aggCore pod a k =>
    cases v with
    | aggregate q b => exact rewrites_iff_aggregate hf hv hl hi hlevel
    | edge q f => simp [Rewrites, weightOwner]
    | _ => simp [Rewrites, weightOwner]

section Weights

variable {nodes : Nodes S} {s : NodeStack S} {cs : List (Link × Bool)}

def weightAt (i level : ℕ) (s : NodeStack S) : Option ℕ :=
  s.wcmp.map (·.weights.getWeight i level)

structure Ready (p : TopologyDescriptor) (v : Node) (s : NodeStack S) : Prop where
  interfaces : s.interfaces = p.devices v
  runsWcmp : s.wcmp.isSome = v.runsWcmp
  tracked (r : WcmpStaticRouting) (i : ℕ) : s.wcmp = some r → i < (p.devices v).length →
    (r.weights.states i).isSome

lemma Ready.shape (h : p.Ready v s) : p.Shape v s :=
  ⟨congrArg List.length h.interfaces, h.runsWcmp⟩

lemma isEnd_lt (hl : p.HasLink l) (h : p.IsEnd l v i) : p.HasNode v ∧ i < (p.devices v).length := by
  rcases h with h | h
  · have hmem := srcEnd_mem hl
    rwa [← h] at hmem
  · have hmem := dstEnd_mem hl
    rwa [← h] at hmem

lemma Ready.effect (h : p.Ready v s) (l : Link) (up : Bool) :
    p.Ready v (p.effect l up v s) := by
  refine ⟨(effect_frame l up v s).1.trans h.interfaces, ?_, fun r' i hr' hi => ?_⟩
  · rw [effect_wcmp_isSome, h.runsWcmp]
  · cases hr : s.wcmp with
    | none =>
      have hsome := effect_wcmp_isSome (p := p) l up v s
      rw [hr, hr'] at hsome
      cases hsome
    | some r =>
      obtain ⟨r'', hr'', heffect⟩ := effect_wcmp (p := p) l up v hr
      obtain rfl := Option.some.inj (hr'.symm.trans hr'')
      exact (heffect.states i).mpr (Or.inr (h.tracked r i hr hi))

lemma weightAt_effect (hf : p.Fits) (hv : p.HasNode v) (hr : v.runsWcmp = true) (h : p.Ready v s)
    (hl : p.HasLink l) (up : Bool) (hi : i < 2 ^ 16) (hlevel : level < 2 ^ 16) :
    weightAt i level (p.effect l up v s) =
      if p.weightOwner v i level = some l then some (if up then 1 else 0) else weightAt i level s := by
  have hsome := h.runsWcmp
  rw [hr] at hsome
  obtain ⟨r, hr⟩ := Option.isSome_iff_exists.mp hsome
  obtain ⟨r', hr', heffect⟩ := effect_wcmp (p := p) l up v hr
  rw [weightAt, weightAt, hr, hr', Option.map_some, Option.map_some]
  split
  · rename_i hw
    rw [heffect.written i level ((rewrites_iff hf hv hl hi hlevel).mpr hw)]
  · rename_i hw
    rw [← rewrites_iff hf hv hl hi hlevel] at hw
    rw [heffect.kept i level (fun j hj => h.tracked r j hr (isEnd_lt hl hj).2) hw]

lemma Ready.after (h : p.Ready v s) (cs : List (Link × Bool)) : p.Ready v (p.after cs v s) := by
  induction cs using List.reverseRecOn with
  | nil => exact h
  | append_singleton cs c ih =>
    rw [after_append]
    exact ih.effect c.1 c.2

lemma weightAt_after (hf : p.Fits) (hv : p.HasNode v) (hr : v.runsWcmp = true) (h : p.Ready v s)
    (hcs : ∀ c ∈ cs, p.HasLink c.1) (hi : i < 2 ^ 16) (hlevel : level < 2 ^ 16) :
    weightAt i level (p.after cs v s) =
      ((p.weightOwner v i level).bind (lastCommanded cs)).elim (weightAt i level s)
        fun up => some (if up then 1 else 0) := by
  induction cs using List.reverseRecOn with
  | nil => cases p.weightOwner v i level <;> rfl
  | append_singleton cs c ih =>
    have hc := hcs c (List.mem_append_right cs List.mem_cons_self)
    rw [after_append, weightAt_effect hf hv hr (h.after cs) hc c.2 hi hlevel,
      ih fun c' hc' => hcs c' (List.mem_append_left _ hc')]
    cases howner : p.weightOwner v i level with
    | none => rfl
    | some l =>
      simp only [Option.bind_some, lastCommanded_append, Option.some.injEq, eq_comm (b := c.1)]
      split <;> rfl

structure Fresh (p : TopologyDescriptor) (nodes : Nodes S) : Prop where
  ready (v : Node) : p.HasNode v → p.Ready v (nodes v)
  weight (v : Node) (i level : ℕ) : p.HasNode v → v.runsWcmp = true → i < (p.devices v).length →
    level < p.numPods * p.h → weightAt i level (nodes v) = some defaultWcmpWeight

lemma numLevels_eq (hf : p.Fits) (he : 2 ∣ p.switchRadix) : p.numLevels = p.numPods * p.h := by
  rw [numLevels, Nat.mul_div_assoc _ he, ← TopologyDescriptor.h, Nat.mod_eq_of_lt hf.tors]

lemma fresh_setup (S : Ipv4StaticRouting) (hf : p.Fits) (he : 2 ∣ p.switchRadix) :
    p.Fresh (p.setupClosTopology S) := by
  constructor
  · intro v hv
    have htracks := setup_tracks (S := S) hv
    exact ⟨htracks.interfaces, htracks.runsWcmp,
      fun r i hr hi => ((htracks.wcmp r hr).tracked i).mpr hi⟩
  · intro v i level hv hr hi hlevel
    have htracks := setup_tracks (S := S) hv
    have hlen := (hf.interfaces v hv).le
    have hdefault : p.Defaulted (p.setupClosTopology S v) := by
      cases v with
      | edge q f => exact setup_defaulted_edge hv.1 hv.2 hlen
      | aggregate q a => exact setup_defaulted_aggregate hv.1 hv.2 hlen
      | core | server => cases hr
    have hsome := htracks.runsWcmp
    rw [hr] at hsome
    obtain ⟨r, hr⟩ := Option.isSome_iff_exists.mp hsome
    rw [weightAt, hr, Option.map_some]
    refine congrArg some ((hdefault r hr).weight (hi.trans_le hlen) ?_ ?_)
    · rwa [numLevels_eq hf he]
    · exact ((htracks.wcmp r hr).tracked i).mpr hi

lemma uplink_edge {q f a : ℕ} (hs : s.interfaces = p.devices (.edge q f)) (ha : a < p.h) :
    s.interfaces[i]? = some (some ⟨.edge q f, .aggregate q a⟩) ↔ i = p.numServers + a + 1 := by
  rw [hs, devices_eq_some, remotes_edge]
  constructor
  · rintro ⟨hi, hu⟩
    split at hu
    · cases hu
    · split at hu
      · simp only [Option.some.injEq, Node.aggregate.injEq, true_and] at hu
        omega
      · cases hu
  · rintro rfl
    rw [if_neg (by omega), if_pos (by omega)]
    refine ⟨by omega, ?_⟩
    congr 2
    omega

lemma uplink_aggregate {q a k : ℕ} (hs : s.interfaces = p.devices (.aggregate q a)) (ha : a < p.h)
    (hk : k < p.h) :
    s.interfaces[i]? = some (some ⟨.aggregate q a, .core (k * p.h + a)⟩) ↔ i = k + p.h + 1 := by
  rw [hs, devices_eq_some, remotes_aggregate]
  constructor
  · rintro ⟨hi, hu⟩
    split at hu
    · cases hu
    · split at hu
      · simp only [Option.some.injEq, Node.core.injEq, mul_add_inj ha ha, and_true] at hu
        omega
      · cases hu
  · rintro rfl
    rw [if_neg (by omega), if_pos (by omega)]
    refine ⟨by omega, ?_⟩
    congr 4
    omega

lemma owned_weight_zero {up₀ : ℕ} (o : Option Bool) (h : up₀ ≠ 0) :
    o.elim (some up₀) (fun up => some (if up then 1 else 0)) = some 0 ↔ o = some false := by
  rcases o with _ | _ | _ <;> simp [h]

lemma weightOwner_edge {q f pod e a : ℕ} (hl : p.HasLink (.edgeAgg pod e a))
    (hne : ¬ (q = pod ∧ f = e)) (hf : f < p.h) :
    p.weightOwner (.edge q f) (p.numServers + a + 1) (pod * p.h + e) = some (.edgeAgg pod e a) := by
  obtain ⟨hpod, he, ha⟩ := hl
  have hother : pod * p.h + e ≠ q * p.h + f := by
    rw [ne_eq, mul_add_inj he hf]
    exact fun h => hne ⟨h.1.symm, h.2.symm⟩
  rw [weightOwner, if_pos ⟨by omega, by omega, mul_add_lt hpod he, hother⟩, mul_add_div he,
    mul_add_mod he]
  congr 2
  omega

lemma weightOwner_aggregate {q pod a k e : ℕ} (hl : p.HasLink (.aggCore pod a k)) (hne : q ≠ pod)
    (he : e < p.h) :
    p.weightOwner (.aggregate q a) (k + p.h + 1) (pod * p.h + e) = some (.aggCore pod a k) := by
  obtain ⟨hpod, ha, hk⟩ := hl
  rw [weightOwner, mul_add_div he,
    if_pos ⟨by omega, by omega, mul_add_lt hpod he, hne.symm⟩]
  congr 2
  omega

lemma owned_after (hf : p.Fits) (h : p.Fresh nodes) (hcs : ∀ c ∈ cs, p.HasLink c.1)
    (hv : p.HasNode v) (hr : v.runsWcmp = true) (hi : i < (p.devices v).length)
    (hlevel : level < p.numPods * p.h) (howner : p.weightOwner v i level = some l) :
    weightAt i level (p.after cs v (nodes v)) = some 0 ↔ lastCommanded cs l = some false := by
  rw [weightAt_after hf hv hr (h.ready v hv) hcs (hi.trans (hf.interfaces v hv))
    (hlevel.trans hf.tors), howner, Option.bind_some, h.weight v i level hv hr hi hlevel]
  exact owned_weight_zero _ (by decide)

lemma lastCommanded_swap {c c' : Link × Bool} (h : c.1 ≠ c'.1) (l : Link) :
    lastCommanded [c, c'] l = lastCommanded [c', c] l := by
  have hpair : ∀ c c' : Link × Bool, lastCommanded [c, c'] l =
      if c'.1 = l then some c'.2 else if c.1 = l then some c.2 else none := by
    intro c c'
    exact (lastCommanded_append [c] c' l).trans (by rw [← List.nil_append [c], lastCommanded_append]; rfl)
  rw [hpair, hpair]
  by_cases hc : c.1 = l
  · have hc' : c'.1 ≠ l := fun h' => h (hc.trans h'.symm)
    simp only [if_pos hc, if_neg hc']
  · simp only [if_neg hc]

/-- From default weights on, the weight for an uplink at the level of another edge is zero exactly
when the link that the uplink stands for was last commanded down, no other weight changes, and
commands on different links commute. -/
theorem weights_mirror_links (systemId : Node → ℕ) (cs : List (Link × Bool)) (hf : p.Fits)
    (h : p.Fresh nodes) (hcs : ∀ c ∈ cs, p.Names systemId c) :
    ∃ nodes', p.run systemId (p.commands cs) nodes = .ok nodes' ∧
      (∀ pod e a q f i, p.HasLink (.edgeAgg pod e a) → p.HasNode (.edge q f) →
        ¬ (q = pod ∧ f = e) →
        (nodes (.edge q f)).interfaces[i]? = some (some ⟨.edge q f, .aggregate q a⟩) →
        (weightAt i (pod * p.h + e) (nodes' (.edge q f)) = some 0 ↔
          lastCommanded cs (.edgeAgg pod e a) = some false)) ∧
      (∀ pod a k q e i, p.HasLink (.aggCore pod a k) → p.HasNode (.aggregate q a) → q ≠ pod →
        e < p.h →
        (nodes (.aggregate q a)).interfaces[i]? = some (some ⟨.aggregate q a, .core (k * p.h + a)⟩) →
        (weightAt i (pod * p.h + e) (nodes' (.aggregate q a)) = some 0 ↔
          lastCommanded cs (.aggCore pod a k) = some false)) ∧
      (∀ v i level, p.HasNode v → v.runsWcmp = true → i < 2 ^ 16 → level < 2 ^ 16 →
        p.weightOwner v i level = none → weightAt i level (nodes' v) = weightAt i level (nodes v)) ∧
      ∀ c c', p.Names systemId c → p.Names systemId c' → c.1 ≠ c'.1 → ∃ n₁ n₂,
        p.run systemId (p.commands [c, c']) nodes' = .ok n₁ ∧
        p.run systemId (p.commands [c', c]) nodes' = .ok n₂ ∧
        ∀ v i level, p.HasNode v → v.runsWcmp = true → i < 2 ^ 16 → level < 2 ^ 16 →
          weightAt i level (n₁ v) = weightAt i level (n₂ v) := by
  have hlinks : ∀ c ∈ cs, p.HasLink c.1 := fun c hc => (hcs c hc).1
  have hready : ∀ v, p.HasNode v → p.Ready v (p.after cs v (nodes v)) :=
    fun v hv => (h.ready v hv).after cs
  refine ⟨_, run_commands (fun v hv => (h.ready v hv).shape) hcs, ?_, ?_, ?_, ?_⟩
  · intro pod e a q f i hl hv hne hi
    obtain rfl := (uplink_edge (h.ready _ hv).interfaces hl.2.2).mp hi
    apply owned_after hf h hlinks hv rfl _ (mul_add_lt hl.1 hl.2.1) (weightOwner_edge hl hne hv.2)
    rw [devices_length]
    have := hl.2.2
    dsimp only
    omega
  · intro pod a k q e i hl hv hne he hi
    obtain rfl := (uplink_aggregate (h.ready _ hv).interfaces hl.2.1 hl.2.2).mp hi
    apply owned_after hf h hlinks hv rfl _ (mul_add_lt hl.1 he) (weightOwner_aggregate hl hne he)
    rw [devices_length]
    have := hl.2.2
    dsimp only
    omega
  · intro v i level hv hr hi hlevel howner
    rw [weightAt_after hf hv hr (h.ready v hv) hlinks hi hlevel, howner]
    rfl
  · intro c c' hc hc' hne
    have hshape : ∀ v, p.HasNode v → p.Shape v (p.after cs v (nodes v)) :=
      fun v hv => (hready v hv).shape
    refine ⟨_, _, run_commands hshape ?_, run_commands hshape ?_, ?_⟩
    · simp [hc, hc']
    · simp [hc, hc']
    · intro v i level hv hr hi hlevel
      rw [weightAt_after hf hv hr (hready v hv) (by simp [hc.1, hc'.1]) hi hlevel,
        weightAt_after hf hv hr (hready v hv) (by simp [hc.1, hc'.1]) hi hlevel]
      cases p.weightOwner v i level with
      | none => rfl
      | some l =>
        simp only [Option.bind_some]
        rw [lastCommanded_swap hne]

def twoPods : TopologyDescriptor := ⟨4, 1, 2, true⟩

lemma twoPods_fits : twoPods.Fits := by
  refine ⟨by decide, fun v _ => ?_⟩
  rw [devices_length]
  cases v <;> norm_num [twoPods, TopologyDescriptor.h]

theorem weights_mirror_links_one_down :
    ∃ nodes', twoPods.run (fun _ => 0) (twoPods.commands [(.edgeAgg 0 0 0, false)])
        (twoPods.setupClosTopology listStaticRouting) = .ok nodes' ∧
      weightAt 2 0 (nodes' (.edge 1 0)) = some 0 := by
  have hnode : twoPods.HasNode (.edge 1 0) := ⟨by decide, by decide⟩
  have hlink : twoPods.HasLink (.edgeAgg 0 0 0) := ⟨by decide, by decide, by decide⟩
  have hfresh := fresh_setup listStaticRouting twoPods_fits (by decide)
  obtain ⟨nodes', hrun, hedge, -⟩ := weights_mirror_links (fun _ => 0)
    [(.edgeAgg 0 0 0, false)] twoPods_fits hfresh (by simp [Names, hlink])
  have huplink := (uplink_edge (a := 0) (hfresh.ready _ hnode).interfaces (by decide)).mpr rfl
  exact ⟨nodes', hrun, (hedge 0 0 0 1 0 2 hlink hnode (by decide) huplink).mpr rfl⟩

end Weights

end TopologyDescriptor

end SwarmSim.Clos
