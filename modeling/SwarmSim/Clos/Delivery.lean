import SwarmSim.Clos.Indices
import SwarmSim.Clos.Journey

namespace SwarmSim.Clos

open Machine Ns3 Wcmp

namespace TopologyDescriptor

variable {p : TopologyDescriptor} {S : Ipv4StaticRouting} {nodes : Nodes S} {up : Link → Bool}
  {q f j a c pod e k : ℕ} {t : Trip}

/-- A packet is safe that visits no switch twice, leaves by interfaces that are up only, and ends
at its destination or at a switch without a usable uplink. -/
structure Safe (p : TopologyDescriptor) (nodes : Nodes S) (tor : ℕ) (dst : Node) (t : Trip) : Prop where
  once : t.switches.Nodup
  outUp : ∀ hop ∈ t.hops, (nodes hop.1).isUp hop.2 = true
  ends : (t.fate = .delivered ∧ t.last = dst ∧ t.switches.length ≤ 5) ∨
    (t.last.isSwitch = true ∧ t.fate ≠ .delivered ∧ p.uplinks t.last ≠ [] ∧ p.Stuck tor t.last (nodes t.last))

section Ports

variable {tor : ℕ} (h : ∀ v, p.HasNode v → p.Tracks up v (nodes v))

include h

lemma up_server (hv : p.HasNode (.server tor k)) : (nodes (.server tor k)).isUp 1 = true := by
  rw [(h _ hv).isUp, portUp_server]

lemma up_edge_server (hd : p.IsHost pod e k) : (nodes (.edge pod e)).isUp (k + 1) = true := by
  rw [(h (.edge pod e) ⟨hd.1, hd.2.1⟩).isUp, portUp_edge_server hd.2.2]

lemma up_edge_uplink (hq : q < p.numPods) (hf : f < p.h) (ha : a < p.h) :
    (nodes (.edge q f)).isUp (p.numServers + 1 + a) = up (.edgeAgg q f a) := by
  rw [(h (.edge q f) ⟨hq, hf⟩).isUp, portUp_edge_uplink ⟨hq, hf, ha⟩]

lemma up_aggregate_edge (hq : q < p.numPods) (hf : f < p.h) (ha : a < p.h) :
    (nodes (.aggregate q a)).isUp (f + 1) = up (.edgeAgg q f a) := by
  rw [(h (.aggregate q a) ⟨hq, ha⟩).isUp, portUp_aggregate_edge ⟨hq, hf, ha⟩]

lemma up_aggregate_uplink (hq : q < p.numPods) (ha : a < p.h) (hc : c < p.h) :
    (nodes (.aggregate q a)).isUp (p.h + 1 + c) = up (.aggCore q a c) := by
  rw [(h (.aggregate q a) ⟨hq, ha⟩).isUp, portUp_aggregate_uplink ⟨hq, ha, hc⟩]

lemma up_core (hq : q < p.numPods) (ha : a < p.h) (hc : c < p.h) :
    (nodes (.core (c * p.h + a))).isUp (q + 1) = up (.aggCore q a c) := by
  rw [(h (.core (c * p.h + a)) (mul_add_lt hc ha)).isUp, portUp_core ⟨hq, ha, hc⟩]

end Ports

lemma isUp_edge_uplink (h : ∀ v, p.HasNode v → p.Mirrors up v (nodes v)) (hq : q < p.numPods)
    (hf : f < p.h) (ha : a < p.h) :
    (nodes (.edge q f)).isUp (p.numServers + 1 + a) = up (.edgeAgg q f a) :=
  up_edge_uplink (fun v hv => (h v hv).tracks) hq hf ha

lemma isUp_aggregate_uplink (h : ∀ v, p.HasNode v → p.Mirrors up v (nodes v)) (hq : q < p.numPods)
    (ha : a < p.h) (hc : c < p.h) :
    (nodes (.aggregate q a)).isUp (p.h + 1 + c) = up (.aggCore q a c) :=
  up_aggregate_uplink (fun v hv => (h v hv).tracks) hq ha hc

lemma Journey.safe_of_tracks (hs : p.IsHost q f j) (hd : p.IsHost pod e k)
    (h : ∀ v, p.HasNode v → p.Tracks up v (nodes v)) (ht : p.Journey up nodes q f j pod e k t) :
    p.Safe nodes (pod * p.h + e) (.server (pod * p.h + e) k) t := by
  have hserver : (nodes (.server (q * p.h + f) j)).isUp 1 = true :=
    up_server h ⟨mul_add_lt hs.1 hs.2.1, hs.2.2⟩
  have hlast := up_edge_server h hd
  cases ht with
  | sameHost =>
    refine ⟨List.nodup_nil, ?_, Or.inl ⟨rfl, rfl, Nat.zero_le 5⟩⟩
    simp
  | sameEdge =>
    refine ⟨List.nodup_singleton (Node.edge pod e), ?_, Or.inl ⟨rfl, rfl, (by norm_num : 1 ≤ 5)⟩⟩
    simp [hserver, hlast]
  | samePod a hq hfe ha hfrom hto =>
    subst hq
    have h₁ := (up_edge_uplink h hs.1 hs.2.1 ha).trans hfrom
    have h₂ := (up_aggregate_edge h hd.1 hd.2.1 ha).trans hto
    refine ⟨?_, ?_, Or.inl ⟨rfl, rfl, (by norm_num : 3 ≤ 5)⟩⟩
    · change [Node.edge q f, .aggregate q a, .edge q e].Nodup
      simp [hfe]
    · simp [hserver, h₁, h₂, hlast]
  | overCore a c hq ha hc hfrom hup hdown hto =>
    have h₁ := (up_edge_uplink h hs.1 hs.2.1 ha).trans hfrom
    have h₂ := (up_aggregate_uplink h hs.1 ha hc).trans hup
    have h₃ := (up_core h hd.1 ha hc).trans hdown
    have h₄ := (up_aggregate_edge h hd.1 hd.2.1 ha).trans hto
    refine ⟨?_, ?_, Or.inl ⟨rfl, rfl, le_refl 5⟩⟩
    · change [Node.edge q f, .aggregate q a, .core (c * p.h + a), .aggregate pod a, .edge pod e].Nodup
      simp [hq]
    · simp [hserver, h₁, h₂, h₃, h₄, hlast]
  | stuckEdge hne hstuck =>
    refine ⟨List.nodup_singleton (Node.edge q f), ?_, Or.inr ⟨rfl, by simp, ?_, hstuck⟩⟩
    · simp [hserver]
    · exact List.ne_nil_of_mem (mem_uplinks_edge.mpr ⟨f, hs.2.1, rfl⟩)
  | stuckAggregate a hq ha hfrom hto hstuck =>
    have h₁ := (up_edge_uplink h hs.1 hs.2.1 ha).trans hfrom
    refine ⟨?_, ?_, Or.inr ⟨rfl, by simp, ?_, hstuck⟩⟩
    · change [Node.edge q f, .aggregate q a].Nodup
      simp
    · simp [hserver, h₁]
    · exact List.ne_nil_of_mem (mem_uplinks_aggregate.mpr ⟨a, ha, rfl⟩)

lemma Journey.safe (hs : p.IsHost q f j) (hd : p.IsHost pod e k)
    (h : ∀ v, p.HasNode v → p.Mirrors up v (nodes v)) (ht : p.Journey up nodes q f j pod e k t) :
    p.Safe nodes (pod * p.h + e) (.server (pod * p.h + e) k) t :=
  ht.safe_of_tracks hs hd fun v hv => (h v hv).tracks

lemma Journey.stuck_of_no_path (ht : p.Journey up nodes q f j q e k t) (hfe : f ≠ e)
    (hno : ∀ a < p.h, ¬ (up (.edgeAgg q f a) = true ∧ up (.edgeAgg q e a) = true)) :
    t.last = .edge q f ∧ t.fate = .aborted (.abort "!sum") := by
  cases ht with
  | sameHost _ hf => exact (hfe hf).elim
  | sameEdge _ hf => exact (hfe hf).elim
  | samePod a _ _ ha hfrom hto => exact (hno a ha ⟨hfrom, hto⟩).elim
  | overCore a c hq => exact (hq rfl).elim
  | stuckEdge => exact ⟨rfl, rfl⟩
  | stuckAggregate a hq => exact (hq rfl).elim

section Hosts

variable {tor host : ℕ}

lemma isHost_of_hasNode (h : p.HasNode (.server tor host)) :
    p.IsHost (tor / p.h) (tor % p.h) host ∧ tor / p.h * p.h + tor % p.h = tor := by
  have hpos : 0 < p.h := by
    rcases Nat.eq_zero_or_pos p.h with h0 | hpos
    · have := h.1
      rw [h0] at this
      omega
    · exact hpos
  refine ⟨⟨?_, Nat.mod_lt _ hpos, h.2⟩, Nat.div_add_mod' tor p.h⟩
  exact (Nat.div_lt_iff_lt_mul hpos).mpr h.1

end Hosts

section Safety

/-- After every history of link commands on existing links, every packet between two hosts is
safe: it ends at its destination within five switches, or at a switch each of whose uplinks is down
or has weight zero for the destination's ToR. -/
theorem forwarding_safe (S : Ipv4StaticRouting) (systemId : Node → ℕ) (cs : List (Link × Bool))
    (hp : p.Valid) (hcs : ∀ c ∈ cs, p.Names systemId c) :
    ∃ nodes, p.run systemId (p.commands cs) (p.setupClosTopology S) = .ok nodes ∧
      ∀ tor host tor' host', p.HasNode (.server tor host) → p.HasNode (.server tor' host') →
        ∃ dest, getServerAddress (p.setupClosTopology S) tor' host' = some dest ∧
          ∀ hash, p.Safe nodes tor' (.server tor' host') (Nodes.send dest hash (.server tor host) nodes) := by
  refine ⟨_, run_setup S hcs, fun tor host tor' host' hv hv' => ?_⟩
  obtain ⟨hs, hsrc⟩ := isHost_of_hasNode hv
  obtain ⟨hd, hdst⟩ := isHost_of_hasNode hv'
  have hmirrors := fun v (hv : p.HasNode v) => mirrors_after S cs hp (fun c hc => (hcs c hc).1) hv
  refine ⟨_, getServerAddress_setup S hv', fun hash => ?_⟩
  have hsafe := (send_journey hp hs hd hmirrors hash).safe hs hd hmirrors
  rwa [hsrc, hdst] at hsafe

lemma twoPods_valid : twoPods.Valid := ⟨by decide, by decide, by decide, by decide, by decide, by decide⟩

theorem forwarding_safe_one_down :
    let cs : List (Link × Bool) := [(.edgeAgg 0 0 0, false)]
    ∃ nodes, twoPods.run (fun _ => 0) (twoPods.commands cs)
        (twoPods.setupClosTopology listStaticRouting) = .ok nodes ∧
      ∃ dest, getServerAddress (twoPods.setupClosTopology listStaticRouting) 2 0 = some dest ∧
        ∀ hash, twoPods.Safe nodes 2 (.server 2 0) (Nodes.send dest hash (.server 0 0) nodes) := by
  intro cs
  have hl : twoPods.HasLink (.edgeAgg 0 0 0) := ⟨by decide, by decide, by decide⟩
  obtain ⟨nodes, hrun, hsafe⟩ := forwarding_safe listStaticRouting (fun _ => 0) cs twoPods_valid
    (by simp [cs, Names, hl])
  exact ⟨nodes, hrun, hsafe 0 0 2 0 ⟨by decide, by decide⟩ ⟨by decide, by decide⟩⟩

theorem forwarding_stops_between :
    let cs : List (Link × Bool) := [(.edgeAgg 0 0 0, false), (.edgeAgg 0 1 1, false)]
    ∃ nodes, twoPods.run (fun _ => 0) (twoPods.commands cs)
        (twoPods.setupClosTopology listStaticRouting) = .ok nodes ∧
      ∃ dest, getServerAddress (twoPods.setupClosTopology listStaticRouting) 1 0 = some dest ∧
        ∀ hash, (Nodes.send dest hash (.server 0 0) nodes).last = .edge 0 0 ∧
          (Nodes.send dest hash (.server 0 0) nodes).fate = .aborted (.abort "!sum") ∧
          ¬ (∀ i ∈ twoPods.uplinks (.edge 0 0), (nodes (.edge 0 0)).isUp i = false) ∧
          ¬ ∀ i ∈ twoPods.uplinks (.edge 0 0), weightAt i 1 (nodes (.edge 0 0)) = some 0 := by
  intro cs
  have hl : twoPods.HasLink (.edgeAgg 0 0 0) := ⟨by decide, by decide, by decide⟩
  have hl' : twoPods.HasLink (.edgeAgg 0 1 1) := ⟨by decide, by decide, by decide⟩
  have hnames : ∀ c ∈ cs, twoPods.Names (fun _ => 0) c := by simp [cs, Names, hl, hl']
  have hmirrors := fun v (hv : twoPods.HasNode v) =>
    mirrors_after listStaticRouting cs twoPods_valid (fun c hc => (hnames c hc).1) hv
  have hs : twoPods.IsHost 0 0 0 := ⟨by decide, by decide, by decide⟩
  have hd : twoPods.IsHost 0 1 0 := ⟨by decide, by decide, by decide⟩
  have hv : twoPods.HasNode (.server 1 0) := ⟨by decide, by decide⟩
  have hedge : twoPods.HasNode (.edge 0 0) := ⟨by decide, by decide⟩
  refine ⟨_, run_setup listStaticRouting hnames, hostAddress 0 1 0, getServerAddress_setup _ hv,
    fun hash => ?_⟩
  have hno : ∀ a < twoPods.h, ¬ (status cs (.edgeAgg 0 0 a) = true ∧ status cs (.edgeAgg 0 1 a) = true) := by
    decide
  obtain ⟨hlast, hfate⟩ := (send_journey twoPods_valid hs hd hmirrors hash).stuck_of_no_path (by decide) hno
  refine ⟨hlast, hfate, fun hdown => ?_, fun hzero => ?_⟩
  · have hup := isUp_edge_uplink hmirrors hedge.1 hedge.2 (a := 1) (by decide)
    have hi : twoPods.numServers + 1 + 1 ∈ twoPods.uplinks (.edge 0 0) := by decide
    rw [hdown _ hi] at hup
    exact absurd hup (by decide)
  · obtain ⟨w, hw, -, hiff⟩ := (hmirrors _ hedge).weight 2 1 rfl (by decide) (by decide)
    rw [hzero 2 (by decide)] at hw
    obtain ⟨l, howner, hdown⟩ := hiff.mp (Option.some.inj hw).symm
    have hl : l = .edgeAgg 0 1 0 := Option.some.inj (howner.symm.trans (by decide))
    subst hl
    exact absurd hdown (by decide)

end Safety

section Healthy

lemma Mirrors.not_stuck {v : Node} {s : NodeStack S} {i : ℕ} (h : p.Mirrors up v s)
    (hd : p.IsHost pod e k) (hv : v.runsWcmp = true) (hi : i ∈ p.uplinks v) (hup : s.isUp i = true)
    (hl : ∀ l, p.weightOwner v i (pod * p.h + e) = some l → up l = true) :
    ¬ p.Stuck (pod * p.h + e) v s := by
  intro hstuck
  rcases hstuck i hi with hdown | hzero
  · rw [hup] at hdown
    cases hdown
  · obtain ⟨w, hw, -, hiff⟩ := h.weight i _ hv (uplinks_lt hi) (mul_add_lt hd.1 hd.2.1)
    rw [hzero] at hw
    obtain ⟨l, howner, hdown⟩ := hiff.mp (Option.some.inj hw).symm
    rw [hl l howner] at hdown
    cases hdown

lemma edge_not_stuck (h : ∀ v, p.HasNode v → p.Mirrors up v (nodes v)) (hs : p.IsHost q f j)
    (hd : p.IsHost pod e k) (hne : ¬ (q = pod ∧ f = e)) (ha : a < p.h)
    (hfrom : up (.edgeAgg q f a) = true) (hto : up (.edgeAgg pod e a) = true) :
    ¬ p.Stuck (pod * p.h + e) (.edge q f) (nodes (.edge q f)) := by
  apply (h (.edge q f) ⟨hs.1, hs.2.1⟩).not_stuck hd rfl (mem_uplinks_edge.mpr ⟨a, ha, rfl⟩)
  · rw [isUp_edge_uplink h hs.1 hs.2.1 ha, hfrom]
  · intro l hl
    rw [Nat.add_right_comm, weightOwner_edge ⟨hd.1, hd.2.1, ha⟩ hne hs.2.1] at hl
    rw [← Option.some.inj hl, hto]

lemma aggregate_not_stuck (h : ∀ v, p.HasNode v → p.Mirrors up v (nodes v)) (hs : p.IsHost q f j)
    (hd : p.IsHost pod e k) (hne : q ≠ pod) (ha : a < p.h) (hc : c < p.h)
    (hup : up (.aggCore q a c) = true) (hdown : up (.aggCore pod a c) = true) :
    ¬ p.Stuck (pod * p.h + e) (.aggregate q a) (nodes (.aggregate q a)) := by
  apply (h (.aggregate q a) ⟨hs.1, ha⟩).not_stuck hd rfl (mem_uplinks_aggregate.mpr ⟨c, hc, rfl⟩)
  · rw [isUp_aggregate_uplink h hs.1 ha hc, hup]
  · intro l hl
    rw [show p.h + 1 + c = c + p.h + 1 by omega,
      weightOwner_aggregate ⟨hd.1, ha, hc⟩ hne hd.2.1] at hl
    rw [← Option.some.inj hl, hdown]

lemma Journey.healthy (hs : p.IsHost q f j) (hd : p.IsHost pod e k)
    (h : ∀ v, p.HasNode v → p.Mirrors (fun _ => true) v (nodes v))
    (ht : p.Journey (fun _ => true) nodes q f j pod e k t) (hne : ¬ (q = pod ∧ f = e ∧ j = k)) :
    t.fate = .delivered ∧ t.last = .server (pod * p.h + e) k ∧
      (q = pod ∧ f = e → t.switches = [.edge q f]) ∧
      (q = pod → f ≠ e → t.switches.length = 3 ∧ ∀ v ∈ t.switches, v.pod = some q) ∧
      (q ≠ pod → t.switches.length = 5) := by
  have hpos : 0 < p.h := (Nat.zero_le f).trans_lt hs.2.1
  cases ht with
  | sameHost hq hf hj => exact (hne ⟨hq, hf, hj⟩).elim
  | sameEdge hq hf =>
    subst hq hf
    exact ⟨rfl, rfl, fun _ => rfl, fun _ hfe => (hfe rfl).elim, fun hq => (hq rfl).elim⟩
  | samePod a hq hfe =>
    subst hq
    refine ⟨rfl, rfl, fun hedge => (hfe hedge.2).elim, fun _ _ => ⟨rfl, ?_⟩, fun hq => (hq rfl).elim⟩
    change ∀ v ∈ [Node.edge q f, .aggregate q a, .edge q e], v.pod = some q
    simp [Node.pod]
  | overCore a c hq =>
    exact ⟨rfl, rfl, fun hedge => (hq hedge.1).elim, fun hpod => (hq hpod).elim, fun _ => rfl⟩
  | stuckEdge hedge hstuck => exact (edge_not_stuck h hs hd hedge hpos rfl rfl hstuck).elim
  | stuckAggregate a hq ha _ _ hstuck =>
    exact (aggregate_not_stuck h hs hd hq ha hpos rfl rfl hstuck).elim

/-- In the fabric as set up, every packet between two hosts is delivered: through the common ToR,
else through three switches of the common pod, else through five switches. -/
theorem healthy_delivery (S : Ipv4StaticRouting) (hp : p.Valid) (tor host tor' host' : ℕ)
    (hv : p.HasNode (.server tor host)) (hv' : p.HasNode (.server tor' host'))
    (hne : (tor, host) ≠ (tor', host')) :
    ∃ dest, getServerAddress (p.setupClosTopology S) tor' host' = some dest ∧
      ∀ hash, let t := Nodes.send dest hash (.server tor host) (p.setupClosTopology S)
        t.fate = .delivered ∧ t.last = .server tor' host' ∧ t.switches.Nodup ∧
        (tor = tor' → t.switches = [.edge (tor / p.h) (tor % p.h)]) ∧
        (tor ≠ tor' → tor / p.h = tor' / p.h →
          t.switches.length = 3 ∧ ∀ v ∈ t.switches, v.pod = some (tor / p.h)) ∧
        (tor / p.h ≠ tor' / p.h → t.switches.length = 5) := by
  obtain ⟨hs, hsrc⟩ := isHost_of_hasNode hv
  obtain ⟨hd, hdst⟩ := isHost_of_hasNode hv'
  refine ⟨_, getServerAddress_setup S hv', fun hash => ?_⟩
  have hmirrors : ∀ v, p.HasNode v → p.Mirrors (fun _ => true) v (p.setupClosTopology S v) :=
    fun v hv => mirrors_after S [] hp (by simp) hv
  have hjourney := send_journey hp hs hd hmirrors hash
  have hsafe := hjourney.safe hs hd hmirrors
  have hother : ¬ (tor / p.h = tor' / p.h ∧ tor % p.h = tor' % p.h ∧ host = host') := by
    rintro ⟨hdiv, hmod, rfl⟩
    exact hne (by rw [← hsrc, hdiv, hmod, hdst])
  obtain ⟨hfate, hlast, hsame, hpod, hfar⟩ := hjourney.healthy hs hd hmirrors hother
  rw [hsrc] at hfate hlast hsame hpod hfar hsafe
  rw [hdst] at hlast
  refine ⟨hfate, hlast, hsafe.once, ?_, fun htor hdiv => hpod hdiv fun hmod => ?_, hfar⟩
  · rintro rfl
    exact hsame ⟨rfl, rfl⟩
  · exact htor (by rw [← hsrc, hdiv, hmod, hdst])

theorem healthy_delivery_two_pods : ∃ dest,
    getServerAddress (twoPods.setupClosTopology listStaticRouting) 2 0 = some dest ∧
      ∀ hash, (Nodes.send dest hash (.server 0 0)
        (twoPods.setupClosTopology listStaticRouting)).last = .server 2 0 := by
  obtain ⟨dest, hdest, hsend⟩ := healthy_delivery listStaticRouting twoPods_valid 0 0 2 0
    ⟨by decide, by decide⟩ ⟨by decide, by decide⟩ (by decide)
  exact ⟨dest, hdest, fun hash => (hsend hash).2.1⟩

end Healthy

section LossFree

def Survives (p : TopologyDescriptor) (up : Link → Bool) (q f pod e : ℕ) : Prop :=
  if q = pod then f = e ∨ ∃ a < p.h, up (.edgeAgg q f a) = true ∧ up (.edgeAgg pod e a) = true
  else ∃ a < p.h, ∃ c < p.h, up (.edgeAgg q f a) = true ∧ up (.aggCore q a c) = true ∧
    up (.aggCore pod a c) = true ∧ up (.edgeAgg pod e a) = true

def LeadsOn (p : TopologyDescriptor) (up : Link → Bool) (q f pod e : ℕ) : Prop :=
  q = pod ∨ ∀ a < p.h, up (.edgeAgg q f a) = true → up (.edgeAgg pod e a) = true →
    ∃ c < p.h, up (.aggCore q a c) = true ∧ up (.aggCore pod a c) = true

def ArrivesAt (dst : Node) (t : Trip) : Prop := t.fate = .delivered ∧ t.last = dst

lemma Journey.arrives (hs : p.IsHost q f j) (hd : p.IsHost pod e k)
    (h : ∀ v, p.HasNode v → p.Mirrors up v (nodes v)) (ht : p.Journey up nodes q f j pod e k t)
    (hsurvives : p.Survives up q f pod e) (hon : p.LeadsOn up q f pod e) :
    ArrivesAt (.server (pod * p.h + e) k) t := by
  cases ht with
  | sameHost | sameEdge | samePod | overCore => exact ⟨rfl, rfl⟩
  | stuckEdge hne hstuck =>
    rw [Survives] at hsurvives
    split at hsurvives
    · rename_i hq
      obtain ⟨a, ha, hfrom, hto⟩ := hsurvives.resolve_left fun hf => hne ⟨hq, hf⟩
      exact (edge_not_stuck h hs hd hne ha hfrom hto hstuck).elim
    · obtain ⟨a, ha, c, -, hfrom, -, -, hto⟩ := hsurvives
      exact (edge_not_stuck h hs hd hne ha hfrom hto hstuck).elim
  | stuckAggregate a hq ha hfrom hto hstuck =>
    obtain ⟨c, hc, hup, hdown⟩ := hon.resolve_left hq a ha hfrom hto
    exact (aggregate_not_stuck h hs hd hq ha hc hup hdown hstuck).elim

lemma leadsOn_of_arrives (hp : p.Valid) (hs : p.IsHost q f j) (hd : p.IsHost pod e k)
    (h : ∀ v, p.HasNode v → p.Mirrors up v (nodes v))
    (hall : ∀ hash, ArrivesAt (.server (pod * p.h + e) k)
      (Nodes.send (hostAddress pod e k) hash (.server (q * p.h + f) j) nodes)) :
    p.LeadsOn up q f pod e := by
  by_cases hq : q = pod
  · exact Or.inl hq
  · refine Or.inr fun a ha hfrom hto => ?_
    obtain ⟨hash, hhop⟩ := send_hits hp hs hd (fun hsame => hq hsame.1) h ha hfrom hto
    have hjourney := send_journey hp hs hd h hash
    have harrives := (hall hash).1
    generalize Nodes.send (hostAddress pod e k) hash (.server (q * p.h + f) j) nodes = t
      at hhop hjourney harrives
    cases hjourney with
    | sameHost hpod => exact (hq hpod).elim
    | sameEdge hpod => exact (hq hpod).elim
    | samePod _ hpod => exact (hq hpod).elim
    | overCore a' c _ _ hc _ hup hdown =>
      have ha' : a' = a := by
        have hport := (Prod.mk.inj (Option.some.inj hhop)).2
        omega
      subst ha'
      exact ⟨c, hc, hup, hdown⟩
    | stuckEdge => cases harrives
    | stuckAggregate => cases harrives

lemma status_downs (downs : List Link) (l : Link) :
    status (downs.map fun l => (l, false)) l = decide (l ∉ downs) := by
  induction downs using List.reverseRecOn with
  | nil => simp [status]
  | append_singleton downs d ih =>
    rw [List.map_append, List.map_singleton, status_append, ih]
    by_cases h : d = l
    · simp [h]
    · simp [h, Ne.symm h]

/-- After link failures only, between hosts that a path still joins, every packet is delivered
whatever the hash values if and only if each aggregate that the two ToRs both reach leads on. -/
theorem delivered_always_iff (S : Ipv4StaticRouting) (systemId : Node → ℕ) (downs : List Link)
    (hp : p.Valid) (hdowns : ∀ l ∈ downs, p.Names systemId (l, false)) :
    ∃ nodes, p.run systemId (p.commands (downs.map fun l => (l, false))) (p.setupClosTopology S) =
        .ok nodes ∧
      ∀ tor host tor' host', p.HasNode (.server tor host) → p.HasNode (.server tor' host') →
        p.Survives (fun l => l ∉ downs) (tor / p.h) (tor % p.h) (tor' / p.h) (tor' % p.h) →
        ∃ dest, getServerAddress (p.setupClosTopology S) tor' host' = some dest ∧
          ((∀ hash, ArrivesAt (.server tor' host') (Nodes.send dest hash (.server tor host) nodes)) ↔
            p.LeadsOn (fun l => l ∉ downs) (tor / p.h) (tor % p.h) (tor' / p.h) (tor' % p.h)) := by
  have hcs : ∀ c ∈ downs.map fun l => (l, false), p.Names systemId c := by
    intro c hc
    obtain ⟨l, hl, rfl⟩ := List.mem_map.mp hc
    exact hdowns l hl
  refine ⟨_, run_setup S hcs, fun tor host tor' host' hv hv' hsurvives => ?_⟩
  obtain ⟨hs, hsrc⟩ := isHost_of_hasNode hv
  obtain ⟨hd, hdst⟩ := isHost_of_hasNode hv'
  have hup : status (downs.map fun l => (l, false)) = fun l => decide (l ∉ downs) :=
    funext (status_downs downs)
  have hmirrors := fun v (hv : p.HasNode v) =>
    mirrors_after S (downs.map fun l => (l, false)) hp (fun c hc => (hcs c hc).1) hv
  rw [hup] at hmirrors
  refine ⟨_, getServerAddress_setup S hv', fun hall => ?_, fun hon hash => ?_⟩
  · apply leadsOn_of_arrives hp hs hd hmirrors
    rwa [hsrc, hdst]
  · have harrives := (send_journey hp hs hd hmirrors hash).arrives hs hd hmirrors hsurvives hon
    rwa [hsrc, hdst] at harrives

theorem delivered_always_iff_one_core_down :
    let downs : List Link := [.aggCore 0 0 0]
    ∃ nodes, twoPods.run (fun _ => 0) (twoPods.commands (downs.map fun l => (l, false)))
        (twoPods.setupClosTopology listStaticRouting) = .ok nodes ∧
      ∃ dest, getServerAddress (twoPods.setupClosTopology listStaticRouting) 2 0 = some dest ∧
        ∀ hash, ArrivesAt (.server 2 0) (Nodes.send dest hash (.server 0 0) nodes) := by
  intro downs
  have hl : twoPods.HasLink (.aggCore 0 0 0) := ⟨by decide, by decide, by decide⟩
  obtain ⟨nodes, hrun, hiff⟩ := delivered_always_iff listStaticRouting (fun _ => 0) downs
    twoPods_valid (by simp [downs, Names, hl])
  obtain ⟨dest, hdest, hiff⟩ := hiff 0 0 2 0 ⟨by decide, by decide⟩ ⟨by decide, by decide⟩
    (by rw [Survives]; decide)
  refine ⟨nodes, hrun, dest, hdest, hiff.mpr (Or.inr fun a ha _ _ => ⟨1, by decide, ?_⟩)⟩
  have hcases : a = 0 ∨ a = 1 := by
    have htwo : twoPods.h = 2 := rfl
    omega
  rcases hcases with rfl | rfl <;> decide

theorem delivered_not_always :
    let downs : List Link := [.aggCore 0 0 0, .aggCore 0 0 1]
    twoPods.Survives (fun l => l ∉ downs) 0 0 1 0 ∧
    ∃ nodes, twoPods.run (fun _ => 0) (twoPods.commands (downs.map fun l => (l, false)))
        (twoPods.setupClosTopology listStaticRouting) = .ok nodes ∧
      ∃ dest, getServerAddress (twoPods.setupClosTopology listStaticRouting) 2 0 = some dest ∧
        ∃ hash, ¬ ArrivesAt (.server 2 0) (Nodes.send dest hash (.server 0 0) nodes) := by
  intro downs
  have hl : twoPods.HasLink (.aggCore 0 0 0) := ⟨by decide, by decide, by decide⟩
  have hl' : twoPods.HasLink (.aggCore 0 0 1) := ⟨by decide, by decide, by decide⟩
  have hcs : ∀ c ∈ downs.map fun l => (l, false), twoPods.Names (fun _ => 0) c := by
    simp [downs, Names, hl, hl']
  have hv : twoPods.HasNode (.server 2 0) := ⟨by decide, by decide⟩
  have hs : twoPods.IsHost 0 0 0 := ⟨by decide, by decide, by decide⟩
  have hd : twoPods.IsHost 1 0 0 := ⟨by decide, by decide, by decide⟩
  refine ⟨by rw [Survives]; decide, _, run_setup listStaticRouting hcs, _,
    getServerAddress_setup _ hv, not_forall.mp fun hall => ?_⟩
  have hon := leadsOn_of_arrives twoPods_valid hs hd (fun v hv =>
    mirrors_after listStaticRouting (downs.map fun l => (l, false)) twoPods_valid
      (fun c hc => (hcs c hc).1) hv) hall
  obtain ⟨c, hc, hup, -⟩ := hon.resolve_left (by decide) 0 (by decide) (by decide) (by decide)
  have hcases : c = 0 ∨ c = 1 := by
    have htwo : twoPods.h = 2 := rfl
    omega
  rcases hcases with rfl | rfl <;> exact absurd hup (by decide)

end LossFree

end TopologyDescriptor

end SwarmSim.Clos
