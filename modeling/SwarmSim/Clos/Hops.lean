import SwarmSim.Clos.Addresses
import SwarmSim.Clos.Forwarding
import SwarmSim.Clos.Tracking
import SwarmSim.Wcmp.Uplinks

namespace SwarmSim.Clos

open Machine Ns3 Wcmp

namespace TopologyDescriptor

variable {p : TopologyDescriptor} {S : Ipv4StaticRouting}

structure Mirrors (p : TopologyDescriptor) (up : Link → Bool) (v : Node) (s : NodeStack S) : Prop where
  tracks : p.Tracks up v s
  weight (i level : ℕ) : v.runsWcmp = true → i < (p.devices v).length → level < p.numPods * p.h →
    ∃ w, weightAt i level s = some w ∧ w ≤ defaultWcmpWeight ∧
      (w = 0 ↔ ∃ l, p.weightOwner v i level = some l ∧ up l = false)

variable {up : Link → Bool} {v : Node} {s : NodeStack S} {q f pod e k : ℕ}

lemma fits_of_valid (hp : p.Valid) : p.Fits := by
  have := hp.podOctet
  have := hp.edgeOctet
  have := hp.hostOctet
  refine ⟨hp.tors, fun v _ => ?_⟩
  rw [devices_length]
  cases v <;> dsimp only <;> omega

theorem mirrors_after (S : Ipv4StaticRouting) (cs : List (Link × Bool)) (hp : p.Valid)
    (hcs : ∀ c ∈ cs, p.HasLink c.1) (hv : p.HasNode v) :
    p.Mirrors (status cs) v (p.after cs v (p.setupClosTopology S v)) := by
  have hf := fits_of_valid hp
  have hfresh := fresh_setup S hf hp.even
  refine ⟨(setup_tracks hv).after hv hcs, fun i level hr hi hlevel => ?_⟩
  rw [weightAt_after hf hv hr (hfresh.ready v hv) hcs (hi.trans (hf.interfaces v hv))
    (hlevel.trans hp.tors), hfresh.weight v i level hv hr hi hlevel]
  cases howner : p.weightOwner v i level with
  | none => exact ⟨defaultWcmpWeight, rfl, le_rfl, by simp [defaultWcmpWeight]⟩
  | some l =>
    simp only [Option.bind_some, Option.some.injEq, exists_eq_left', status_eq_false]
    rcases lastCommanded cs l with _ | _ | _
    · exact ⟨defaultWcmpWeight, rfl, le_rfl, by decide⟩
    · exact ⟨0, rfl, by decide, by decide⟩
    · exact ⟨1, rfl, by decide, by decide⟩

section Static

variable {dest : Ipv4Address} {r : StaticRoute}

lemma address_of_isSwitch (hv : v.isSwitch = true) (i : ℕ) : p.address v i = loopbackAddress := by
  cases v with
  | server => cases hv
  | _ => rfl

lemma Tracks.configured (h : p.Tracks up v s) (hv : v.isSwitch = true)
    (hlo : ∀ i, (loopbackAddress.connectedRoute i).matchesDest dest = false)
    (hr : S.Has s.staticRouting r) (hm : r.matchesDest dest = true) : p.IsRoute v r := by
  rcases h.sound r hr with hroute | ⟨i, rfl⟩
  · exact hroute
  · rw [address_of_isSwitch hv, hlo] at hm
    cases hm

lemma Tracks.lookup_some (h : p.Tracks up v s) (hv : v.isSwitch = true)
    (hlo : ∀ i, (loopbackAddress.connectedRoute i).matchesDest dest = false) (hr : p.IsRoute v r)
    (hup : p.portUp up v r.interface = true) (hm : r.matchesDest dest = true)
    (hu : ∀ r', p.IsRoute v r' → r'.matchesDest dest = true → r'.interface = r.interface) :
    S.lookupStatic dest s.staticRouting = some r.interface :=
  S.lookup_of_unique (h.routes r hr hup) hm fun r' hr' hm' => hu r' (h.configured hv hlo hr' hm') hm'

lemma Tracks.lookup_none (h : p.Tracks up v s) (hv : v.isSwitch = true)
    (hlo : ∀ i, (loopbackAddress.connectedRoute i).matchesDest dest = false)
    (hn : ∀ r, p.IsRoute v r → r.matchesDest dest = false) :
    S.lookupStatic dest s.staticRouting = none := by
  rw [S.lookup_none]
  intro r hr
  rw [← Bool.not_eq_true]
  intro hm
  rw [hn r (h.configured hv hlo hr hm)] at hm
  cases hm

end Static

section Switches

def IsHost (p : TopologyDescriptor) (pod e k : ℕ) : Prop := pod < p.numPods ∧ e < p.h ∧ k < p.numServers

variable {a c : ℕ}

lemma IsHost.octets (hp : p.Valid) (hd : p.IsHost pod e k) : pod < 256 ∧ e < 256 ∧ k < 254 :=
  ⟨hd.1.trans_le hp.podOctet, hd.2.1.trans_le hp.edgeOctet, hd.2.2.trans_le hp.hostOctet⟩

lemma home_edge (hp : p.Valid) (hd : p.IsHost pod e k) (h : p.Tracks up (.edge pod e) s) :
    S.lookupStatic (hostAddress pod e k) s.staticRouting = some (k + 1) := by
  obtain ⟨hpod, he, hk⟩ := hd.octets hp
  have hport : p.portUp up (.edge pod e) (k + 1) = true := by
    have hlink : p.portLink (.edge pod e) (k + 1) = none := by
      rw [portLink, if_neg]
      have := hd.2.2
      omega
    rw [portUp, hlink, devices_length]
    have := hd.2.2
    simp only [Option.all_none, Bool.and_true, decide_eq_true_eq]
    omega
  apply h.lookup_some (r := hostRoute pod e k) rfl (loopback_matches hpod he hk)
    ⟨k, hd.2.2, rfl⟩ hport
  · rw [hostRoute_matches hpod he hk hpod he hk]
    exact ⟨rfl, rfl, rfl⟩
  · rintro r' ⟨i, hi, rfl⟩ hm
    rw [hostRoute_matches hpod he hk hpod he (hi.trans_le hp.hostOctet)] at hm
    rw [hm.2.2]

lemma other_edge (hp : p.Valid) (hd : p.IsHost pod e k) (hv : p.HasNode (.edge q f))
    (hne : ¬ (q = pod ∧ f = e)) (h : p.Tracks up (.edge q f) s) :
    S.lookupStatic (hostAddress pod e k) s.staticRouting = none := by
  obtain ⟨hpod, he, hk⟩ := hd.octets hp
  apply h.lookup_none rfl (loopback_matches hpod he hk)
  rintro r ⟨i, hi, rfl⟩
  rw [← Bool.not_eq_true, hostRoute_matches hpod he hk (hv.1.trans_le hp.podOctet)
    (hv.2.trans_le hp.edgeOctet) (hi.trans_le hp.hostOctet)]
  exact fun hm => hne ⟨hm.1, hm.2.1⟩

lemma portUp_of_isEnd {l : Link} {i : ℕ} (hl : p.HasLink l) (hi : p.IsEnd l v i) :
    p.portUp up v i = up l := by
  obtain ⟨hv, hlt⟩ := isEnd_lt hl hi
  rw [portUp, (portLink_eq_some hv hl).mpr hi, decide_eq_true hlt, Bool.true_and]
  rfl

lemma home_aggregate (hp : p.Valid) (hd : p.IsHost pod e k) (ha : a < p.h)
    (hup : up (.edgeAgg pod e a) = true) (h : p.Tracks up (.aggregate pod a) s) :
    S.lookupStatic (hostAddress pod e k) s.staticRouting = some (e + 1) := by
  obtain ⟨hpod, he, hk⟩ := hd.octets hp
  have hl : p.HasLink (.edgeAgg pod e a) := ⟨hd.1, hd.2.1, ha⟩
  have hport : p.portUp up (.aggregate pod a) (e + 1) = true := by
    rw [portUp_of_isEnd hl (Or.inr rfl), hup]
  apply h.lookup_some (r := torRoute pod e) rfl (loopback_matches hpod he hk)
    ⟨e, hd.2.1, rfl⟩ hport
  · rw [torRoute_matches hpod he hk hpod he]
    exact ⟨rfl, rfl⟩
  · rintro r' ⟨i, hi, rfl⟩ hm
    rw [torRoute_matches hpod he hk hpod (hi.trans_le hp.edgeOctet)] at hm
    rw [hm.2]

lemma other_aggregate (hp : p.Valid) (hd : p.IsHost pod e k) (hv : p.HasNode (.aggregate q a))
    (hne : q ≠ pod) (h : p.Tracks up (.aggregate q a) s) :
    S.lookupStatic (hostAddress pod e k) s.staticRouting = none := by
  obtain ⟨hpod, he, hk⟩ := hd.octets hp
  apply h.lookup_none rfl (loopback_matches hpod he hk)
  rintro r ⟨i, hi, rfl⟩
  rw [← Bool.not_eq_true, torRoute_matches hpod he hk (hv.1.trans_le hp.podOctet)
    (hi.trans_le hp.edgeOctet)]
  exact fun hm => hne hm.1

lemma through_core (hp : p.Valid) (hd : p.IsHost pod e k) (ha : a < p.h) (hc : c < p.h)
    (hup : up (.aggCore pod a c) = true) (h : p.Tracks up (.core (c * p.h + a)) s) :
    S.lookupStatic (hostAddress pod e k) s.staticRouting = some (pod + 1) := by
  obtain ⟨hpod, he, hk⟩ := hd.octets hp
  have hl : p.HasLink (.aggCore pod a c) := ⟨hd.1, ha, hc⟩
  have hport : p.portUp up (.core (c * p.h + a)) (pod + 1) = true := by
    rw [portUp_of_isEnd hl (Or.inr rfl), hup]
  apply h.lookup_some (r := podRoute pod) rfl (loopback_matches hpod he hk)
    ⟨pod, hd.1, rfl⟩ hport
  · rw [podRoute_matches hpod he hk hpod]
  · rintro r' ⟨i, hi, rfl⟩ hm
    rw [podRoute_matches hpod he hk (hi.trans_le hp.podOctet)] at hm
    rw [hm]

lemma from_server {t j : ℕ} (hp : p.Valid) (hd : p.IsHost pod e k) (h : p.Tracks up (.server t j) s) :
    S.lookupStatic (hostAddress pod e k) s.staticRouting = some 1 := by
  obtain ⟨hpod, he, hk⟩ := hd.octets hp
  apply S.lookup_of_unique (r := defaultRoute)
  · apply h.routes _ rfl
    rw [portUp, devices_length]
    rfl
  · rw [StaticRoute.matchesDest, Ipv4Mask.isMatch, defaultRoute]
    simp
  · intro r hr hm
    rcases h.sound r hr with hroute | ⟨i, rfl⟩
    · rw [show r = defaultRoute from hroute]
    · by_cases hi : i = 1
      · rw [hi]
        rfl
      · have haddr : p.address (.server t j) i = loopbackAddress := by
          rw [address]
          rintro _ _ ⟨⟩
          exact hi
        rw [haddr, loopback_matches hpod he hk] at hm
        cases hm

lemma address_server (he : e < p.h) (i : ℕ) :
    p.address (.server (pod * p.h + e) i) 1 = serverNetwork pod e (i + 1) := by
  rw [address, mul_add_div he, mul_add_mod he]

lemma isDestination_server (hd : p.IsHost pod e k)
    (h : p.Tracks up (.server (pod * p.h + e) k) s) :
    s.isDestinationAddress (hostAddress pod e k) = true := by
  rw [NodeStack.isDestinationAddress, List.any_eq_true]
  refine ⟨1, ?_, ?_⟩
  · rw [List.mem_range, h.interfaces, devices_length]
    exact Nat.one_lt_two
  · rw [h.addresses 1 (by rw [devices_length]; exact Nat.one_lt_two), address_server hd.2.1]
    simp [hostAddress]

lemma isDestination_switch (hp : p.Valid) (hd : p.IsHost pod e k) (hv : v.isSwitch = true)
    (h : p.Tracks up v s) : s.isDestinationAddress (hostAddress pod e k) = false := by
  obtain ⟨hpod, he, hk⟩ := hd.octets hp
  have hbroadcast : hostAddress pod e k ≠ loopbackAddress.getBroadcast := by
    have hval : loopbackAddress.getBroadcast.toNat = 0x7fffffff := by decide
    rw [ne_eq, ← BitVec.toNat_inj, hostAddress_toNat hpod he hk, hval]
    omega
  rw [NodeStack.isDestinationAddress, List.any_eq_false]
  intro i hi
  rw [List.mem_range, h.interfaces] at hi
  rw [h.addresses i hi, address_of_isSwitch hv]
  simp [hbroadcast, (hostAddress_ne_loopback hpod he hk).symm]

end Switches

section Decisions

variable {hash iif : ℕ} {dest : Ipv4Address}

lemma routeInput_local (hash iif : ℕ) (h : s.isDestinationAddress dest = true) :
    s.routeInput dest hash iif = (.ok .localDeliver, s) := by
  rw [NodeStack.routeInput, NodeStack.routeInputWith, if_pos h]

lemma routeInput_static {i : ℕ} (hash iif : ℕ) (h : s.isDestinationAddress dest = false)
    (hs : S.lookupStatic dest s.staticRouting = some i) :
    s.routeInput dest hash iif = (.ok (.forward i), s) := by
  rw [NodeStack.routeInput, NodeStack.routeInputWith, h, if_neg Bool.false_ne_true, hs]

lemma routeInput_wcmp {r : WcmpStaticRouting} (h : s.isDestinationAddress dest = false)
    (hs : S.lookupStatic dest s.staticRouting = none) (hr : s.wcmp = some r)
    (hm : dest.isMulticast = false) :
    s.routeInput dest hash iif =
      ((r.lookupWcmp false dest hash iif).1.map fun
          | some route => .forward route.outputInterface
          | none => .unhandled,
        { s with wcmp := some (r.lookupWcmp false dest hash iif).2 }) := by
  rw [NodeStack.routeInput, NodeStack.routeInputWith, h, if_neg Bool.false_ne_true, hs, hr]
  simp only [WcmpStaticRouting.routeInput, hm, Bool.false_eq_true, if_false, Bool.not_true]
  rcases hl : r.lookupWcmp false dest hash iif with ⟨_ | _ | route, r'⟩
  · rfl
  · rfl
  · rfl

lemma isWcmpRoute_lt (hp : p.Valid) {e : Ipv4RoutingTableEntry} {m : ℕ} (h : p.IsWcmpRoute v e m) :
    e.interface < (p.devices v).length := by
  rw [devices_length]
  cases v with
  | edge q f =>
    obtain ⟨a, ha, rfl, -⟩ := h
    simp only [Ipv4RoutingTableEntry.createNetworkRouteTo]
    omega
  | aggregate q b =>
    have heven := Nat.div_mul_cancel hp.even
    rcases h with ⟨a, ha, rfl, -⟩ | ⟨-, a, ha, -, -, rfl⟩
    · simp only [Ipv4RoutingTableEntry.createNetworkRouteTo, TopologyDescriptor.h] at ha ⊢
      omega
    · simp only [Ipv4RoutingTableEntry.createNetworkRouteTo]
      omega
  | core | server => exact h.elim

lemma WcmpTracks.twin {isUp : ℕ → Bool} {r r' : WcmpStaticRouting} (h : p.WcmpTracks v isUp r)
    (ht : r'.Twin r) : p.WcmpTracks v isUp r' := by
  apply h.of_same ht.networkRoutes ht.levelMapper ht.weights.same.levels
  · intro i
    rw [ht.weights.states]
  · intro i
    rw [ht.weights.same.isIfUp, h.isIfUp]

lemma Tracks.twin {r r' : WcmpStaticRouting} (h : p.Tracks up v s) (hr : s.wcmp = some r)
    (ht : r'.Twin r) : p.Tracks up v { s with wcmp := some r' } := by
  refine ⟨h.interfaces, h.isUp, h.addresses, h.connected, h.routes, h.sound, ?_, fun r₁ hr₁ => ?_⟩
  · rw [← h.runsWcmp, hr]
    rfl
  · obtain rfl := Option.some.inj hr₁
    exact (h.wcmp r hr).twin ht

lemma routeInput_twin (hp : p.Valid) {r : WcmpStaticRouting} (h : p.WcmpTracks v s.isUp r) :
    (r.routeInput false false true dest hash iif).2.Twin r := by
  have hrefl : r.Twin r := ⟨rfl, rfl, rfl, .refl _⟩
  have htwin : (r.lookupWcmp false dest hash iif).2.Twin r := by
    apply lookup_twin
    intro _ e he
    obtain ⟨⟨e', m⟩, hin, rfl⟩ := List.mem_map.mp (WcmpStaticRouting.candidates_mem he).1
    rw [h.tracked]
    exact isWcmpRoute_lt hp ((h.routes _ _).mp (WcmpStaticRouting.hasRoute_of_mem hin))
  rw [WcmpStaticRouting.routeInput]
  split
  · exact hrefl
  · simp only [Bool.false_eq_true, if_false, Bool.not_true]
    generalize r.lookupWcmp false dest hash iif = x at htwin ⊢
    rcases x with ⟨_ | _ | route, r'⟩ <;> exact htwin

lemma Tracks.routeInput (hp : p.Valid) (h : p.Tracks up v s) (dest : Ipv4Address)
    (hash iif : ℕ) : p.Tracks up v (s.routeInput dest hash iif).2 := by
  rw [NodeStack.routeInput, NodeStack.routeInputWith]
  split
  · exact h
  · split
    · exact h
    · split
      · exact h
      · rename_i r hr
        exact h.twin hr (routeInput_twin hp (h.wcmp r hr))

lemma weightAt_routeInput (hp : p.Valid) (h : p.Tracks up v s) (dest : Ipv4Address)
    (hash iif i level : ℕ) : weightAt i level (s.routeInput dest hash iif).2 = weightAt i level s := by
  rw [NodeStack.routeInput, NodeStack.routeInputWith]
  split
  · rfl
  · split
    · rfl
    · split
      · rfl
      · rename_i r hr
        have htwin : (r.routeInput false false true dest hash iif).2.Twin r :=
          routeInput_twin hp (h.wcmp r hr)
        rw [weightAt, weightAt, hr, Option.map_some, Option.map_some, htwin.weights.same.getWeight]

def uplinks (p : TopologyDescriptor) : Node → List ℕ
  | .edge _ _ => (List.range p.h).map (p.numServers + 1 + ·)
  | .aggregate _ _ => (List.range p.h).map (p.h + 1 + ·)
  | _ => []

def Stuck (p : TopologyDescriptor) (level : ℕ) (v : Node) (s : NodeStack S) : Prop :=
  ∀ i ∈ p.uplinks v, s.isUp i = false ∨ weightAt i level s = some 0

def Usable (level i : ℕ) (s : NodeStack S) : Prop := s.isUp i = true ∧ weightAt i level s ≠ some 0

/-- No uplink with a weight for the ToR `level` leads to a link of `up` that is down there. -/
structure Guards (p : TopologyDescriptor) (up : Link → Bool) (level : ℕ) (v : Node) (s : NodeStack S) :
    Prop where
  tracks : p.Tracks up v s
  weight (i : ℕ) : i ∈ p.uplinks v → ∀ w ∈ weightAt i level s, w ≤ 2 ^ 16
  owner (i : ℕ) (l : Link) : i ∈ p.uplinks v → weightAt i level s ≠ some 0 →
    p.weightOwner v i level = some l → up l = true

lemma mem_uplinks_edge {i : ℕ} : i ∈ p.uplinks (.edge q f) ↔ ∃ a < p.h, i = p.numServers + 1 + a := by
  simp only [uplinks, List.mem_map, List.mem_range, eq_comm]

lemma mem_uplinks_aggregate {i a : ℕ} :
    i ∈ p.uplinks (.aggregate q a) ↔ ∃ c < p.h, i = p.h + 1 + c := by
  simp only [uplinks, List.mem_map, List.mem_range, eq_comm]

lemma matches_wildcard (dest : Ipv4Address) (i : ℕ) :
    WcmpStaticRouting.Matches dest (.createNetworkRouteTo 0 0 i) := by
  rw [WcmpStaticRouting.Matches, Ipv4Mask.isMatch, Ipv4RoutingTableEntry.createNetworkRouteTo]
  simp

lemma prefixLength_wildcard (i : ℕ) :
    (Ipv4RoutingTableEntry.createNetworkRouteTo 0 0 i).destNetworkMask.getPrefixLength = 0 := by
  have hzero : (0 : Ipv4Mask).getPrefixLength = 0 := by decide
  exact hzero

lemma spreads_edge {isUp : ℕ → Bool} {r : WcmpStaticRouting} (dest : Ipv4Address)
    (h : p.WcmpTracks (.edge q f) isUp r) (hiif : iif ∉ p.uplinks (.edge q f)) :
    r.Spreads dest iif (· ∈ p.uplinks (.edge q f)) := by
  refine ⟨⟨0, 1, by norm_num, fun e m hr _ => ?_⟩, fun e m hr _ => ?_, fun i hi => ?_, hiif⟩
  · obtain ⟨a, -, rfl, rfl⟩ := (h.routes e m).mp hr
    exact ⟨prefixLength_wildcard _, rfl⟩
  · obtain ⟨a, ha, rfl, -⟩ := (h.routes e m).mp hr
    exact mem_uplinks_edge.mpr ⟨a, ha, rfl⟩
  · obtain ⟨a, ha, rfl⟩ := mem_uplinks_edge.mp hi
    exact ⟨_, 1, (h.routes _ 1).mpr ⟨a, ha, rfl, rfl⟩, matches_wildcard dest _, rfl⟩

lemma spreads_aggregate {isUp : ℕ → Bool} {r : WcmpStaticRouting} {a : ℕ} (hp : p.Valid)
    (hd : p.IsHost pod e k) (hv : p.HasNode (.aggregate q a)) (hne : q ≠ pod)
    (h : p.WcmpTracks (.aggregate q a) isUp r) (hiif : iif ∉ p.uplinks (.aggregate q a)) :
    r.Spreads (hostAddress pod e k) iif (· ∈ p.uplinks (.aggregate q a)) := by
  obtain ⟨hpod, he, hk⟩ := hd.octets hp
  have hhalf : p.switchRadix - p.h = p.h := by
    have heven := Nat.div_mul_cancel hp.even
    rw [TopologyDescriptor.h]
    omega
  -- The backup routes are for hosts of the switch's own pod.
  have hwild : ∀ e' m, r.HasRoute e' m → WcmpStaticRouting.Matches (hostAddress pod e k) e' →
      ∃ c < p.h, e' = .createNetworkRouteTo 0 0 (p.h + 1 + c) ∧ m = 1 := by
    intro e' m hr hmatch
    rcases (h.routes e' m).mp hr with ⟨c, hc, he', hm⟩ | ⟨-, c, -, -, -, rfl⟩
    · rw [hhalf] at hc
      exact ⟨c, hc, he', hm⟩
    · exact (hne ((backup_matches hpod he hk (hv.1.trans_le hp.podOctet)).mp hmatch)).elim
  refine ⟨⟨0, 1, by norm_num, fun e' m hr hm => ?_⟩, fun e' m hr hm => ?_, fun i hi => ?_, hiif⟩
  · obtain ⟨c, -, rfl, rfl⟩ := hwild e' m hr hm
    exact ⟨prefixLength_wildcard _, rfl⟩
  · obtain ⟨c, hc, rfl, -⟩ := hwild e' m hr hm
    exact mem_uplinks_aggregate.mpr ⟨c, hc, rfl⟩
  · obtain ⟨c, hc, rfl⟩ := mem_uplinks_aggregate.mp hi
    refine ⟨_, 1, (h.routes _ 1).mpr (Or.inl ⟨c, ?_, rfl, rfl⟩), matches_wildcard _ _, rfl⟩
    rwa [hhalf]

lemma uplinks_lt {i : ℕ} (h : i ∈ p.uplinks v) : i < (p.devices v).length := by
  rw [devices_length]
  cases v with
  | edge q f =>
    obtain ⟨a, ha, rfl⟩ := mem_uplinks_edge.mp h
    dsimp only
    omega
  | aggregate q a =>
    obtain ⟨c, hc, rfl⟩ := mem_uplinks_aggregate.mp h
    dsimp only
    omega
  | core | server => simp [uplinks] at h

lemma Mirrors.guards {level : ℕ} (h : p.Mirrors up v s) (hlevel : level < p.numPods * p.h) :
    p.Guards up level v s := by
  have hruns : ∀ i ∈ p.uplinks v, v.runsWcmp = true := by
    cases v <;> simp [uplinks, Node.runsWcmp]
  refine ⟨h.tracks, fun i hi w hw => ?_, fun i l hi hpos howner => ?_⟩
  · obtain ⟨w', hw', hle, -⟩ := h.weight i level (hruns i hi) (uplinks_lt hi) hlevel
    obtain rfl := Option.some.inj (hw'.symm.trans hw)
    exact hle.trans (by decide)
  · obtain ⟨w, hw, -, hzero⟩ := h.weight i level (hruns i hi) (uplinks_lt hi) hlevel
    rw [← Bool.not_eq_false]
    intro hdown
    rw [hw, hzero.mpr ⟨l, howner, hdown⟩] at hpos
    exact hpos rfl

lemma Guards.routeInput {level : ℕ} (hp : p.Valid) (h : p.Guards up level v s) (dest : Ipv4Address)
    (hash iif : ℕ) : p.Guards up level v (s.routeInput dest hash iif).2 := by
  have hweight := weightAt_routeInput hp h.tracks dest hash iif
  refine ⟨h.tracks.routeInput hp dest hash iif, fun i hi => ?_, fun i l hi => ?_⟩
  · rw [hweight]
    exact h.weight i hi
  · rw [hweight]
    exact h.owner i l hi

section Uplink

variable {r : WcmpStaticRouting}

lemma level_hostAddress (hp : p.Valid) (hd : p.IsHost pod e k)
    (h : r.levelMapper = some p.torLevelMapper) :
    r.level (hostAddress pod e k) = pod * p.h + e := by
  rw [WcmpStaticRouting.level, h]
  obtain ⟨hpod, he, hk⟩ := hd.octets hp
  exact torLevelMapper_hostAddress hp.even hpod he hk ((mul_add_lt hd.1 hd.2.1).trans hp.tors)

lemma WcmpTracks.length_lt {isUp : ℕ → Bool} (hp : p.Valid) (h : p.WcmpTracks v isUp r) {bound : ℕ}
    (hbound : bound ≤ 2 ^ 16) : r.networkRoutes.length * bound < 2 ^ 32 := by
  have hlen := h.length
  have hradix := Nat.div_mul_cancel hp.even
  have hh := hp.edgeOctet
  rw [TopologyDescriptor.h] at hh
  apply (Nat.mul_le_mul_left r.networkRoutes.length hbound).trans_lt
  omega

lemma WcmpTracks.weightAt_eq {isUp : ℕ → Bool} (hp : p.Valid) (hd : p.IsHost pod e k)
    (h : p.WcmpTracks v isUp r) (hr : s.wcmp = some r) (i : ℕ) :
    weightAt i (pod * p.h + e) s =
      some (r.weights.getWeight i (r.level (hostAddress pod e k))) := by
  rw [weightAt, hr, Option.map_some, level_hostAddress hp hd h.levelMapper]

lemma Tracks.spread {U : ℕ → Prop} {bound : ℕ} (hp : p.Valid) (hd : p.IsHost pod e k)
    (h : p.Tracks up v s) (hsw : v.isSwitch = true) (hr : s.wcmp = some r)
    (hs : S.lookupStatic (hostAddress pod e k) s.staticRouting = none)
    (hoffers : r.Offers (hostAddress pod e k) iif U) (hbound : bound ≤ 2 ^ 16)
    (hw : ∀ i, U i → ∀ w ∈ weightAt i (pod * p.h + e) s, w ≤ bound)
    (hne : ∃ i, U i) (hash : ℕ) :
    ((∀ i, U i → s.isUp i = false ∨ weightAt i (pod * p.h + e) s = some 0) ∧
      (s.routeInput (hostAddress pod e k) hash iif).1 = .error (.abort "!sum")) ∨
    ∃ i, U i ∧ s.isUp i = true ∧ weightAt i (pod * p.h + e) s ≠ some 0 ∧
      (s.routeInput (hostAddress pod e k) hash iif).1 = .ok (.forward i) := by
  obtain ⟨hpod, he, hk⟩ := hd.octets hp
  have htracks := h.wcmp r hr
  have hat := htracks.weightAt_eq hp hd hr
  rw [routeInput_wcmp (isDestination_switch hp hd hsw h) hs hr (hostAddress_not_multicast hpod he hk)]
  rcases hoffers.lookup (htracks.length_lt hp hbound) (fun i hi => hw i hi _ (hat i)) hne hash with
    ⟨hstuck, hans⟩ | ⟨en, hin, hup, hpos, hans⟩
  · left
    rw [hans]
    refine ⟨fun i hi => ?_, rfl⟩
    rw [hat, ← htracks.isIfUp]
    exact (hstuck i hi).imp_right (congrArg some)
  · right
    rw [htracks.isIfUp] at hup
    refine ⟨en.getInterface, hin, hup, ?_, by rw [hans]; rfl⟩
    rw [hat, ne_eq, Option.some.injEq]
    exact hpos.ne'

lemma Guards.spread (hp : p.Valid) (hd : p.IsHost pod e k) (h : p.Guards up (pod * p.h + e) v s)
    (hsw : v.isSwitch = true) (hr : s.wcmp = some r)
    (hs : S.lookupStatic (hostAddress pod e k) s.staticRouting = none)
    (hspread : r.Spreads (hostAddress pod e k) iif (· ∈ p.uplinks v)) (hne : ∃ i, i ∈ p.uplinks v)
    (hash : ℕ) :
    (p.Stuck (pod * p.h + e) v s ∧
      (s.routeInput (hostAddress pod e k) hash iif).1 = .error (.abort "!sum")) ∨
    ∃ i ∈ p.uplinks v, Usable (pod * p.h + e) i s ∧
      (s.routeInput (hostAddress pod e k) hash iif).1 = .ok (.forward i) := by
  refine (h.tracks.spread hp hd hsw hr hs hspread.offers le_rfl h.weight hne hash).imp_right ?_
  rintro ⟨i, hi, hup, hpos, hans⟩
  exact ⟨i, hi, ⟨hup, hpos⟩, hans⟩

lemma Guards.spread_hits {i : ℕ} (hp : p.Valid) (hd : p.IsHost pod e k)
    (h : p.Guards up (pod * p.h + e) v s) (hsw : v.isSwitch = true) (hr : s.wcmp = some r)
    (hs : S.lookupStatic (hostAddress pod e k) s.staticRouting = none)
    (hspread : r.Spreads (hostAddress pod e k) iif (· ∈ p.uplinks v)) (hi : i ∈ p.uplinks v)
    (huse : Usable (pod * p.h + e) i s) :
    ∃ hash, (s.routeInput (hostAddress pod e k) hash iif).1 = .ok (.forward i) := by
  obtain ⟨hpod, he, hk⟩ := hd.octets hp
  have htracks := h.tracks.wcmp r hr
  have hat := htracks.weightAt_eq hp hd hr
  obtain ⟨hup, hpos⟩ := huse
  rw [hat, ne_eq, Option.some.injEq, ← ne_eq, ← Nat.pos_iff_ne_zero] at hpos
  rw [← htracks.isIfUp] at hup
  obtain ⟨hash, en, hen, hans⟩ := hspread.offers.lookup_hits (htracks.length_lt hp le_rfl)
    (fun i hi => h.weight i hi _ (hat i)) hi hup hpos
  refine ⟨hash, ?_⟩
  rw [routeInput_wcmp (isDestination_switch hp hd hsw h.tracks) hs hr
    (hostAddress_not_multicast hpod he hk), hans]
  exact congrArg (fun i => Except.ok (Verdict.forward i)) hen

end Uplink

end Decisions

end TopologyDescriptor

end SwarmSim.Clos
