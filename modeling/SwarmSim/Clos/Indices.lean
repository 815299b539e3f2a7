import SwarmSim.Clos.Addresses
import SwarmSim.Clos.Ranks
import SwarmSim.Clos.Tracking
import SwarmSim.Machine.Fold

/-! The numberings that different parts of the program compute for the same things: the interfaces
of links, the ToRs, the hosts and the cores. -/

namespace SwarmSim.Clos

open Machine Ns3 Wcmp

namespace TopologyDescriptor

variable (p : TopologyDescriptor) (S : Ipv4StaticRouting)

def commandIndices : Link → Except Fault LinkInterfaces
  | .edgeAgg pod e a =>
    p.getLinkInterfaceIndices .edge (pod * p.h + e) .aggregate (pod * p.h + a)
  | .aggCore pod a k =>
    p.getLinkInterfaceIndices .aggregate (pod * p.h + a) .core (k * p.h + a)

def installed : Link → Option (NetDevice × NetDevice)
  | .edgeAgg pod e a => p.createLinks.edgeToAggLinks (pod * p.h + e, pod * p.h + a)
  | .aggCore pod a k => p.createLinks.aggToCoreLinks (pod * p.h + a, k * p.h + a)

structure IndicesAgree : Prop where
  hit (l : Link) : p.HasLink l → ∃ x ds, p.commandIndices l = .ok x ∧ p.installed l = some ds ∧
    ds.1.node = x.src ∧ ds.2.node = x.dst ∧ ∀ i,
      ((p.setupClosTopology S x.src).interfaces[i]? = some (some ds.1) ↔ i = x.srcIf) ∧
      ((p.setupClosTopology S x.dst).interfaces[i]? = some (some ds.2) ↔ i = x.dstIf)
  apart (l l' : Link) (x x' : LinkInterfaces) : p.HasLink l → p.HasLink l' → l ≠ l' →
    p.commandIndices l = .ok x → p.commandIndices l' = .ok x' →
    [(x.src, x.srcIf), (x.dst, x.dstIf), (x'.src, x'.srcIf), (x'.dst, x'.dstIf)].Nodup
  cores (c pod : ℕ) : c < p.numCores → pod < p.numPods → ∃ a < p.h,
    (p.setupClosTopology S (.core c)).interfaces[pod + 1]? = some (some ⟨.core c, .aggregate pod a⟩)

section Interfaces

variable {p} {S} {l l' : Link} {c pod : ℕ}

lemma commandIndices_eq (hl : p.HasLink l) : p.commandIndices l =
    .ok ⟨(p.srcEnd l).1, (p.srcEnd l).2, (p.dstEnd l).1, (p.dstEnd l).2⟩ := by
  cases l with
  | edgeAgg pod e a => exact edgeLink_eq hl.1 hl.2.1 hl.2.2
  | aggCore pod a k => exact coreLink_eq hl.1 hl.2.1 hl.2.2

lemma installed_eq (hl : p.HasLink l) :
    p.installed l = some (pointToPoint (p.srcEnd l).1 (p.dstEnd l).1) := by
  cases l with
  | edgeAgg pod e a => exact edgeToAggLinks_eq hl.1 hl.2.1 hl.2.2
  | aggCore pod a k => exact aggToCoreLinks_eq hl.1 hl.2.1 hl.2.2

lemma srcEnd_device (hl : p.HasLink l) (i : ℕ) :
    (p.devices (p.srcEnd l).1)[i]? = some (some ⟨(p.srcEnd l).1, (p.dstEnd l).1⟩) ↔
      i = (p.srcEnd l).2 := by
  cases l with
  | edgeAgg pod e a =>
    obtain ⟨-, -, ha⟩ := hl
    simp only [srcEnd, dstEnd, devices_eq_some, remotes_edge]
    split_ifs
    · simp only [Option.some.injEq, reduceCtorEq, and_false, false_iff]
      omega
    · simp only [Option.some.injEq, Node.aggregate.injEq, true_and]
      omega
    · simp only [and_false, false_iff]
      omega
  | aggCore pod a k =>
    obtain ⟨-, ha, hk⟩ := hl
    simp only [srcEnd, dstEnd, devices_eq_some, remotes_aggregate]
    split_ifs
    · simp only [Option.some.injEq, reduceCtorEq, and_false, false_iff]
      omega
    · simp only [Option.some.injEq, Node.core.injEq, mul_add_inj ha ha, and_true]
      omega
    · simp only [and_false, false_iff]
      omega

lemma dstEnd_device (hl : p.HasLink l) (i : ℕ) :
    (p.devices (p.dstEnd l).1)[i]? = some (some ⟨(p.dstEnd l).1, (p.srcEnd l).1⟩) ↔
      i = (p.dstEnd l).2 := by
  cases l with
  | edgeAgg pod e a =>
    obtain ⟨-, he, -⟩ := hl
    simp only [srcEnd, dstEnd, devices_eq_some, remotes_aggregate]
    split_ifs
    · simp only [Option.some.injEq, Node.edge.injEq, true_and]
      omega
    · simp only [Option.some.injEq, reduceCtorEq, and_false, false_iff]
      omega
    · simp only [and_false, false_iff]
      omega
  | aggCore pod a k =>
    obtain ⟨hpod, ha, -⟩ := hl
    simp only [srcEnd, dstEnd, devices_eq_some, remotes_core, mul_add_mod ha]
    split_ifs
    · simp only [Option.some.injEq, Node.aggregate.injEq, and_true]
      omega
    · simp only [and_false, false_iff]
      omega

lemma ends_disjoint (hl : p.HasLink l) (hl' : p.HasLink l') (hne : l ≠ l') {v : Node} {i : ℕ}
    (h : p.IsEnd l v i) : ¬p.IsEnd l' v i := by
  intro h'
  have hv : p.HasNode v := by
    rcases h with h | h
    · exact (Prod.mk.inj h).1 ▸ (srcEnd_mem hl).1
    · exact (Prod.mk.inj h).1 ▸ (dstEnd_mem hl).1
  have hport := (portLink_eq_some hv hl).mpr h
  rw [(portLink_eq_some hv hl').mpr h'] at hport
  exact hne (Option.some.inj hport).symm

lemma commandIndices_nodup (hl : p.HasLink l) (hl' : p.HasLink l') (hne : l ≠ l') :
    [p.srcEnd l, p.dstEnd l, p.srcEnd l', p.dstEnd l'].Nodup := by
  have hends : ∀ l, p.srcEnd l ≠ p.dstEnd l := fun l he => ends_ne p l (congrArg Prod.fst he).symm
  have hsrc : ∀ l, p.IsEnd l (p.srcEnd l).1 (p.srcEnd l).2 := fun l => Or.inl rfl
  have hdst : ∀ l, p.IsEnd l (p.dstEnd l).1 (p.dstEnd l).2 := fun l => Or.inr rfl
  have hss : p.srcEnd l ≠ p.srcEnd l' := fun he => ends_disjoint hl hl' hne (hsrc l) (he ▸ hsrc l')
  have hsd : p.srcEnd l ≠ p.dstEnd l' := fun he => ends_disjoint hl hl' hne (hsrc l) (he ▸ hdst l')
  have hds : p.dstEnd l ≠ p.srcEnd l' := fun he => ends_disjoint hl hl' hne (hdst l) (he ▸ hsrc l')
  have hdd : p.dstEnd l ≠ p.dstEnd l' := fun he => ends_disjoint hl hl' hne (hdst l) (he ▸ hdst l')
  simp [hends, hss, hsd, hds, hdd]

lemma numCores_le_iff : p.numCores ≤ p.h * p.h ↔ 2 ∣ p.switchRadix ∨ p.switchRadix = 1 := by
  have hr := Nat.div_add_mod p.switchRadix 2
  rw [← TopologyDescriptor.h] at hr
  have hcores : p.numCores = (2 * p.h + p.switchRadix % 2) * (2 * p.h + p.switchRadix % 2) / 4 := by
    rw [hr, numCores]
  rcases Nat.mod_two_eq_zero_or_one p.switchRadix with hmod | hmod
  · refine iff_of_true ?_ (Or.inl (Nat.dvd_of_mod_eq_zero hmod))
    rw [hcores, hmod, Nat.add_zero]
    have hsq : 2 * p.h * (2 * p.h) = 4 * (p.h * p.h) := by ring
    rw [hsq, Nat.mul_div_cancel_left _ (by norm_num)]
  · have hodd : p.numCores = p.h * p.h + p.h := by
      rw [hcores, hmod]
      have hsq : (2 * p.h + 1) * (2 * p.h + 1) = 4 * (p.h * p.h + p.h) + 1 := by ring
      rw [hsq]
      omega
    rw [hodd]
    omega

lemma setup_core_unlinked (hc : c < p.numCores) (hge : p.h * p.h ≤ c) :
    (p.setupClosTopology S (.core c)).interfaces = [none] := by
  have hnone : ∀ i < p.h, ∀ agg < p.h, c ≠ i * p.h + agg := by
    intro i hi agg ha he
    exact absurd (he ▸ mul_add_lt hi ha) (not_lt.mpr hge)
  rw [setupClosTopology_base (by simp), ecmpEdges_apply]
  simp only [reduceCtorEq, if_false, forRange_id]
  rw [setupCoreRouting_core hc, forRange_addStaticRoute, setupServerRouting_apply]
  simp only [reduceCtorEq, if_false, forRange_id]
  rw [createFabricInterfaces, aggCoreInterfaces_apply, aggEdgeInterfaces_apply,
    edgeServerInterfaces_apply, assignServerIps_switch (by simp)]
  simp only [reduceCtorEq, if_false, forRange_id]
  refine forRange_preserves (P := fun s : NodeStack S => s.interfaces = [none]) rfl ?_
  intro pod s _ hs
  refine forRange_preserves (P := fun s : NodeStack S => s.interfaces = [none]) hs ?_
  intro agg s ha hs
  refine forRange_preserves (P := fun s : NodeStack S => s.interfaces = [none]) hs ?_
  intro i s hi hs
  rwa [if_neg fun he => hnone i hi agg ha (Node.core.inj he)]

lemma setup_core_linked (hc : c < p.h * p.h) (hpod : pod < p.numPods) : ∃ a < p.h,
    (p.setupClosTopology S (.core c)).interfaces[pod + 1]? =
      some (some ⟨.core c, .aggregate pod a⟩) := by
  have hpos : 0 < p.h := Nat.pos_of_ne_zero fun h0 => by simp [h0] at hc
  refine ⟨c % p.h, Nat.mod_lt _ hpos, ?_⟩
  rw [(setup_tracks (p := p) (v := .core c) hc).interfaces, devices_eq_some, remotes_core]
  exact ⟨Nat.succ_pos _, if_pos hpod⟩

lemma cores_disagree (hcores : p.h * p.h < p.numCores) (hpods : p.numPods ≠ 0) :
    ¬p.IndicesAgree S := by
  intro h
  obtain ⟨a, -, hcore⟩ := h.cores (p.h * p.h) 0 hcores (Nat.pos_of_ne_zero hpods)
  rw [setup_core_unlinked hcores le_rfl] at hcore
  cases hcore

/-- Commands hit the links they name for every topology. Every core leads to every pod unless the
radix is odd, which makes cores that get no link. -/
theorem indices_agree_iff (p : TopologyDescriptor) (S : Ipv4StaticRouting) : p.IndicesAgree S ↔
    p.numPods = 0 ∨ 2 ∣ p.switchRadix ∨ p.switchRadix = 1 := by
  rw [← numCores_le_iff]
  constructor
  · intro h
    by_contra hneg
    obtain ⟨hpods, hcores⟩ := not_or.mp hneg
    exact cores_disagree (not_le.mp hcores) hpods h
  · intro hcond
    refine ⟨fun l hl => ?_, fun l l' x x' hl hl' hne hx hx' => ?_, fun c pod hc hpod => ?_⟩
    · refine ⟨_, _, commandIndices_eq hl, installed_eq hl, rfl, rfl, fun i => ⟨?_, ?_⟩⟩
      · rw [(setup_tracks (srcEnd_mem hl).1).interfaces]
        exact srcEnd_device hl i
      · rw [(setup_tracks (dstEnd_mem hl).1).interfaces]
        exact dstEnd_device hl i
    · rw [commandIndices_eq hl] at hx
      rw [commandIndices_eq hl'] at hx'
      obtain rfl := Except.ok.inj hx
      obtain rfl := Except.ok.inj hx'
      exact commandIndices_nodup hl hl' hne
    · rcases hcond with hnone | hcores
      · omega
      · exact setup_core_linked (hc.trans_le hcores) hpod

def threePorts : TopologyDescriptor := ⟨3, 1, 1, false⟩

theorem core_unlinked_threePorts : 1 < threePorts.numCores ∧
    (threePorts.setupClosTopology listStaticRouting (.core 1)).interfaces = [none] ∧
    ¬threePorts.IndicesAgree listStaticRouting :=
  ⟨by decide, setup_core_unlinked (by decide) (by decide), cores_disagree (by decide) (by decide)⟩

end Interfaces

section Formulas

def totalNumberOfServers : ℕ := p.numPods * p.switchRadix * p.numServers / 2

/-- The bound of the loop of `installTcpPacketSinks`. -/
def tcpPacketSinks : ℕ := p.numPods * p.numServers * p.switchRadix / 2

/-- What start-up accepts, with addresses that fit their octets. -/
structure StartsUp : Prop where
  radix : 2 ≤ p.switchRadix
  pods : p.numPods ≤ p.switchRadix
  servers : 1 ≤ p.numServers
  podOctet : p.numPods ≤ 256
  edgeOctet : p.h ≤ 256
  hostOctet : p.numServers ≤ 254

def created (s : Servers) : ℕ :=
  ((List.range (p.numPods * p.h)).map fun tor => (s.servers tor).elim 0 Prod.fst).sum

structure FormulasAgree (s : Servers) : Prop where
  levels (pod e k : ℕ) : pod < p.numPods → e < p.h → k < p.numServers → ∃ a,
    getServerAddress (p.setupClosTopology S) (pod * p.h + e) k = some a ∧
      p.torLevelMapper a = pod * p.h + e ∧ (s.servers (p.torLevelMapper a)).isSome ∧
      p.getEdge (p.torLevelMapper a) = .ok (.edge pod e)
  hosts (k : ℕ) : (s.portMap k).isSome ↔ k < p.created s
  total : p.totalNumberOfServers = p.created s
  sinks : p.tcpPacketSinks = p.created s
  cores (c pod : ℕ) : c < p.numCores → pod < p.numPods → ∃ a < p.h,
    p.createLinks.aggToCoreLinks (pod * p.h + a, c) = some (pointToPoint (.aggregate pod a) (.core c))

variable {p} {S} {s : Servers} {tor host podProcs step : ℕ}

lemma getServerAddress_setup (S : Ipv4StaticRouting) (h : p.HasNode (.server tor host)) :
    getServerAddress (p.setupClosTopology S) tor host =
      some (hostAddress (tor / p.h) (tor % p.h) host) := by
  rw [getServerAddress, (setup_tracks h).addresses 1 (by rw [devices_length]; exact Nat.one_lt_two)]
  rfl

lemma created_eq (h : p.CreatedUpto step (p.numPods * p.h) s) :
    p.created s = p.numPods * p.h * p.numServers := by
  have hmap : ((List.range (p.numPods * p.h)).map fun tor => (s.servers tor).elim 0 Prod.fst) =
      (List.range (p.numPods * p.h)).map fun _ => p.numServers := by
    refine List.map_congr_left fun tor htor => ?_
    rw [h.servers, if_pos (List.mem_range.mp htor)]
    rfl
  rw [created, hmap, List.map_const', List.sum_replicate, List.length_range, smul_eq_mul]

lemma createServers_upto (h : p.createServers podProcs = .ok s) :
    ∃ step, p.CreatedUpto step (p.numPods * p.h) s := by
  obtain ⟨step, -, rfl⟩ := map_ok h
  exact ⟨step, createServersWith_upto⟩

lemma aggToCoreLinks_none {a c : ℕ} (hc : p.h * p.h ≤ c) : p.createLinks.aggToCoreLinks (a, c) = none := by
  rw [createLinks, (connectServers_frame _).2]
  apply nested_preserves (P := fun ls : Links => ls.aggToCoreLinks (a, c) = none)
  · exact nested_preserves (P := fun ls : Links => ls.aggToCoreLinks (a, c) = none) rfl
      fun _ _ _ _ _ _ _ hls => hls
  · intro pod i j ls _ hi hj hls
    have hne : (a, c) ≠ (pod * p.h + i, i + p.h * j) := by
      intro he
      have hlt := mul_add_lt hj hi
      have hsnd : c = i + p.h * j := (Prod.mk.inj he).2
      rw [Nat.mul_comm] at hlt
      omega
    simp only [Links.setAggToCore, Function.update_of_ne hne, hls]

lemma cores_unlinked (hcores : p.h * p.h < p.numCores) (hpods : p.numPods ≠ 0) :
    ¬p.FormulasAgree S s := by
  intro h
  obtain ⟨a, -, hlink⟩ := h.cores (p.h * p.h) 0 hcores (Nat.pos_of_ne_zero hpods)
  rw [aggToCoreLinks_none le_rfl] at hlink
  cases hlink

lemma formulas_of_even (hp : p.StartsUp) (hs : p.createServers podProcs = .ok s)
    (heven : 2 ∣ p.switchRadix) : p.FormulasAgree S s := by
  obtain ⟨step, hupto⟩ := createServers_upto hs
  have hcreated := created_eq hupto
  obtain ⟨r, hr⟩ := heven
  have hh : p.h = r := by
    rw [TopologyDescriptor.h, hr, Nat.mul_div_cancel_left r (by norm_num)]
  refine ⟨fun pod e k hpod he hk => ?_, fun k => ?_, ?_, ?_, fun c pod hc hpod => ?_⟩
  · have hlt := mul_add_lt hpod he
    have hmax : p.numPods * p.h ≤ 256 * 256 := Nat.mul_le_mul hp.podOctet hp.edgeOctet
    have hhost := hp.hostOctet
    have hlevel : p.torLevelMapper (hostAddress pod e k) = pod * p.h + e :=
      torLevelMapper_hostAddress ⟨r, hr⟩ (hpod.trans_le hp.podOctet) (he.trans_le hp.edgeOctet)
        (by omega) (by omega)
    refine ⟨hostAddress pod e k, ?_, hlevel, ?_, ?_⟩
    · rw [getServerAddress_setup S ⟨hlt, hk⟩, mul_add_div he, mul_add_mod he]
    · rw [hlevel, hupto.servers, if_pos hlt]
      rfl
    · rw [hlevel, getEdge_eq hpod he]
  · rw [hcreated, hupto.portMap k (Or.inl ⟨r, hr⟩)]
  · rw [hcreated, totalNumberOfServers, hr, hh]
    have hmul : p.numPods * (2 * r) * p.numServers = 2 * (p.numPods * r * p.numServers) := by ring
    rw [hmul, Nat.mul_div_cancel_left _ (by norm_num)]
  · rw [hcreated, tcpPacketSinks, hr, hh]
    have hmul : p.numPods * p.numServers * (2 * r) = 2 * (p.numPods * r * p.numServers) := by ring
    rw [hmul, Nat.mul_div_cancel_left _ (by norm_num)]
  · have hlt : c < p.h * p.h := hc.trans_le (numCores_le_iff.mpr (Or.inl ⟨r, hr⟩))
    have hpos : 0 < p.h := Nat.pos_of_ne_zero fun h0 => by simp [h0] at hlt
    refine ⟨c % p.h, Nat.mod_lt _ hpos, ?_⟩
    have hlink := aggToCoreLinks_eq hpod (Nat.mod_lt c hpos) (Nat.div_lt_of_lt_mul hlt)
    rwa [Nat.div_add_mod'] at hlink

lemma formulas_of_no_pods (hs : p.createServers podProcs = .ok s) (hpods : p.numPods = 0) :
    p.FormulasAgree S s := by
  obtain ⟨step, hupto⟩ := createServers_upto hs
  have hcreated := created_eq hupto
  have hnone : p.created s = 0 := by rw [hcreated, hpods, Nat.zero_mul, Nat.zero_mul]
  refine ⟨fun pod e k hpod => ?_, fun k => ?_, ?_, ?_, fun c pod _ hpod => ?_⟩
  · omega
  · rw [hcreated, hupto.portMap k (Or.inr (by rw [hpods, Nat.zero_mul]))]
  · rw [hnone, totalNumberOfServers, hpods, Nat.zero_mul, Nat.zero_mul]
  · rw [hnone, tcpPacketSinks, hpods, Nat.zero_mul, Nat.zero_mul]
  · omega

/-- The formulas agree for even radices, and for no odd one as soon as there is a pod. -/
theorem formulas_agree_iff (hp : p.StartsUp) (hs : p.createServers podProcs = .ok s) :
    p.FormulasAgree S s ↔ 2 ∣ p.switchRadix ∨ p.numPods = 0 := by
  constructor
  · intro h
    by_contra hneg
    obtain ⟨hodd, hpods⟩ := not_or.mp hneg
    have hcores : ¬p.numCores ≤ p.h * p.h := by
      rw [numCores_le_iff]
      have hradix := hp.radix
      omega
    exact cores_unlinked (not_le.mp hcores) hpods h
  · rintro (heven | hpods)
    · exact formulas_of_even hp hs heven
    · exact formulas_of_no_pods hs hpods

theorem formulas_agree_four : ∃ s, fourPods.createServers 2 = .ok s ∧
    fourPods.FormulasAgree listStaticRouting s := by
  have hp : fourPods.StartsUp :=
    ⟨by decide, by decide, by decide, by decide, by decide, by decide⟩
  have hs : fourPods.createServers 2 = .ok (fourPods.createServersWith 4) := rfl
  exact ⟨_, hs, (formulas_agree_iff hp hs).mpr (by decide)⟩

theorem formulas_threePorts : threePorts.StartsUp ∧ ∃ s, threePorts.createServers 1 = .ok s ∧
    ¬threePorts.FormulasAgree listStaticRouting s :=
  ⟨⟨by decide, by decide, by decide, by decide, by decide, by decide⟩, _, rfl,
    cores_unlinked (by decide) (by decide)⟩

end Formulas

end TopologyDescriptor

end SwarmSim.Clos
