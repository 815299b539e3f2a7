import SwarmSim.Clos.Setup

/-! Every loop of the set-up, read at one link or at one node. -/

namespace SwarmSim.Clos

open Machine Ns3 Wcmp

namespace TopologyDescriptor

variable (p : TopologyDescriptor)

lemma mul_add_div {h x i : ℕ} (hi : i < h) : (x * h + i) / h = x := by
  rw [Nat.mul_comm, Nat.mul_add_div (by omega), Nat.div_eq_of_lt hi, Nat.add_zero]

lemma mul_add_mod {h x i : ℕ} (hi : i < h) : (x * h + i) % h = i := by
  rw [Nat.mul_comm, Nat.mul_add_mod, Nat.mod_eq_of_lt hi]

lemma mul_add_inj {h x y i j : ℕ} (hi : i < h) (hj : j < h) :
    x * h + i = y * h + j ↔ x = y ∧ i = j := by
  constructor
  · intro he
    have hxy : x = y := by rw [← mul_add_div (x := x) hi, he, mul_add_div hj]
    subst hxy
    exact ⟨rfl, by omega⟩
  · rintro ⟨rfl, rfl⟩
    rfl

lemma mul_add_lt {h x n i : ℕ} (hx : x < n) (hi : i < h) : x * h + i < n * h := by
  calc x * h + i < x * h + h := by omega
    _ = (x + 1) * h := by ring
    _ ≤ n * h := Nat.mul_le_mul_right h hx

variable {p} in
lemma core_lt_numCores {k f : ℕ} (hk : k < p.h) (hf : f < p.h) : k * p.h + f < p.numCores := by
  have hle : p.h * 2 ≤ p.switchRadix := Nat.div_mul_le_self _ 2
  have hmul : p.h * p.h * 4 ≤ p.switchRadix * p.switchRadix := by nlinarith
  exact (mul_add_lt hk hf).trans_le ((Nat.le_div_iff_mul_le (by norm_num)).mpr hmul)

section LinkTables

variable {p} {pod i j : ℕ}

lemma connectServers_frame (ls : Links) :
    (p.connectServers ls).edgeToAggLinks = ls.edgeToAggLinks ∧
      (p.connectServers ls).aggToCoreLinks = ls.aggToCoreLinks := by
  let P (l : Links) := l.edgeToAggLinks = ls.edgeToAggLinks ∧ l.aggToCoreLinks = ls.aggToCoreLinks
  rw [connectServers]
  apply forRange_preserves (P := P) ⟨rfl, rfl⟩
  intro pod l _ hl
  apply forRange_preserves (P := P) hl
  intro edge l _ hl
  exact forRange_preserves (P := fun r : Links × List NetDevice => P r.1) hl fun _ _ _ hr => hr

lemma edgeToAggLinks_eq (hpod : pod < p.numPods) (hi : i < p.h) (hj : j < p.h) :
    p.createLinks.edgeToAggLinks (pod * p.h + i, pod * p.h + j) =
      some (pointToPoint (.edge pod i) (.aggregate pod j)) := by
  rw [createLinks, (connectServers_frame _).1]
  apply nested_preserves (P := fun ls : Links => ls.edgeToAggLinks (pod * p.h + i, pod * p.h + j) =
      some (pointToPoint (.edge pod i) (.aggregate pod j)))
  · apply nested_establishes (P := fun ls : Links =>
      ls.edgeToAggLinks (pod * p.h + i, pod * p.h + j) =
        some (pointToPoint (.edge pod i) (.aggregate pod j))) hpod hi hj
    · intro ls
      simp only [Links.setEdgeToAgg, Function.update_self]
    · intro pod' i' j' ls _ hi' hj' hls
      by_cases hk : (pod * p.h + i, pod * p.h + j) = (pod' * p.h + i', pod' * p.h + j')
      · obtain ⟨hl, hr⟩ := Prod.mk.inj hk
        obtain ⟨rfl, rfl⟩ := (mul_add_inj hi hi').mp hl
        obtain ⟨-, rfl⟩ := (mul_add_inj hj hj').mp hr
        simp only [Links.setEdgeToAgg, Function.update_self]
      · simp only [Links.setEdgeToAgg, Function.update_of_ne hk, hls]
  · exact fun _ _ _ _ _ _ _ hls => hls

lemma aggToCoreLinks_eq (hpod : pod < p.numPods) (hi : i < p.h) (hj : j < p.h) :
    p.createLinks.aggToCoreLinks (pod * p.h + i, j * p.h + i) =
      some (pointToPoint (.aggregate pod i) (.core (j * p.h + i))) := by
  rw [createLinks, (connectServers_frame _).2]
  apply nested_establishes (P := fun ls : Links => ls.aggToCoreLinks (pod * p.h + i, j * p.h + i) =
      some (pointToPoint (.aggregate pod i) (.core (j * p.h + i)))) hpod hi hj
  · intro ls
    simp only [Links.setAggToCore, Nat.mul_comm p.h, Nat.add_comm i, Function.update_self]
  · intro pod' i' j' ls _ hi' hj' hls
    by_cases hk : (pod * p.h + i, j * p.h + i) = (pod' * p.h + i', i' + p.h * j')
    · obtain ⟨hl, hr⟩ := Prod.mk.inj hk
      obtain ⟨rfl, rfl⟩ := (mul_add_inj hi hi').mp hl
      simp only [Links.setAggToCore, hr, Function.update_self]
    · simp only [Links.setAggToCore, Function.update_of_ne hk, hls]

lemma connectTor_spec (pod edge : ℕ) (ls : Links) :
    (p.connectTor pod edge ls).serverDevices = Function.update ls.serverDevices (pod * p.h + edge)
        ((List.range p.numServers).map fun i => ⟨.server (pod * p.h + edge) i, .edge pod edge⟩) ∧
      ∀ tor k, (p.connectTor pod edge ls).serverToEdgeLinks (tor, p.numServers * tor + k) =
        if tor = pod * p.h + edge ∧ k < p.numServers then
          some (pointToPoint (.server tor k) (.edge pod edge))
        else ls.serverToEdgeLinks (tor, p.numServers * tor + k) := by
  have hloop := forRange_invariant (n := p.numServers) (s := (ls, []))
    (P := fun m (r : Links × List NetDevice) =>
      r.2 = (List.range m).map (fun i => ⟨.server (pod * p.h + edge) i, .edge pod edge⟩) ∧
        r.1.serverDevices = ls.serverDevices ∧
        ∀ tor k, r.1.serverToEdgeLinks (tor, p.numServers * tor + k) =
          if tor = pod * p.h + edge ∧ k < m then
            some (pointToPoint (.server tor k) (.edge pod edge))
          else ls.serverToEdgeLinks (tor, p.numServers * tor + k))
    (f := fun i r => (r.1.setServerToEdge
      (pod * p.h + edge, i + p.numServers * (pod * p.h + edge))
      (pointToPoint (.server (pod * p.h + edge) i) (.edge pod edge)),
      r.2 ++ [(pointToPoint (.server (pod * p.h + edge) i) (.edge pod edge)).1])) ?_ ?_
  · obtain ⟨hdevices, hserver, hlinks⟩ := hloop
    refine ⟨?_, hlinks⟩
    simp only [connectTor, Links.setServerDevices, hdevices, hserver]
  · simp
  · rintro m r hm ⟨hdevices, hserver, hlinks⟩
    refine ⟨?_, hserver, fun tor k => ?_⟩
    · rw [List.range_succ, List.map_append, hdevices]
      rfl
    · simp only [Links.setServerToEdge]
      by_cases hk : (tor, p.numServers * tor + k) =
          (pod * p.h + edge, m + p.numServers * (pod * p.h + edge))
      · obtain ⟨rfl, hk⟩ := Prod.mk.inj hk
        obtain rfl : k = m := by omega
        rw [Nat.add_comm k, Function.update_self, if_pos ⟨rfl, k.lt_succ_self⟩]
      · rw [Function.update_of_ne hk, hlinks]
        have hlt : (tor = pod * p.h + edge ∧ k < m + 1) ↔ (tor = pod * p.h + edge ∧ k < m) := by
          constructor
          · rintro ⟨rfl, hlt⟩
            refine ⟨rfl, ?_⟩
            rcases Nat.lt_succ_iff_lt_or_eq.mp hlt with hlt | rfl
            · exact hlt
            · exact (hk (by rw [Nat.add_comm k])).elim
          · exact fun ⟨htor, hlt⟩ => ⟨htor, hlt.trans m.lt_succ_self⟩
        simp only [hlt]

lemma serverLinks_eq (hpod : pod < p.numPods) (hi : i < p.h) :
    p.createLinks.serverDevices (pod * p.h + i) =
        (List.range p.numServers).map (fun k => ⟨.server (pod * p.h + i) k, .edge pod i⟩) ∧
      ∀ k < p.numServers, p.createLinks.serverToEdgeLinks
          (pod * p.h + i, p.numServers * (pod * p.h + i) + k) =
        some (pointToPoint (.server (pod * p.h + i) k) (.edge pod i)) := by
  let P (ls : Links) := ls.serverDevices (pod * p.h + i) =
      (List.range p.numServers).map (fun k => ⟨.server (pod * p.h + i) k, .edge pod i⟩) ∧
    ∀ k < p.numServers, ls.serverToEdgeLinks
        (pod * p.h + i, p.numServers * (pod * p.h + i) + k) =
      some (pointToPoint (.server (pod * p.h + i) k) (.edge pod i))
  have hhere : ∀ ls : Links, P (p.connectTor pod i ls) := by
    intro ls
    obtain ⟨hdevices, hlinks⟩ := connectTor_spec (p := p) pod i ls
    refine ⟨?_, fun k hk => ?_⟩
    · rw [hdevices, Function.update_self]
    · rw [hlinks, if_pos ⟨rfl, hk⟩]
  have hthere : ∀ pod' i' ls, i' < p.h → P ls → P (p.connectTor pod' i' ls) := by
    intro pod' i' ls hi' hls
    obtain ⟨hdevices, hlinks⟩ := connectTor_spec (p := p) pod' i' ls
    by_cases hk : pod * p.h + i = pod' * p.h + i'
    · obtain ⟨rfl, rfl⟩ := (mul_add_inj hi hi').mp hk
      exact hhere ls
    · refine ⟨?_, fun k hk' => ?_⟩
      · rw [hdevices, Function.update_of_ne hk, hls.1]
      · rw [hlinks, if_neg (fun h => hk h.1), hls.2 k hk']
  rw [createLinks, connectServers]
  apply forRange_establishes (P := P) hpod
  · intro ls
    exact forRange_establishes (P := P) hi hhere fun i' ls hi' hls => hthere pod i' ls hi' hls
  · intro pod' ls _ hls
    exact forRange_preserves (P := P) hls fun i' ls hi' hls => hthere pod' i' ls hi' hls

end LinkTables

section Interfaces

variable {p} {S : Ipv4StaticRouting} {q f k : ℕ}

lemma forRange_apply {f : ℕ → Nodes S → Nodes S} {g : ℕ → NodeStack S → NodeStack S} {n : ℕ} {v : Node}
    {nodes : Nodes S} (hf : ∀ i nodes, i < n → f i nodes v = g i (nodes v)) :
    forRange f n nodes v = forRange g n (nodes v) :=
  forRange_map (fun nodes => nodes v) nodes hf

lemma nested_apply {f : ℕ → ℕ → ℕ → Nodes S → Nodes S} {g : ℕ → ℕ → ℕ → NodeStack S → NodeStack S}
    {a b c : ℕ} {v : Node} {nodes : Nodes S}
    (hf : ∀ i j k nodes, i < a → j < b → k < c → f i j k nodes v = g i j k (nodes v)) :
    forRange (fun i m => forRange (fun j m => forRange (fun k m => f i j k m) c m) b m) a nodes v =
      forRange (fun i s => forRange (fun j s => forRange (fun k s => g i j k s) c s) b s) a
        (nodes v) := by
  apply forRange_apply
  intro i nodes hi
  apply forRange_apply
  intro j nodes hj
  apply forRange_apply
  intro k nodes hk
  exact hf i j k nodes hi hj hk

lemma assign_apply {pod edge n : ℕ} {t : ℕ} {u v : Node} {nodes : Nodes S} :
    assign pod edge ((List.range n).map fun k => ⟨.server t k, u⟩) nodes v =
      forRange (fun i s => if v = .server t i then
        s.connect (some ⟨.server t i, u⟩) (serverNetwork pod edge (i + 1)) else s) n (nodes v) := by
  rw [assign, List.length_map, List.length_range]
  apply forRange_apply
  intro i nodes hi
  have hget : ((List.range n).map fun k => (⟨.server t k, u⟩ : NetDevice))[i]? =
      some ⟨.server t i, u⟩ := by
    rw [List.getElem?_map, List.getElem?_range hi, Option.map_some]
  simp only [hget, Nodes.modify_apply]

lemma assignServerIps_server {nodes : Nodes S} (hq : q < p.numPods) (hf : f < p.h)
    (hk : k < p.numServers) :
    p.assignServerIps p.createLinks nodes (.server (q * p.h + f) k) =
      (nodes (.server (q * p.h + f) k)).connect (some ⟨.server (q * p.h + f) k, .edge q f⟩)
        (serverNetwork q f (k + 1)) := by
  rw [assignServerIps]
  refine (forRange_apply (g := fun pod s => forRange (fun e s => if q = pod ∧ f = e then
    s.connect (some ⟨.server (pod * p.h + e) k, .edge pod e⟩) (serverNetwork pod e (k + 1)) else s)
    p.h s) ?_).trans ?_
  · intro pod nodes hpod
    apply forRange_apply
    intro e nodes he
    rw [(serverLinks_eq hpod he).1, assign_apply]
    simp only [Node.server.injEq, mul_add_inj hf he, forRange_at_right, hk, and_true]
  · simp only [forRange_at_right, hf, and_true, forRange_at, hq, if_true]

lemma assignServerIps_switch {nodes : Nodes S} {v : Node} (hv : ∀ t k, v ≠ .server t k) :
    p.assignServerIps p.createLinks nodes v = nodes v := by
  rw [assignServerIps]
  refine forRange_preserves (P := fun m : Nodes S => m v = nodes v) rfl fun pod m hpod hm => ?_
  refine forRange_preserves (P := fun m : Nodes S => m v = nodes v) hm fun e m he hm => ?_
  rw [(serverLinks_eq hpod he).1, assign_apply]
  simp only [hv, if_false, forRange_id, hm]

def plug (u v : Node) : NodeStack S → NodeStack S := (·.connect (some ⟨u, v⟩) loopbackAddress)

lemma edgeServerInterfaces_apply (nodes : Nodes S) (v : Node) :
    p.edgeServerInterfaces p.createLinks nodes v =
      forRange (fun pod s => forRange (fun edge s => forRange (fun i s =>
        if v = .edge pod edge then plug v (.server (pod * p.h + edge) i) s else s)
        p.numServers s) p.h s) p.numPods (nodes v) := by
  rw [edgeServerInterfaces]
  apply nested_apply
  intro pod edge i nodes hpod he hi
  simp only [(serverLinks_eq hpod he).2 i hi, Nodes.modify_apply]
  split
  · rename_i hv
    subst hv
    rfl
  · rfl

lemma aggEdgeInterfaces_apply (nodes : Nodes S) (v : Node) :
    p.aggEdgeInterfaces p.createLinks nodes v =
      forRange (fun pod s => forRange (fun agg s => forRange (fun edge s =>
        let s := if v = .edge pod edge then plug v (.aggregate pod agg) s else s
        if v = .aggregate pod agg then plug v (.edge pod edge) s else s) p.h s) p.h s) p.numPods
        (nodes v) := by
  rw [aggEdgeInterfaces]
  apply nested_apply
  intro pod agg edge nodes hpod ha he
  simp only [edgeToAggLinks_eq hpod he ha, Nodes.modify_apply]
  split
  · rename_i hv
    subst hv
    rfl
  · split
    · rename_i hv
      subst hv
      rfl
    · rfl

lemma aggCoreInterfaces_apply (nodes : Nodes S) (v : Node) :
    p.aggCoreInterfaces p.createLinks nodes v =
      forRange (fun pod s => forRange (fun agg s => forRange (fun i s =>
        let s := if v = .aggregate pod agg then plug v (.core (i * p.h + agg)) s else s
        if v = .core (i * p.h + agg) then plug v (.aggregate pod agg) s else s) p.h s) p.h s) p.numPods
        (nodes v) := by
  rw [aggCoreInterfaces]
  apply nested_apply
  intro pod agg i nodes hpod ha hi
  simp only [aggToCoreLinks_eq hpod ha hi, Nodes.modify_apply]
  split
  · rename_i hv
    subst hv
    rfl
  · split
    · rename_i hv
      subst hv
      rfl
    · rfl

lemma createFabricInterfaces_edge {nodes : Nodes S} (hq : q < p.numPods) (hf : f < p.h) :
    p.createFabricInterfaces p.createLinks nodes (.edge q f) =
      forRange (fun a s => plug (.edge q f) (.aggregate q a) s) p.h
        (forRange (fun i s => plug (.edge q f) (.server (q * p.h + f) i) s) p.numServers
          (nodes (.edge q f))) := by
  rw [createFabricInterfaces, aggCoreInterfaces_apply, aggEdgeInterfaces_apply,
    edgeServerInterfaces_apply]
  simp only [Node.edge.injEq, reduceCtorEq, if_false, forRange_id, forRange_if, forRange_at_right,
    hf, hq, and_true, forRange_at, if_true]

lemma createFabricInterfaces_aggregate {nodes : Nodes S} (hq : q < p.numPods) (hf : f < p.h) :
    p.createFabricInterfaces p.createLinks nodes (.aggregate q f) =
      forRange (fun i s => plug (.aggregate q f) (.core (i * p.h + f)) s) p.h
        (forRange (fun e s => plug (.aggregate q f) (.edge q e) s) p.h (nodes (.aggregate q f))) := by
  rw [createFabricInterfaces, aggCoreInterfaces_apply, aggEdgeInterfaces_apply,
    edgeServerInterfaces_apply]
  simp only [Node.aggregate.injEq, reduceCtorEq, if_false, forRange_id, forRange_if,
    forRange_at_right, hf, hq, and_true, forRange_at, if_true]

lemma createFabricInterfaces_core {nodes : Nodes S} (hk : k < p.h) (hf : f < p.h) :
    p.createFabricInterfaces p.createLinks nodes (.core (k * p.h + f)) =
      forRange (fun q s => plug (.core (k * p.h + f)) (.aggregate q f) s) p.numPods
        (nodes (.core (k * p.h + f))) := by
  rw [createFabricInterfaces, aggCoreInterfaces_apply, aggEdgeInterfaces_apply,
    edgeServerInterfaces_apply]
  simp only [Node.core.injEq, reduceCtorEq, if_false, forRange_id]
  apply forRange_congr
  intro q s _
  have hinner : ∀ agg (s : NodeStack S), agg < p.h → forRange (fun i s => if k * p.h + f = i * p.h + agg then
      plug (.core (k * p.h + f)) (.aggregate q agg) s else s) p.h s =
        if f = agg then plug (.core (k * p.h + f)) (.aggregate q agg) s else s := by
    intro agg s ha
    simp only [mul_add_inj hf ha, forRange_at_left, hk, true_and]
  rw [forRange_congr _ hinner, forRange_at, if_pos hf]

lemma createFabricInterfaces_server {nodes : Nodes S} {t : ℕ} :
    p.createFabricInterfaces p.createLinks nodes (.server t k) = nodes (.server t k) := by
  rw [createFabricInterfaces, aggCoreInterfaces_apply, aggEdgeInterfaces_apply,
    edgeServerInterfaces_apply]
  simp only [reduceCtorEq, if_false, forRange_id]

end Interfaces

section Routes

variable {p} {S : Ipv4StaticRouting} {q f k : ℕ} {nodes : Nodes S}

lemma setupServerRouting_apply (nodes : Nodes S) (v : Node) : p.setupServerRouting nodes v =
    forRange (fun pod s => forRange (fun edge s => forRange (fun i s =>
      if v = .server (pod * p.h + edge) i then s.addStaticRoute defaultRoute else s)
      p.numServers s) p.h s) p.numPods (nodes v) := by
  rw [setupServerRouting]
  apply nested_apply
  intro pod edge i nodes _ _ _
  rw [Nodes.modify_apply, Nat.mul_comm p.h]

lemma setupServerRouting_server (hq : q < p.numPods) (hf : f < p.h) (hk : k < p.numServers) :
    p.setupServerRouting nodes (.server (q * p.h + f) k) =
      (nodes (.server (q * p.h + f) k)).addStaticRoute defaultRoute := by
  rw [setupServerRouting_apply]
  have hinner : ∀ pod (s : NodeStack S), pod < p.numPods → forRange (fun edge s => forRange (fun i s =>
      if Node.server (q * p.h + f) k = .server (pod * p.h + edge) i then
        s.addStaticRoute defaultRoute else s) p.numServers s) p.h s =
      if q = pod then s.addStaticRoute defaultRoute else s := by
    intro pod s _
    refine (forRange_congr (g := fun edge s => if q = pod ∧ f = edge then
      s.addStaticRoute defaultRoute else s) s ?_).trans ?_
    · intro edge s he
      simp only [Node.server.injEq, mul_add_inj hf he, forRange_at_right, hk, and_true]
    · simp only [forRange_at_right, hf, and_true]
  rw [forRange_congr _ hinner, forRange_at, if_pos hq]

lemma setupCoreRouting_core (hk : k < p.numCores) : p.setupCoreRouting nodes (.core k) =
    forRange (fun pod s => s.addStaticRoute (podRoute pod)) p.numPods (nodes (.core k)) := by
  rw [setupCoreRouting]
  refine (forRange_apply (g := fun core s => if k = core then
    forRange (fun pod s => s.addStaticRoute (podRoute pod)) p.numPods s else s) ?_).trans ?_
  · intro core nodes _
    refine (forRange_apply (g := fun pod s => if k = core then
      s.addStaticRoute (podRoute pod) else s) ?_).trans ?_
    · intro pod nodes _
      simp only [Nodes.modify_apply, Node.core.injEq]
    · rw [forRange_if]
  · rw [forRange_at, if_pos hk]

lemma setupCoreRouting_other {v : Node} (hv : ∀ c, v ≠ .core c) :
    p.setupCoreRouting nodes v = nodes v := by
  rw [setupCoreRouting]
  refine forRange_preserves (P := fun m : Nodes S => m v = nodes v) rfl fun core m _ hm => ?_
  refine forRange_preserves (P := fun m : Nodes S => m v = nodes v) hm fun pod m _ hm => ?_
  rw [Nodes.modify_apply, if_neg (hv core), hm]

lemma ecmpEdges_apply (nodes : Nodes S) (v : Node) : p.ecmpEdges nodes v =
    forRange (fun pod s => forRange (fun edge s => if v = .edge pod edge then
      forRange (fun k s => s.modifyWcmp (·.addWildcardRoute (p.numServers + 1 + k) 1)) p.h
        (forRange (fun i s => s.addStaticRoute (hostRoute pod edge i)) p.numServers s) else s)
      p.h s) p.numPods (nodes v) := by
  rw [ecmpEdges]
  apply forRange_apply
  intro pod nodes _
  apply forRange_apply
  intro edge nodes _
  refine (forRange_apply (g := fun k s => if v = .edge pod edge then
    s.modifyWcmp (·.addWildcardRoute (p.numServers + 1 + k) 1) else s) ?_).trans ?_
  · exact fun k nodes _ => Nodes.modify_apply _ _ _ _
  · rw [forRange_if, forRange_apply (g := fun i s => if v = .edge pod edge then
      s.addStaticRoute (hostRoute pod edge i) else s) fun i nodes _ => Nodes.modify_apply _ _ _ _,
      forRange_if]
    split <;> rfl

lemma ecmpAggregates_apply (nodes : Nodes S) (v : Node) : p.ecmpAggregates nodes v =
    forRange (fun pod s => forRange (fun agg s => if v = .aggregate pod agg then
      forRange (fun k s => s.modifyWcmp (·.addWildcardRoute (p.h + 1 + k) 1)) (p.switchRadix - p.h)
        (forRange (fun i s => s.addStaticRoute (torRoute pod i)) p.h s) else s)
      p.h s) p.numPods (nodes v) := by
  rw [ecmpAggregates]
  apply forRange_apply
  intro pod nodes _
  apply forRange_apply
  intro agg nodes _
  refine (forRange_apply (g := fun k s => if v = .aggregate pod agg then
    s.modifyWcmp (·.addWildcardRoute (p.h + 1 + k) 1) else s) ?_).trans ?_
  · exact fun k nodes _ => Nodes.modify_apply _ _ _ _
  · rw [forRange_if, forRange_apply (g := fun i s => if v = .aggregate pod agg then
      s.addStaticRoute (torRoute pod i) else s) fun i nodes _ => Nodes.modify_apply _ _ _ _,
      forRange_if]
    split <;> rfl

def addBackupRoute (pod k : ℕ) : NodeStack S → NodeStack S :=
  (·.modifyWcmp (·.addNetworkRouteTo (.ofOctets 10 (pod % 2 ^ 8) 0 0) (.ofPrefix 16) (k + 1)
    backupPathMetric))

lemma enableAggregateBackupPaths_apply (nodes : Nodes S) (v : Node) :
    p.enableAggregateBackupPaths nodes v =
      forRange (fun pod s => forRange (fun agg s => forRange (fun k s =>
        if v = .aggregate pod agg then if k = pod then s else addBackupRoute pod k s else s)
        p.h s) p.h s) p.numPods (nodes v) := by
  rw [enableAggregateBackupPaths]
  apply nested_apply
  intro pod agg k nodes _ _ _
  by_cases hk : k = pod
  · rw [if_pos (by omega), if_pos hk, ite_self]
  · rw [if_neg (by omega), if_neg hk, Nodes.modify_apply]
    rfl

lemma setupClosTopology_base {v : Node} (hv : ∀ q a, v ≠ .aggregate q a) :
    p.setupClosTopology S v = p.ecmpEdges (p.setupCoreRouting (p.setupServerRouting
      (p.createFabricInterfaces p.createLinks (p.assignServerIps p.createLinks
        (p.createTopology S))))) v := by
  have hecmp : ∀ nodes : Nodes S, p.doEcmp nodes v = p.ecmpEdges nodes v := by
    intro nodes
    rw [doEcmp, ecmpAggregates_apply]
    simp only [hv, if_false, forRange_id]
  rw [setupClosTopology]
  split
  · rw [enableAggregateBackupPaths_apply]
    simp only [hv, if_false, forRange_id, hecmp]
  · exact hecmp _

lemma setupClosTopology_edge (hq : q < p.numPods) (hf : f < p.h) :
    p.setupClosTopology S (.edge q f) =
      forRange (fun k s => s.modifyWcmp (·.addWildcardRoute (p.numServers + 1 + k) 1)) p.h
        (forRange (fun i s => s.addStaticRoute (hostRoute q f i)) p.numServers
          (forRange (fun a s => plug (.edge q f) (.aggregate q a) s) p.h
            (forRange (fun i s => plug (.edge q f) (.server (q * p.h + f) i) s) p.numServers
              (.installWcmp S p.numLevels p.torLevelMapper)))) := by
  rw [setupClosTopology_base (by simp), ecmpEdges_apply, setupCoreRouting_other (by simp),
    setupServerRouting_apply, createFabricInterfaces_edge hq hf, assignServerIps_switch (by simp)]
  simp only [Node.edge.injEq, reduceCtorEq, if_false, forRange_id, forRange_at_right, hf, hq,
    and_true, forRange_at, if_true]
  rfl

lemma setupClosTopology_core (hk : k < p.h) (hf : f < p.h) :
    p.setupClosTopology S (.core (k * p.h + f)) =
      forRange (fun pod s => s.addStaticRoute (podRoute pod)) p.numPods
        (forRange (fun q s => plug (.core (k * p.h + f)) (.aggregate q f) s) p.numPods
          (.install S)) := by
  rw [setupClosTopology_base (by simp), ecmpEdges_apply]
  simp only [reduceCtorEq, if_false, forRange_id]
  rw [setupCoreRouting_core (core_lt_numCores hk hf), setupServerRouting_apply, createFabricInterfaces_core hk hf,
    assignServerIps_switch (by simp)]
  simp only [reduceCtorEq, if_false, forRange_id]
  rfl

lemma setupClosTopology_server (hq : q < p.numPods) (hf : f < p.h) (hk : k < p.numServers) :
    p.setupClosTopology S (.server (q * p.h + f) k) =
      ((NodeStack.install S).connect (some ⟨.server (q * p.h + f) k, .edge q f⟩)
        (serverNetwork q f (k + 1))).addStaticRoute defaultRoute := by
  rw [setupClosTopology_base (by simp), ecmpEdges_apply]
  simp only [reduceCtorEq, if_false, forRange_id]
  rw [setupCoreRouting_other (by simp), setupServerRouting_server hq hf hk,
    createFabricInterfaces_server, assignServerIps_server hq hf hk]
  rfl

lemma setupClosTopology_aggregate (hq : q < p.numPods) (hf : f < p.h) :
    p.setupClosTopology S (.aggregate q f) =
      (fun s => if p.enableEdgeBounceBackup = true then
        forRange (fun k s => if k = q then s else addBackupRoute q k s) p.h s else s)
      (forRange (fun k s => s.modifyWcmp (·.addWildcardRoute (p.h + 1 + k) 1)) (p.switchRadix - p.h)
        (forRange (fun i s => s.addStaticRoute (torRoute q i)) p.h
          (forRange (fun i s => plug (.aggregate q f) (.core (i * p.h + f)) s) p.h
            (forRange (fun e s => plug (.aggregate q f) (.edge q e) s) p.h
              (.installWcmp S p.numLevels p.torLevelMapper))))) := by
  have hbase : p.doEcmp (p.setupCoreRouting (p.setupServerRouting
      (p.createFabricInterfaces p.createLinks (p.assignServerIps p.createLinks
        (p.createTopology S))))) (.aggregate q f) =
      forRange (fun k s => s.modifyWcmp (·.addWildcardRoute (p.h + 1 + k) 1)) (p.switchRadix - p.h)
        (forRange (fun i s => s.addStaticRoute (torRoute q i)) p.h
          (forRange (fun i s => plug (.aggregate q f) (.core (i * p.h + f)) s) p.h
            (forRange (fun e s => plug (.aggregate q f) (.edge q e) s) p.h
              (.installWcmp S p.numLevels p.torLevelMapper)))) := by
    rw [doEcmp, ecmpAggregates_apply, ecmpEdges_apply, setupCoreRouting_other (by simp),
      setupServerRouting_apply, createFabricInterfaces_aggregate hq hf,
      assignServerIps_switch (by simp)]
    simp only [Node.aggregate.injEq, reduceCtorEq, if_false, forRange_id, forRange_at_right, hf, hq,
      and_true, forRange_at, if_true]
    rfl
  rw [setupClosTopology, ← hbase]
  split
  · rw [enableAggregateBackupPaths_apply]
    simp only [Node.aggregate.injEq, forRange_if, forRange_at_right, hf, hq, and_true, forRange_at,
      if_true]
  · rfl

end Routes

section Loops

variable {S : Ipv4StaticRouting}

lemma forRange_addStaticRoute (f : ℕ → StaticRoute) (n : ℕ) (s : NodeStack S) :
    forRange (fun i s => s.addStaticRoute (f i)) n s =
      { s with staticRouting := forRange (fun i t => S.addNetworkRouteTo (f i) t) n s.staticRouting } := by
  induction n with
  | zero => rfl
  | succ n ih => rw [forRange_succ, ih]; rfl

lemma has_forRange (f : ℕ → StaticRoute) (n : ℕ) (t : S.Table) (r : StaticRoute) :
    S.Has (forRange (fun i t => S.addNetworkRouteTo (f i) t) n t) r ↔
      (∃ i < n, r = f i) ∨ S.Has t r := by
  induction n with
  | zero => simp
  | succ n ih =>
    rw [forRange_succ, S.has_add, ih]
    constructor
    · rintro (rfl | ⟨i, hi, rfl⟩ | h)
      · exact Or.inl ⟨n, n.lt_succ_self, rfl⟩
      · exact Or.inl ⟨i, hi.trans n.lt_succ_self, rfl⟩
      · exact Or.inr h
    · rintro (⟨i, hi, rfl⟩ | h)
      · rcases Nat.lt_succ_iff_lt_or_eq.mp hi with hi | rfl
        · exact Or.inr (Or.inl ⟨i, hi, rfl⟩)
        · exact Or.inl rfl
      · exact Or.inr (Or.inr h)

lemma forRange_modifyWcmp (f : ℕ → WcmpStaticRouting → WcmpStaticRouting) (n : ℕ) (s : NodeStack S) :
    forRange (fun k s => s.modifyWcmp (f k)) n s = s.modifyWcmp (forRange f n) := by
  induction n with
  | zero =>
    rw [forRange_zero, NodeStack.modifyWcmp]
    have hid : (fun r => forRange f 0 r) = id := rfl
    rw [show forRange f 0 = id from hid, Option.map_id_fun, id]
  | succ n ih =>
    rw [forRange_succ, ih, NodeStack.modifyWcmp, NodeStack.modifyWcmp, NodeStack.modifyWcmp,
      Option.map_map]
    rfl

end Loops

end TopologyDescriptor

end SwarmSim.Clos
