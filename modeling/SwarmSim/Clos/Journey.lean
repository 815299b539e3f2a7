import SwarmSim.Clos.Hops

namespace SwarmSim.Clos

open Machine Ns3 Wcmp

namespace Nodes

variable {S : Ipv4StaticRouting} {nodes : Nodes S} {dest : Ipv4Address} {hash : ℕ → ℕ} {ttl iif : ℕ}
  {v u : Node} {i j : ℕ}

lemma forward_local (hup : (nodes v).isUp iif = true)
    (h : ((nodes v).routeInput dest (hash ttl) iif).1 = .ok .localDeliver) :
    forward dest hash ttl v iif nodes = ⟨[], v, .delivered⟩ := by
  rw [NodeStack.routeInput] at h
  rw [forward, forwardWith, hup]
  generalize (nodes v).routeInputWith false dest (hash ttl) iif = a at h
  obtain ⟨a, s⟩ := a
  obtain rfl : a = _ := h
  rfl

lemma forward_abort {f : Fault} (hup : (nodes v).isUp iif = true)
    (h : ((nodes v).routeInput dest (hash ttl) iif).1 = .error f) :
    forward dest hash ttl v iif nodes = ⟨[], v, .aborted f⟩ := by
  rw [NodeStack.routeInput] at h
  rw [forward, forwardWith, hup]
  generalize (nodes v).routeInputWith false dest (hash ttl) iif = a at h
  obtain ⟨a, s⟩ := a
  obtain rfl : a = _ := h
  rfl

lemma forward_step (hup : (nodes v).isUp iif = true)
    (h : ((nodes v).routeInput dest (hash (ttl + 1)) iif).1 = .ok (.forward i))
    (hi : ((nodes v).routeInput dest (hash (ttl + 1)) iif).2.isUp i = true)
    (hr : receiver v i nodes = some (u, j)) :
    forward dest hash (ttl + 1) v iif nodes = (forward dest hash ttl u j
      (Function.update nodes v ((nodes v).routeInput dest (hash (ttl + 1)) iif).2)).cons (v, i) := by
  rw [NodeStack.routeInput] at h hi
  rw [NodeStack.routeInput, forward, forwardWith, hup]
  generalize (nodes v).routeInputWith false dest (hash (ttl + 1)) iif = a at h hi
  obtain ⟨a, s⟩ := a
  obtain rfl : a = _ := h
  simp only [Bool.not_true, Bool.false_eq_true, if_false]
  rw [hi, hr]
  rfl

def visit (dest : Ipv4Address) (hash iif : ℕ) (v : Node) (nodes : Nodes S) : Nodes S :=
  Function.update nodes v ((nodes v).routeInput dest hash iif).2

lemma visit_of_ne {x : ℕ} (h : u ≠ v) : nodes.visit dest x iif v u = nodes u :=
  Function.update_of_ne h _ _

end Nodes

namespace TopologyDescriptor

variable {p : TopologyDescriptor} {S : Ipv4StaticRouting} {nodes : Nodes S} {up : Link → Bool}
  {v u : Node} {i j : ℕ}

section Receivers

lemma remotes_nodup (p : TopologyDescriptor) (v : Node) : (p.remotes v).Nodup := by
  have hrange : ∀ (n : ℕ) (g : ℕ → Node), (∀ i < n, ∀ j < n, g i = g j → i = j) →
      ((List.range n).map g).Nodup := by
    intro n g hg
    apply List.Nodup.map_on _ List.nodup_range
    intro i hi j hj
    exact hg i (List.mem_range.mp hi) j (List.mem_range.mp hj)
  cases v with
  | edge q f =>
    rw [remotes, List.nodup_append]
    refine ⟨hrange _ _ (by simp), hrange _ _ (by simp), ?_⟩
    intro x hx y hy
    obtain ⟨i, -, rfl⟩ := List.mem_map.mp hx
    obtain ⟨j, -, rfl⟩ := List.mem_map.mp hy
    simp
  | aggregate q a =>
    rw [remotes, List.nodup_append]
    refine ⟨hrange _ _ (by simp), hrange _ _ ?_, ?_⟩
    · intro i hi j hj he
      have hmul := Nat.add_right_cancel (Node.core.inj he)
      exact Nat.eq_of_mul_eq_mul_right (by omega) hmul
    · intro x hx y hy
      obtain ⟨i, -, rfl⟩ := List.mem_map.mp hx
      obtain ⟨j, -, rfl⟩ := List.mem_map.mp hy
      simp
  | core c => exact hrange _ _ (by simp)
  | server t k => simp [remotes]

lemma devices_nodup (p : TopologyDescriptor) (v : Node) : (p.devices v).Nodup := by
  rw [devices, List.nodup_cons]
  refine ⟨by simp, (remotes_nodup p v).map fun u u' h => ?_⟩
  simpa using h

lemma receiver_eq (hv : (nodes v).interfaces = p.devices v) (hu : (nodes u).interfaces = p.devices u)
    (hi : (p.devices v)[i]? = some (some ⟨v, u⟩)) (hj : (p.devices u)[j]? = some (some ⟨u, v⟩)) :
    Nodes.receiver v i nodes = some (u, j) := by
  rw [Nodes.receiver, hv, hi, Option.map_some]
  dsimp only
  rw [hu]
  obtain ⟨hlt, hget⟩ := List.getElem?_eq_some_iff.mp hj
  refine congrArg (fun j => some (u, j)) ?_
  have hidx := (devices_nodup p u).idxOf_getElem j hlt
  rwa [hget] at hidx

end Receivers

section Ports

variable {q f a c pod e k : ℕ}

lemma port_server (he : e < p.h) : (p.devices (.server (pod * p.h + e) k))[1]? =
    some (some ⟨.server (pod * p.h + e) k, .edge pod e⟩) := by
  rw [devices_eq_some, remotes_server, if_pos rfl, mul_add_div he, mul_add_mod he]
  exact ⟨Nat.one_pos, rfl⟩

lemma port_edge_server (hk : k < p.numServers) : (p.devices (.edge q f))[k + 1]? =
    some (some ⟨.edge q f, .server (q * p.h + f) k⟩) := by
  rw [devices_eq_some, remotes_edge, Nat.add_sub_cancel, if_pos hk]
  exact ⟨k.succ_pos, rfl⟩

lemma port_edge_aggregate (ha : a < p.h) : (p.devices (.edge q f))[p.numServers + 1 + a]? =
    some (some ⟨.edge q f, .aggregate q a⟩) := by
  rw [devices_eq_some, remotes_edge, if_neg (by omega), if_pos (by omega)]
  refine ⟨by omega, ?_⟩
  congr 2
  omega

lemma port_aggregate_edge (he : e < p.h) : (p.devices (.aggregate q a))[e + 1]? =
    some (some ⟨.aggregate q a, .edge q e⟩) := by
  rw [devices_eq_some, remotes_aggregate, Nat.add_sub_cancel, if_pos he]
  exact ⟨e.succ_pos, rfl⟩

lemma port_aggregate_core (hc : c < p.h) : (p.devices (.aggregate q a))[p.h + 1 + c]? =
    some (some ⟨.aggregate q a, .core (c * p.h + a)⟩) := by
  rw [devices_eq_some, remotes_aggregate, if_neg (by omega), if_pos (by omega)]
  refine ⟨by omega, ?_⟩
  congr 4
  omega

lemma port_core (ha : a < p.h) (hpod : pod < p.numPods) : (p.devices (.core (c * p.h + a)))[pod + 1]? =
    some (some ⟨.core (c * p.h + a), .aggregate pod a⟩) := by
  rw [devices_eq_some, remotes_core, Nat.add_sub_cancel, if_pos hpod, mul_add_mod ha]
  exact ⟨pod.succ_pos, rfl⟩

lemma portUp_none (hi : i < (p.devices v).length) (hl : p.portLink v i = none) :
    p.portUp up v i = true := by
  rw [portUp, hl, decide_eq_true hi]
  rfl

lemma portUp_server {t : ℕ} : p.portUp up (.server t k) 1 = true :=
  portUp_none (by rw [devices_length]; exact Nat.one_lt_two) rfl

lemma portUp_edge_server (hk : k < p.numServers) : p.portUp up (.edge q f) (k + 1) = true := by
  apply portUp_none
  · rw [devices_length]
    dsimp only
    omega
  · rw [portLink, if_neg (by omega)]

lemma portUp_edge_uplink (hl : p.HasLink (.edgeAgg q f a)) :
    p.portUp up (.edge q f) (p.numServers + 1 + a) = up (.edgeAgg q f a) := by
  rw [Nat.add_right_comm]
  exact portUp_of_isEnd hl (Or.inl rfl)

lemma portUp_aggregate_edge (hl : p.HasLink (.edgeAgg q f a)) :
    p.portUp up (.aggregate q a) (f + 1) = up (.edgeAgg q f a) :=
  portUp_of_isEnd hl (Or.inr rfl)

lemma portUp_aggregate_uplink (hl : p.HasLink (.aggCore q a c)) :
    p.portUp up (.aggregate q a) (p.h + 1 + c) = up (.aggCore q a c) := by
  rw [show p.h + 1 + c = c + p.h + 1 by omega]
  exact portUp_of_isEnd hl (Or.inl rfl)

lemma portUp_core (hl : p.HasLink (.aggCore q a c)) :
    p.portUp up (.core (c * p.h + a)) (q + 1) = up (.aggCore q a c) :=
  portUp_of_isEnd hl (Or.inr rfl)

end Ports

section Arrivals

variable {dest : Ipv4Address} {hash : ℕ → ℕ} {ttl iif : ℕ} {q f a c pod e k : ℕ}

lemma forward_hop_of {P : Node → NodeStack S → Prop} (hP : ∀ v s, P v s → p.Tracks up v s)
    (hkept : ∀ v s, P v s → P v (s.routeInput dest (hash (ttl + 1)) iif).2)
    (h : ∀ v, p.HasNode v → P v (nodes v)) (hv : p.HasNode v) (hu : p.HasNode u)
    (hiif : p.portUp up v iif = true)
    (hans : ((nodes v).routeInput dest (hash (ttl + 1)) iif).1 = .ok (.forward i))
    (hup : p.portUp up v i = true) (hi : (p.devices v)[i]? = some (some ⟨v, u⟩))
    (hj : (p.devices u)[j]? = some (some ⟨u, v⟩)) :
    (∀ w, p.HasNode w → P w (nodes.visit dest (hash (ttl + 1)) iif v w)) ∧
      Nodes.forward dest hash (ttl + 1) v iif nodes =
        (Nodes.forward dest hash ttl u j (nodes.visit dest (hash (ttl + 1)) iif v)).cons (v, i) := by
  have htracks := fun v (hv : p.HasNode v) => hP v _ (h v hv)
  have hafter := hkept v _ (h v hv)
  refine ⟨fun w hw => ?_, Nodes.forward_step ?_ hans ?_
    (receiver_eq (htracks v hv).interfaces (htracks u hu).interfaces hi hj)⟩
  · by_cases hwv : w = v
    · subst hwv
      rwa [Nodes.visit, Function.update_self]
    · rw [Nodes.visit_of_ne hwv]
      exact h w hw
  · rw [(htracks v hv).isUp, hiif]
  · rw [(hP v _ hafter).isUp, hup]

lemma tracked_hop (hp : p.Valid) (h : ∀ v, p.HasNode v → p.Tracks up v (nodes v))
    (hv : p.HasNode v) (hu : p.HasNode u) (hiif : p.portUp up v iif = true)
    (hans : ((nodes v).routeInput dest (hash (ttl + 1)) iif).1 = .ok (.forward i))
    (hup : p.portUp up v i = true) (hi : (p.devices v)[i]? = some (some ⟨v, u⟩))
    (hj : (p.devices u)[j]? = some (some ⟨u, v⟩)) :
    ∃ nodes' : Nodes S, (∀ v, p.HasNode v → p.Tracks up v (nodes' v)) ∧
      (∀ w, w ≠ v → nodes' w = nodes w) ∧ Nodes.forward dest hash (ttl + 1) v iif nodes =
        (Nodes.forward dest hash ttl u j nodes').cons (v, i) := by
  obtain ⟨h', heq⟩ := forward_hop_of (fun _ _ h => h) (fun _ _ h => h.routeInput hp _ _ _) h hv hu
    hiif hans hup hi hj
  exact ⟨_, h', fun w hw => Nodes.visit_of_ne hw, heq⟩

lemma guarded_hop {level : ℕ} (hp : p.Valid) (h : ∀ v, p.HasNode v → p.Guards up level v (nodes v))
    (hv : p.HasNode v) (hu : p.HasNode u) (hiif : p.portUp up v iif = true)
    (hans : ((nodes v).routeInput dest (hash (ttl + 1)) iif).1 = .ok (.forward i))
    (hup : p.portUp up v i = true) (hi : (p.devices v)[i]? = some (some ⟨v, u⟩))
    (hj : (p.devices u)[j]? = some (some ⟨u, v⟩)) :
    (∀ w, p.HasNode w → p.Guards up level w (nodes.visit dest (hash (ttl + 1)) iif v w)) ∧
      Nodes.forward dest hash (ttl + 1) v iif nodes =
        (Nodes.forward dest hash ttl u j (nodes.visit dest (hash (ttl + 1)) iif v)).cons (v, i) :=
  forward_hop_of (fun _ _ h => h.tracks) (fun _ _ h => h.routeInput hp _ _ _) h hv hu hiif hans hup hi hj

lemma at_server (hd : p.IsHost pod e k) (h : ∀ v, p.HasNode v → p.Tracks up v (nodes v)) :
    Nodes.forward (hostAddress pod e k) hash ttl (.server (pod * p.h + e) k) 1 nodes =
      ⟨[], .server (pod * p.h + e) k, .delivered⟩ := by
  have hv : p.HasNode (.server (pod * p.h + e) k) := ⟨mul_add_lt hd.1 hd.2.1, hd.2.2⟩
  apply Nodes.forward_local
  · rw [(h _ hv).isUp, portUp_server]
  · rw [routeInput_local _ _ (isDestination_server hd (h _ hv))]

lemma at_home_edge (hp : p.Valid) (hd : p.IsHost pod e k)
    (h : ∀ v, p.HasNode v → p.Tracks up v (nodes v)) (hiif : p.portUp up (.edge pod e) iif = true) :
    Nodes.forward (hostAddress pod e k) hash (ttl + 1) (.edge pod e) iif nodes =
      ⟨[(.edge pod e, k + 1)], .server (pod * p.h + e) k, .delivered⟩ := by
  have hv : p.HasNode (.edge pod e) := ⟨hd.1, hd.2.1⟩
  have hu : p.HasNode (.server (pod * p.h + e) k) := ⟨mul_add_lt hd.1 hd.2.1, hd.2.2⟩
  have hfar := isDestination_switch (v := .edge pod e) hp hd rfl (h _ hv)
  have hans := routeInput_static (hash (ttl + 1)) iif hfar (home_edge hp hd (h _ hv))
  obtain ⟨nodes', h', -, heq⟩ := tracked_hop hp h hv hu hiif (congrArg Prod.fst hans)
    (portUp_edge_server hd.2.2) (port_edge_server hd.2.2) (port_server hd.2.1)
  rw [heq, at_server hd h']
  rfl

lemma at_home_aggregate (hp : p.Valid) (hd : p.IsHost pod e k) (ha : a < p.h)
    (h : ∀ v, p.HasNode v → p.Tracks up v (nodes v))
    (hiif : p.portUp up (.aggregate pod a) iif = true) (hup : up (.edgeAgg pod e a) = true) :
    Nodes.forward (hostAddress pod e k) hash (ttl + 2) (.aggregate pod a) iif nodes =
      ⟨[(.aggregate pod a, e + 1), (.edge pod e, k + 1)], .server (pod * p.h + e) k, .delivered⟩ := by
  have hl : p.HasLink (.edgeAgg pod e a) := ⟨hd.1, hd.2.1, ha⟩
  have hv : p.HasNode (.aggregate pod a) := ⟨hd.1, ha⟩
  have hu : p.HasNode (.edge pod e) := ⟨hd.1, hd.2.1⟩
  have hfar := isDestination_switch (v := .aggregate pod a) hp hd rfl (h _ hv)
  have hans := routeInput_static (hash (ttl + 2)) iif hfar (home_aggregate hp hd ha hup (h _ hv))
  obtain ⟨nodes', h', -, heq⟩ := tracked_hop hp h hv hu hiif (congrArg Prod.fst hans)
    ((portUp_aggregate_edge hl).trans hup) (port_aggregate_edge hd.2.1) (port_edge_aggregate ha)
  rw [heq, at_home_edge hp hd h' ((portUp_edge_uplink hl).trans hup)]
  rfl

lemma at_core (hp : p.Valid) (hd : p.IsHost pod e k) (ha : a < p.h) (hc : c < p.h)
    (h : ∀ v, p.HasNode v → p.Tracks up v (nodes v))
    (hiif : p.portUp up (.core (c * p.h + a)) iif = true) (hcore : up (.aggCore pod a c) = true)
    (hedge : up (.edgeAgg pod e a) = true) :
    Nodes.forward (hostAddress pod e k) hash (ttl + 3) (.core (c * p.h + a)) iif nodes =
      ⟨[(.core (c * p.h + a), pod + 1), (.aggregate pod a, e + 1), (.edge pod e, k + 1)],
        .server (pod * p.h + e) k, .delivered⟩ := by
  have hl : p.HasLink (.aggCore pod a c) := ⟨hd.1, ha, hc⟩
  have hv : p.HasNode (.core (c * p.h + a)) := mul_add_lt hc ha
  have hu : p.HasNode (.aggregate pod a) := ⟨hd.1, ha⟩
  have hfar := isDestination_switch (v := .core (c * p.h + a)) hp hd rfl (h _ hv)
  have hans := routeInput_static (hash (ttl + 3)) iif hfar
    (through_core hp hd ha hc hcore (h _ hv))
  obtain ⟨nodes', h', -, heq⟩ := tracked_hop hp h hv hu hiif (congrArg Prod.fst hans)
    ((portUp_core hl).trans hcore) (port_core ha hd.1) (port_aggregate_core hc)
  rw [heq, at_home_aggregate hp hd ha h' ((portUp_aggregate_uplink hl).trans hcore) hedge]
  rfl

section Uplinks

variable {s : NodeStack S}

lemma wcmp_of_tracks (h : p.Tracks up v s) (hv : v.runsWcmp = true) : ∃ r, s.wcmp = some r :=
  Option.isSome_iff_exists.mp (h.runsWcmp.trans hv)

lemma Guards.usable_edge (h : p.Guards up (pod * p.h + e) (.edge q f) s) (hd : p.IsHost pod e k)
    (hv : p.HasNode (.edge q f)) (hne : ¬ (q = pod ∧ f = e)) (ha : a < p.h)
    (hu : Usable (pod * p.h + e) (p.numServers + 1 + a) s) :
    up (.edgeAgg q f a) = true ∧ up (.edgeAgg pod e a) = true := by
  obtain ⟨hup, hpos⟩ := hu
  rw [h.tracks.isUp, portUp_edge_uplink ⟨hv.1, hv.2, ha⟩] at hup
  refine ⟨hup, h.owner _ _ (mem_uplinks_edge.mpr ⟨a, ha, rfl⟩) hpos ?_⟩
  rw [Nat.add_right_comm]
  exact weightOwner_edge ⟨hd.1, hd.2.1, ha⟩ hne hv.2

lemma Guards.usable_aggregate (h : p.Guards up (pod * p.h + e) (.aggregate q a) s)
    (hd : p.IsHost pod e k) (hv : p.HasNode (.aggregate q a)) (hne : q ≠ pod) (hc : c < p.h)
    (hu : Usable (pod * p.h + e) (p.h + 1 + c) s) :
    up (.aggCore q a c) = true ∧ up (.aggCore pod a c) = true := by
  obtain ⟨hup, hpos⟩ := hu
  rw [h.tracks.isUp, portUp_aggregate_uplink ⟨hv.1, hv.2, hc⟩] at hup
  refine ⟨hup, h.owner _ _ (mem_uplinks_aggregate.mpr ⟨c, hc, rfl⟩) hpos ?_⟩
  rw [show p.h + 1 + c = c + p.h + 1 by omega]
  exact weightOwner_aggregate ⟨hd.1, hv.2, hc⟩ hne hd.2.1

lemma edge_spreads (h : p.Tracks up (.edge q f) s) (dest : Ipv4Address) (hin : iif ≤ p.numServers) :
    ∃ r, s.wcmp = some r ∧ r.Spreads dest iif (· ∈ p.uplinks (.edge q f)) := by
  obtain ⟨r, hr⟩ := wcmp_of_tracks h rfl
  refine ⟨r, hr, spreads_edge dest (h.wcmp r hr) ?_⟩
  rw [mem_uplinks_edge]
  rintro ⟨a, -, rfl⟩
  omega

lemma aggregate_spreads (hp : p.Valid) (hd : p.IsHost pod e k) (hv : p.HasNode (.aggregate q a))
    (hne : q ≠ pod) (h : p.Tracks up (.aggregate q a) s) (hin : iif ≤ p.h) :
    ∃ r, s.wcmp = some r ∧
      r.Spreads (hostAddress pod e k) iif (· ∈ p.uplinks (.aggregate q a)) := by
  obtain ⟨r, hr⟩ := wcmp_of_tracks h rfl
  refine ⟨r, hr, spreads_aggregate hp hd hv hne (h.wcmp r hr) ?_⟩
  rw [mem_uplinks_aggregate]
  rintro ⟨c, -, rfl⟩
  omega

end Uplinks

lemma leave_aggregate (hp : p.Valid) (hd : p.IsHost pod e k) (hv : p.HasNode (.aggregate q a))
    (hne : q ≠ pod) (hc : c < p.h) (h : ∀ v, p.HasNode v → p.Guards up (pod * p.h + e) v (nodes v))
    (hiif : p.portUp up (.aggregate q a) iif = true) (hedge : up (.edgeAgg pod e a) = true)
    (hu : Usable (pod * p.h + e) (p.h + 1 + c) (nodes (.aggregate q a)))
    (hans : ((nodes (.aggregate q a)).routeInput (hostAddress pod e k) (hash (ttl + 4)) iif).1 =
      .ok (.forward (p.h + 1 + c))) :
    Nodes.forward (hostAddress pod e k) hash (ttl + 4) (.aggregate q a) iif nodes =
      ⟨[(.aggregate q a, p.h + 1 + c), (.core (c * p.h + a), pod + 1), (.aggregate pod a, e + 1),
        (.edge pod e, k + 1)], .server (pod * p.h + e) k, .delivered⟩ := by
  have hfrom : p.HasLink (.aggCore q a c) := ⟨hv.1, hv.2, hc⟩
  obtain ⟨hup, hcore⟩ := (h _ hv).usable_aggregate hd hv hne hc hu
  have hport : p.portUp up (.core (c * p.h + a)) (q + 1) = true := (portUp_core hfrom).trans hup
  obtain ⟨h', heq⟩ := guarded_hop hp h hv (u := .core (c * p.h + a)) (mul_add_lt hc hv.2) hiif hans
    ((portUp_aggregate_uplink hfrom).trans hup) (port_aggregate_core hc) (port_core hv.2 hv.1)
  rw [heq, at_core hp hd hv.2 hc (fun v hv => (h' v hv).tracks) hport hcore hedge]
  rfl

lemma at_other_aggregate (hash : ℕ → ℕ) (ttl : ℕ) (hp : p.Valid) (hd : p.IsHost pod e k)
    (hv : p.HasNode (.aggregate q a)) (hne : q ≠ pod)
    (h : ∀ v, p.HasNode v → p.Guards up (pod * p.h + e) v (nodes v))
    (hiif : p.portUp up (.aggregate q a) iif = true) (hin : iif ≤ p.h)
    (hedge : up (.edgeAgg pod e a) = true) :
    (p.Stuck (pod * p.h + e) (.aggregate q a) (nodes (.aggregate q a)) ∧
      Nodes.forward (hostAddress pod e k) hash (ttl + 4) (.aggregate q a) iif nodes =
        ⟨[], .aggregate q a, .aborted (.abort "!sum")⟩) ∨
    ∃ c < p.h, Usable (pod * p.h + e) (p.h + 1 + c) (nodes (.aggregate q a)) ∧
      Nodes.forward (hostAddress pod e k) hash (ttl + 4) (.aggregate q a) iif nodes =
        ⟨[(.aggregate q a, p.h + 1 + c), (.core (c * p.h + a), pod + 1), (.aggregate pod a, e + 1),
          (.edge pod e, k + 1)], .server (pod * p.h + e) k, .delivered⟩ := by
  obtain ⟨r, hr, hspread⟩ := aggregate_spreads hp hd hv hne (h _ hv).tracks hin
  have hsome : ∃ i, i ∈ p.uplinks (.aggregate q a) :=
    ⟨_, mem_uplinks_aggregate.mpr ⟨a, hv.2, rfl⟩⟩
  rcases (h _ hv).spread hp hd rfl hr (other_aggregate hp hd hv hne (h _ hv).tracks) hspread
    hsome (hash (ttl + 4)) with ⟨hstuck, hans⟩ | ⟨i, hi, hu, hans⟩
  · refine Or.inl ⟨hstuck, Nodes.forward_abort ?_ hans⟩
    rw [(h _ hv).tracks.isUp, hiif]
  · obtain ⟨c, hc, rfl⟩ := mem_uplinks_aggregate.mp hi
    exact Or.inr ⟨c, hc, hu, leave_aggregate hp hd hv hne hc h hiif hedge hu hans⟩

lemma at_other_aggregate_hits (ttl : ℕ) (hp : p.Valid) (hd : p.IsHost pod e k)
    (hv : p.HasNode (.aggregate q a)) (hne : q ≠ pod)
    (h : ∀ v, p.HasNode v → p.Guards up (pod * p.h + e) v (nodes v))
    (hiif : p.portUp up (.aggregate q a) iif = true) (hin : iif ≤ p.h)
    (hedge : up (.edgeAgg pod e a) = true) (hc : c < p.h)
    (hu : Usable (pod * p.h + e) (p.h + 1 + c) (nodes (.aggregate q a))) :
    ∃ x, ∀ hash : ℕ → ℕ, hash (ttl + 4) = x →
      Nodes.forward (hostAddress pod e k) hash (ttl + 4) (.aggregate q a) iif nodes =
        ⟨[(.aggregate q a, p.h + 1 + c), (.core (c * p.h + a), pod + 1), (.aggregate pod a, e + 1),
          (.edge pod e, k + 1)], .server (pod * p.h + e) k, .delivered⟩ := by
  obtain ⟨r, hr, hspread⟩ := aggregate_spreads hp hd hv hne (h _ hv).tracks hin
  obtain ⟨x, hx⟩ := (h _ hv).spread_hits hp hd rfl hr (other_aggregate hp hd hv hne (h _ hv).tracks)
    hspread (mem_uplinks_aggregate.mpr ⟨c, hc, rfl⟩) hu
  refine ⟨x, fun hash hhash => ?_⟩
  subst hhash
  exact leave_aggregate hp hd hv hne hc h hiif hedge hu hx

lemma leave_edge (hash : ℕ → ℕ) (ttl : ℕ) (hp : p.Valid) (hd : p.IsHost pod e k) (hv : p.HasNode (.edge q f))
    (hne : ¬ (q = pod ∧ f = e)) (ha : a < p.h)
    (h : ∀ v, p.HasNode v → p.Guards up (pod * p.h + e) v (nodes v))
    (hiif : p.portUp up (.edge q f) iif = true)
    (hu : Usable (pod * p.h + e) (p.numServers + 1 + a) (nodes (.edge q f)))
    (hans : ((nodes (.edge q f)).routeInput dest (hash (ttl + 1)) iif).1 =
      .ok (.forward (p.numServers + 1 + a))) :
    (∀ w, p.HasNode w →
      p.Guards up (pod * p.h + e) w (nodes.visit dest (hash (ttl + 1)) iif (.edge q f) w)) ∧
    Nodes.forward dest hash (ttl + 1) (.edge q f) iif nodes =
      (Nodes.forward dest hash ttl (.aggregate q a) (f + 1)
        (nodes.visit dest (hash (ttl + 1)) iif (.edge q f))).cons (.edge q f, p.numServers + 1 + a) := by
  have hl : p.HasLink (.edgeAgg q f a) := ⟨hv.1, hv.2, ha⟩
  obtain ⟨hup, -⟩ := (h _ hv).usable_edge hd hv hne ha hu
  exact guarded_hop hp h hv (u := .aggregate q a) ⟨hv.1, ha⟩ hiif hans
    ((portUp_edge_uplink hl).trans hup) (port_edge_aggregate ha) (port_aggregate_edge hv.2)

lemma at_other_edge (hash : ℕ → ℕ) (ttl : ℕ) (hp : p.Valid) (hd : p.IsHost pod e k)
    (hv : p.HasNode (.edge q f)) (hne : ¬ (q = pod ∧ f = e))
    (h : ∀ v, p.HasNode v → p.Guards up (pod * p.h + e) v (nodes v))
    (hiif : p.portUp up (.edge q f) iif = true) (hin : iif ≤ p.numServers) :
    (p.Stuck (pod * p.h + e) (.edge q f) (nodes (.edge q f)) ∧
      Nodes.forward (hostAddress pod e k) hash (ttl + 1) (.edge q f) iif nodes =
        ⟨[], .edge q f, .aborted (.abort "!sum")⟩) ∨
    ∃ a < p.h, Usable (pod * p.h + e) (p.numServers + 1 + a) (nodes (.edge q f)) ∧
      ∃ nodes' : Nodes S, (∀ v, p.HasNode v → p.Guards up (pod * p.h + e) v (nodes' v)) ∧
        (∀ w, w ≠ .edge q f → nodes' w = nodes w) ∧
        Nodes.forward (hostAddress pod e k) hash (ttl + 1) (.edge q f) iif nodes =
          (Nodes.forward (hostAddress pod e k) hash ttl (.aggregate q a) (f + 1) nodes').cons
            (.edge q f, p.numServers + 1 + a) := by
  obtain ⟨r, hr, hspread⟩ := edge_spreads (h _ hv).tracks (hostAddress pod e k) hin
  have hsome : ∃ i, i ∈ p.uplinks (.edge q f) := ⟨_, mem_uplinks_edge.mpr ⟨f, hv.2, rfl⟩⟩
  rcases (h _ hv).spread hp hd rfl hr (other_edge hp hd hv hne (h _ hv).tracks) hspread
    hsome (hash (ttl + 1)) with ⟨hstuck, hans⟩ | ⟨i, hi, hu, hans⟩
  · refine Or.inl ⟨hstuck, Nodes.forward_abort ?_ hans⟩
    rw [(h _ hv).tracks.isUp, hiif]
  · obtain ⟨a, ha, rfl⟩ := mem_uplinks_edge.mp hi
    obtain ⟨h', heq⟩ := leave_edge hash ttl hp hd hv hne ha h hiif hu hans
    exact Or.inr ⟨a, ha, hu, _, h', fun w hw => Nodes.visit_of_ne hw, heq⟩

lemma at_other_edge_hits (ttl : ℕ) (hp : p.Valid) (hd : p.IsHost pod e k) (hv : p.HasNode (.edge q f))
    (hne : ¬ (q = pod ∧ f = e)) (h : ∀ v, p.HasNode v → p.Guards up (pod * p.h + e) v (nodes v))
    (hiif : p.portUp up (.edge q f) iif = true) (hin : iif ≤ p.numServers) (ha : a < p.h)
    (hu : Usable (pod * p.h + e) (p.numServers + 1 + a) (nodes (.edge q f))) :
    ∃ x, ∃ nodes' : Nodes S, (∀ v, p.HasNode v → p.Guards up (pod * p.h + e) v (nodes' v)) ∧
      (∀ w, w ≠ .edge q f → nodes' w = nodes w) ∧ ∀ hash : ℕ → ℕ, hash (ttl + 1) = x →
        Nodes.forward (hostAddress pod e k) hash (ttl + 1) (.edge q f) iif nodes =
          (Nodes.forward (hostAddress pod e k) hash ttl (.aggregate q a) (f + 1) nodes').cons
            (.edge q f, p.numServers + 1 + a) := by
  obtain ⟨r, hr, hspread⟩ := edge_spreads (h _ hv).tracks (hostAddress pod e k) hin
  obtain ⟨x, hx⟩ := (h _ hv).spread_hits hp hd rfl hr (other_edge hp hd hv hne (h _ hv).tracks)
    hspread (mem_uplinks_edge.mpr ⟨a, ha, rfl⟩) hu
  refine ⟨x, nodes.visit (hostAddress pod e k) x iif (.edge q f),
    (leave_edge (fun _ => x) ttl hp hd hv hne ha h hiif hu hx).1,
    fun w hw => Nodes.visit_of_ne hw, fun hash hhash => ?_⟩
  subst hhash
  exact (leave_edge hash ttl hp hd hv hne ha h hiif hu hx).2

end Arrivals

section Journeys

variable {q f j pod e k : ℕ}

inductive Walk (p : TopologyDescriptor) (nodes : Nodes S) (q f j pod e k : ℕ) : Trip → Prop
  | sameHost : q = pod → f = e → j = k →
    Walk p nodes q f j pod e k ⟨[], .server (pod * p.h + e) k, .delivered⟩
  | sameEdge : q = pod → f = e → j ≠ k →
    Walk p nodes q f j pod e k ⟨[(.server (q * p.h + f) j, 1), (.edge pod e, k + 1)],
      .server (pod * p.h + e) k, .delivered⟩
  | samePod (a : ℕ) : q = pod → f ≠ e → a < p.h →
    Usable (pod * p.h + e) (p.numServers + 1 + a) (nodes (.edge q f)) →
    Walk p nodes q f j pod e k ⟨[(.server (q * p.h + f) j, 1),
      (.edge q f, p.numServers + 1 + a), (.aggregate pod a, e + 1), (.edge pod e, k + 1)],
      .server (pod * p.h + e) k, .delivered⟩
  | overCore (a c : ℕ) : q ≠ pod → a < p.h → c < p.h →
    Usable (pod * p.h + e) (p.numServers + 1 + a) (nodes (.edge q f)) →
    Usable (pod * p.h + e) (p.h + 1 + c) (nodes (.aggregate q a)) →
    Walk p nodes q f j pod e k ⟨[(.server (q * p.h + f) j, 1),
      (.edge q f, p.numServers + 1 + a), (.aggregate q a, p.h + 1 + c),
      (.core (c * p.h + a), pod + 1), (.aggregate pod a, e + 1), (.edge pod e, k + 1)],
      .server (pod * p.h + e) k, .delivered⟩
  | stuckEdge : ¬ (q = pod ∧ f = e) → p.Stuck (pod * p.h + e) (.edge q f) (nodes (.edge q f)) →
    Walk p nodes q f j pod e k
      ⟨[(.server (q * p.h + f) j, 1)], .edge q f, .aborted (.abort "!sum")⟩
  | stuckAggregate (a : ℕ) : q ≠ pod → a < p.h →
    Usable (pod * p.h + e) (p.numServers + 1 + a) (nodes (.edge q f)) →
    p.Stuck (pod * p.h + e) (.aggregate q a) (nodes (.aggregate q a)) →
    Walk p nodes q f j pod e k ⟨[(.server (q * p.h + f) j, 1),
      (.edge q f, p.numServers + 1 + a)], .aggregate q a, .aborted (.abort "!sum")⟩

lemma send_eq (hp : p.Valid) (hs : p.IsHost q f j) (hd : p.IsHost pod e k)
    (h : ∀ v, p.HasNode v → p.Tracks up v (nodes v)) (hash : ℕ → ℕ) :
    Nodes.send (hostAddress pod e k) hash (.server (q * p.h + f) j) nodes =
      if q = pod ∧ f = e ∧ j = k then ⟨[], .server (pod * p.h + e) k, .delivered⟩
      else (Nodes.forward (hostAddress pod e k) hash 63 (.edge q f) (j + 1) nodes).cons
        (.server (q * p.h + f) j, 1) := by
  have hv : p.HasNode (.server (q * p.h + f) j) := ⟨mul_add_lt hs.1 hs.2.1, hs.2.2⟩
  have hu : p.HasNode (.edge q f) := ⟨hs.1, hs.2.1⟩
  obtain ⟨hq, hf, hj⟩ := hs.octets hp
  obtain ⟨hpod, he, hk⟩ := hd.octets hp
  have hown : ((nodes (.server (q * p.h + f) j)).addresses 1).any
      (fun a => hostAddress pod e k = a.localAddress) = decide (q = pod ∧ f = e ∧ j = k) := by
    rw [(h _ hv).addresses 1 (by rw [devices_length]; exact Nat.one_lt_two),
      address_server hs.2.1, List.any_cons, List.any_nil, Bool.or_false, decide_eq_decide, eq_comm]
    exact hostAddress_inj hq hf hj hpod he hk
  rw [Nodes.send, Nodes.sendWith, from_server hp hd (h _ hv)]
  dsimp only
  rw [(h _ hv).isUp, portUp_server, hown, receiver_eq (h _ hv).interfaces
    (h _ hu).interfaces (port_server hs.2.1) (port_edge_server hs.2.2)]
  simp only [Bool.not_true, Bool.false_eq_true, if_false, decide_eq_true_eq]
  split
  · rename_i hsame
    obtain ⟨rfl, rfl, rfl⟩ := hsame
    rfl
  · rfl

theorem send_walk (hp : p.Valid) (hs : p.IsHost q f j) (hd : p.IsHost pod e k)
    (h : ∀ v, p.HasNode v → p.Guards up (pod * p.h + e) v (nodes v)) (hash : ℕ → ℕ) :
    p.Walk nodes q f j pod e k
      (Nodes.send (hostAddress pod e k) hash (.server (q * p.h + f) j) nodes) := by
  have hv : p.HasNode (.edge q f) := ⟨hs.1, hs.2.1⟩
  have hport : p.portUp up (.edge q f) (j + 1) = true := portUp_edge_server hs.2.2
  rw [send_eq hp hs hd fun v hv => (h v hv).tracks]
  split
  · rename_i hsame
    exact .sameHost hsame.1 hsame.2.1 hsame.2.2
  · rename_i hother
    by_cases hedge : q = pod ∧ f = e
    · obtain ⟨rfl, rfl⟩ := hedge
      rw [at_home_edge hp hd (fun v hv => (h v hv).tracks) hport]
      exact .sameEdge rfl rfl fun hjk => hother ⟨rfl, rfl, hjk⟩
    · have hin : j + 1 ≤ p.numServers := hs.2.2
      rcases at_other_edge hash 62 hp hd hv hedge h hport hin with
        ⟨hstuck, heq⟩ | ⟨a, ha, hu, nodes', h', hframe, heq⟩
      · rw [heq]
        exact .stuckEdge hedge hstuck
      · obtain ⟨hfrom, hto⟩ := (h _ hv).usable_edge hd hv hedge ha hu
        have hin : p.portUp up (.aggregate q a) (f + 1) = true := by
          rw [portUp_aggregate_edge ⟨hs.1, hs.2.1, ha⟩, hfrom]
        rw [heq]
        by_cases hpod : q = pod
        · subst hpod
          rw [at_home_aggregate hp hd ha (fun v hv => (h' v hv).tracks) hin hto]
          exact .samePod a rfl (fun hfe => hedge ⟨rfl, hfe⟩) ha hu
        · have hedges : f + 1 ≤ p.h := hs.2.1
          have hsame := hframe (.aggregate q a) (by simp)
          rcases at_other_aggregate hash 58 hp hd ⟨hs.1, ha⟩ hpod h' hin hedges hto with
            ⟨hstuck, heq⟩ | ⟨c, hc, hu', heq⟩
          · rw [hsame] at hstuck
            rw [heq]
            exact .stuckAggregate a hpod ha hu hstuck
          · rw [hsame] at hu'
            rw [heq]
            exact .overCore a c hpod ha hc hu hu'

lemma Stuck.not_usable {level i : ℕ} {s : NodeStack S} (h : p.Stuck level v s) (hi : i ∈ p.uplinks v) :
    ¬ Usable level i s := by
  rintro ⟨hup, hpos⟩
  rcases h i hi with hdown | hzero
  · rw [hup] at hdown
    cases hdown
  · exact hpos hzero

theorem Walk.sent {t : Trip} (hp : p.Valid) (hs : p.IsHost q f j) (hd : p.IsHost pod e k)
    (h : ∀ v, p.HasNode v → p.Guards up (pod * p.h + e) v (nodes v))
    (ht : p.Walk nodes q f j pod e k t) :
    ∃ hash, Nodes.send (hostAddress pod e k) hash (.server (q * p.h + f) j) nodes = t := by
  have hv : p.HasNode (.edge q f) := ⟨hs.1, hs.2.1⟩
  have hport : p.portUp up (.edge q f) (j + 1) = true := portUp_edge_server hs.2.2
  have hin : j + 1 ≤ p.numServers := hs.2.2
  have hsend := send_eq hp hs hd fun v hv => (h v hv).tracks
  have hleave : ∀ a < p.h, ¬ (q = pod ∧ f = e) →
      Usable (pod * p.h + e) (p.numServers + 1 + a) (nodes (.edge q f)) →
      up (.edgeAgg pod e a) = true ∧ p.portUp up (.aggregate q a) (f + 1) = true ∧
      ∃ x, ∃ nodes' : Nodes S, (∀ v, p.HasNode v → p.Guards up (pod * p.h + e) v (nodes' v)) ∧
        (∀ w, w ≠ .edge q f → nodes' w = nodes w) ∧ ∀ hash : ℕ → ℕ, hash 63 = x →
          Nodes.forward (hostAddress pod e k) hash 63 (.edge q f) (j + 1) nodes =
            (Nodes.forward (hostAddress pod e k) hash 62 (.aggregate q a) (f + 1) nodes').cons
              (.edge q f, p.numServers + 1 + a) := by
    intro a ha hne hu
    obtain ⟨hfrom, hto⟩ := (h _ hv).usable_edge hd hv hne ha hu
    refine ⟨hto, ?_, at_other_edge_hits 62 hp hd hv hne h hport hin ha hu⟩
    rw [portUp_aggregate_edge ⟨hs.1, hs.2.1, ha⟩, hfrom]
  cases ht with
  | sameHost hq hf hj => exact ⟨fun _ => 0, by rw [hsend, if_pos ⟨hq, hf, hj⟩]⟩
  | sameEdge hq hf hj =>
    subst hq hf
    refine ⟨fun _ => 0, ?_⟩
    rw [hsend, if_neg fun hsame => hj hsame.2.2, at_home_edge hp hd (fun v hv => (h v hv).tracks) hport]
    rfl
  | samePod a hq hf ha hu =>
    subst hq
    have hne : ¬ (q = q ∧ f = e) := fun hsame => hf hsame.2
    obtain ⟨hto, hagg, x, nodes', h', -, hx⟩ := hleave a ha hne hu
    refine ⟨fun _ => x, ?_⟩
    rw [hsend, if_neg fun hsame => hf hsame.2.1, hx _ rfl,
      at_home_aggregate hp hd ha (fun v hv => (h' v hv).tracks) hagg hto]
    rfl
  | overCore a c hq ha hc hu hu' =>
    obtain ⟨hto, hagg, x, nodes', h', hframe, hx⟩ := hleave a ha (fun hsame => hq hsame.1) hu
    rw [← hframe (.aggregate q a) (by simp)] at hu'
    obtain ⟨y, hy⟩ := at_other_aggregate_hits 58 hp hd ⟨hs.1, ha⟩ hq h' hagg hs.2.1 hto hc hu'
    refine ⟨fun ttl => if ttl = 63 then x else y, ?_⟩
    rw [hsend, if_neg fun hsame => hq hsame.1, hx _ rfl, hy _ rfl]
    rfl
  | stuckEdge hne hstuck =>
    refine ⟨fun _ => 0, ?_⟩
    rw [hsend, if_neg fun hsame => hne ⟨hsame.1, hsame.2.1⟩]
    rcases at_other_edge (fun _ => 0) 62 hp hd hv hne h hport hin with ⟨-, heq⟩ | ⟨a, ha, hu, -⟩
    · rw [heq]
      rfl
    · exact (hstuck.not_usable (mem_uplinks_edge.mpr ⟨a, ha, rfl⟩) hu).elim
  | stuckAggregate a hq ha hu hstuck =>
    obtain ⟨hto, hagg, x, nodes', h', hframe, hx⟩ := hleave a ha (fun hsame => hq hsame.1) hu
    rw [← hframe (.aggregate q a) (by simp)] at hstuck
    refine ⟨fun _ => x, ?_⟩
    rw [hsend, if_neg fun hsame => hq hsame.1, hx _ rfl]
    rcases at_other_aggregate (fun _ => x) 58 hp hd ⟨hs.1, ha⟩ hq h' hagg hs.2.1 hto with
      ⟨-, heq⟩ | ⟨c, hc, hu', -⟩
    · rw [heq]
      rfl
    · exact (hstuck.not_usable (mem_uplinks_aggregate.mpr ⟨c, hc, rfl⟩) hu').elim

inductive Journey (p : TopologyDescriptor) (up : Link → Bool) (nodes : Nodes S) (q f j pod e k : ℕ) :
    Trip → Prop
  | sameHost : q = pod → f = e → j = k →
    Journey p up nodes q f j pod e k ⟨[], .server (pod * p.h + e) k, .delivered⟩
  | sameEdge : q = pod → f = e → j ≠ k →
    Journey p up nodes q f j pod e k ⟨[(.server (q * p.h + f) j, 1), (.edge pod e, k + 1)],
      .server (pod * p.h + e) k, .delivered⟩
  | samePod (a : ℕ) : q = pod → f ≠ e → a < p.h → up (.edgeAgg q f a) = true →
    up (.edgeAgg pod e a) = true →
    Journey p up nodes q f j pod e k ⟨[(.server (q * p.h + f) j, 1),
      (.edge q f, p.numServers + 1 + a), (.aggregate pod a, e + 1), (.edge pod e, k + 1)],
      .server (pod * p.h + e) k, .delivered⟩
  | overCore (a c : ℕ) : q ≠ pod → a < p.h → c < p.h → up (.edgeAgg q f a) = true →
    up (.aggCore q a c) = true → up (.aggCore pod a c) = true → up (.edgeAgg pod e a) = true →
    Journey p up nodes q f j pod e k ⟨[(.server (q * p.h + f) j, 1),
      (.edge q f, p.numServers + 1 + a), (.aggregate q a, p.h + 1 + c),
      (.core (c * p.h + a), pod + 1), (.aggregate pod a, e + 1), (.edge pod e, k + 1)],
      .server (pod * p.h + e) k, .delivered⟩
  | stuckEdge : ¬ (q = pod ∧ f = e) → p.Stuck (pod * p.h + e) (.edge q f) (nodes (.edge q f)) →
    Journey p up nodes q f j pod e k
      ⟨[(.server (q * p.h + f) j, 1)], .edge q f, .aborted (.abort "!sum")⟩
  | stuckAggregate (a : ℕ) : q ≠ pod → a < p.h → up (.edgeAgg q f a) = true →
    up (.edgeAgg pod e a) = true →
    p.Stuck (pod * p.h + e) (.aggregate q a) (nodes (.aggregate q a)) →
    Journey p up nodes q f j pod e k ⟨[(.server (q * p.h + f) j, 1),
      (.edge q f, p.numServers + 1 + a)], .aggregate q a, .aborted (.abort "!sum")⟩

lemma Walk.journey {t : Trip} (hs : p.IsHost q f j) (hd : p.IsHost pod e k)
    (h : ∀ v, p.HasNode v → p.Guards up (pod * p.h + e) v (nodes v))
    (ht : p.Walk nodes q f j pod e k t) : p.Journey up nodes q f j pod e k t := by
  have hv : p.HasNode (.edge q f) := ⟨hs.1, hs.2.1⟩
  cases ht with
  | sameHost hq hf hj => exact .sameHost hq hf hj
  | sameEdge hq hf hj => exact .sameEdge hq hf hj
  | samePod a hq hf ha hu =>
    obtain ⟨hfrom, hto⟩ := (h _ hv).usable_edge hd hv (fun hsame => hf hsame.2) ha hu
    exact .samePod a hq hf ha hfrom hto
  | overCore a c hq ha hc hu hu' =>
    obtain ⟨hfrom, hto⟩ := (h _ hv).usable_edge hd hv (fun hsame => hq hsame.1) ha hu
    obtain ⟨hup, hdown⟩ := (h (.aggregate q a) ⟨hs.1, ha⟩).usable_aggregate hd ⟨hs.1, ha⟩ hq hc hu'
    exact .overCore a c hq ha hc hfrom hup hdown hto
  | stuckEdge hne hstuck => exact .stuckEdge hne hstuck
  | stuckAggregate a hq ha hu hstuck =>
    obtain ⟨hfrom, hto⟩ := (h _ hv).usable_edge hd hv (fun hsame => hq hsame.1) ha hu
    exact .stuckAggregate a hq ha hfrom hto hstuck

theorem send_journey (hp : p.Valid) (hs : p.IsHost q f j) (hd : p.IsHost pod e k)
    (h : ∀ v, p.HasNode v → p.Mirrors up v (nodes v)) (hash : ℕ → ℕ) :
    p.Journey up nodes q f j pod e k
      (Nodes.send (hostAddress pod e k) hash (.server (q * p.h + f) j) nodes) := by
  have hguards := fun v (hv : p.HasNode v) => (h v hv).guards (mul_add_lt hd.1 hd.2.1)
  exact (send_walk hp hs hd hguards hash).journey hs hd hguards

lemma Mirrors.usable_edge {a : ℕ} (hs : p.IsHost q f j) (hd : p.IsHost pod e k)
    (hne : ¬ (q = pod ∧ f = e)) (h : p.Mirrors up (.edge q f) (nodes (.edge q f))) (ha : a < p.h)
    (hfrom : up (.edgeAgg q f a) = true) (hto : up (.edgeAgg pod e a) = true) :
    Usable (pod * p.h + e) (p.numServers + 1 + a) (nodes (.edge q f)) := by
  refine ⟨?_, fun hzero => ?_⟩
  · rw [h.tracks.isUp, portUp_edge_uplink ⟨hs.1, hs.2.1, ha⟩, hfrom]
  · obtain ⟨w, hw, -, hiff⟩ := h.weight _ _ rfl (uplinks_lt (mem_uplinks_edge.mpr ⟨a, ha, rfl⟩))
      (mul_add_lt hd.1 hd.2.1)
    rw [hzero] at hw
    obtain ⟨l, howner, hdown⟩ := hiff.mp (Option.some.inj hw).symm
    rw [Nat.add_right_comm, weightOwner_edge ⟨hd.1, hd.2.1, ha⟩ hne hs.2.1] at howner
    rw [← Option.some.inj howner, hto] at hdown
    cases hdown

lemma send_hits {a : ℕ} (hp : p.Valid) (hs : p.IsHost q f j) (hd : p.IsHost pod e k)
    (hne : ¬ (q = pod ∧ f = e)) (h : ∀ v, p.HasNode v → p.Mirrors up v (nodes v)) (ha : a < p.h)
    (hfrom : up (.edgeAgg q f a) = true) (hto : up (.edgeAgg pod e a) = true) :
    ∃ hash, (Nodes.send (hostAddress pod e k) hash (.server (q * p.h + f) j) nodes).hops[1]? =
      some (.edge q f, p.numServers + 1 + a) := by
  have hv : p.HasNode (.edge q f) := ⟨hs.1, hs.2.1⟩
  have hguards := fun v (hv : p.HasNode v) => (h v hv).guards (mul_add_lt hd.1 hd.2.1)
  have hu := (h _ hv).usable_edge hs hd hne ha hfrom hto
  obtain ⟨x, nodes', -, -, hx⟩ := at_other_edge_hits 62 hp hd hv hne hguards
    (portUp_edge_server hs.2.2) hs.2.2 ha hu
  refine ⟨fun _ => x, ?_⟩
  rw [send_eq hp hs hd fun v hv => (h v hv).tracks,
    if_neg fun hsame => hne ⟨hsame.1, hsame.2.1⟩, hx _ rfl]
  rfl

end Journeys

end TopologyDescriptor

end SwarmSim.Clos
