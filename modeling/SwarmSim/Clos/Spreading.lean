import SwarmSim.Clos.Settled
import SwarmSim.Wcmp.Hasher

/-! Which way each hash value sends a packet. A switch has its uplinks in the order of its table, and the
hash values of the two switches on the way up divide the packets among the cores. -/

namespace SwarmSim.Wcmp

open Machine Ns3

namespace WcmpStaticRouting

variable {r : WcmpStaticRouting} {i n : ℕ}

def wildcardInterfaces (r : WcmpStaticRouting) : List ℕ :=
  (r.networkRoutes.filter fun x => x.1.entry.destNetworkMask = 0).map fun x => x.1.getInterface

lemma wildcardInterfaces_congr {r' : WcmpStaticRouting} (h : r'.networkRoutes = r.networkRoutes) :
    r'.wildcardInterfaces = r.wildcardInterfaces := by
  rw [wildcardInterfaces, wildcardInterfaces, h]

lemma wildcardInterfaces_wildcard (h : i ∉ r.wildcardInterfaces) :
    (r.addWildcardRoute i 1).wildcardInterfaces = r.wildcardInterfaces ++ [i] := by
  have hnew : r.lookupRoute (.createNetworkRouteTo 0 0 i) 1 = false := by
    rw [lookupRoute, List.any_eq_false]
    intro x hx hsame
    rw [Bool.and_eq_true, decide_eq_true_eq, decide_eq_true_eq] at hsame
    apply h
    refine List.mem_map.mpr ⟨x, List.mem_filter.mpr ⟨hx, decide_eq_true ?_⟩, ?_⟩
    · rw [hsame.1]
      rfl
    · rw [EntryPtr.getInterface, hsame.1]
      rfl
  rw [addWildcardRoute, addNetworkRouteTo, hnew, if_neg Bool.false_ne_true, wildcardInterfaces,
    List.filter_append, List.map_append]
  rfl

lemma wildcardInterfaces_network {network : Ipv4Address} {mask : Ipv4Mask} {metric : ℕ} (h : mask ≠ 0) :
    (r.addNetworkRouteTo network mask i metric).wildcardInterfaces = r.wildcardInterfaces := by
  rw [addNetworkRouteTo]
  split_ifs
  · rfl
  · rw [wildcardInterfaces, List.filter_append, List.map_append, wildcardInterfaces]
    have hfilter : ([(⟨r.nextAddress, .createNetworkRouteTo network mask i⟩, metric)] :
        List (EntryPtr × ℕ)).filter (fun x => x.1.entry.destNetworkMask = 0) = [] := by
      rw [List.filter_cons_of_neg, List.filter_nil]
      exact decide_eq_true_iff.not.mpr h
    rw [hfilter, List.map_nil, List.append_nil]

lemma wildcardInterfaces_forRange (a n : ℕ) (h : r.networkRoutes = []) :
    (forRange (fun k => addWildcardRoute (a + k) 1) n r).wildcardInterfaces =
      (List.range n).map (a + ·) := by
  apply forRange_invariant (P := fun n (s : WcmpStaticRouting) => s.wildcardInterfaces = (List.range n).map (a + ·))
  · rw [wildcardInterfaces, h]
    rfl
  · intro k s _ hs
    rw [wildcardInterfaces_wildcard, hs, List.range_succ, List.map_append]
    · rfl
    · rw [hs]
      simp

end WcmpStaticRouting

end SwarmSim.Wcmp

namespace SwarmSim.Clos

open Machine Ns3 Wcmp

namespace TopologyDescriptor

variable {p : TopologyDescriptor} {S : Ipv4StaticRouting} {systemId : Node → ℕ}
  {nodes nodes' : Nodes S} {up : Link → Bool} {level i : ℕ} {v : Node} {s : NodeStack S}

section Order

def InOrder (p : TopologyDescriptor) (v : Node) (s : NodeStack S) : Prop :=
  ∀ r, s.wcmp = some r → r.wildcardInterfaces = p.uplinks v

lemma InOrder.of_wcmp {s' : NodeStack S} (h : p.InOrder v s)
    (hroutes : ∀ r', s'.wcmp = some r' → ∃ r, s.wcmp = some r ∧ r'.networkRoutes = r.networkRoutes) :
    p.InOrder v s' := by
  intro r' hr'
  obtain ⟨r, hr, hsame⟩ := hroutes r' hr'
  rw [WcmpStaticRouting.wildcardInterfaces_congr hsame]
  exact h r hr

lemma InOrder.effect (h : p.InOrder v s) (l : Link) (b : Bool) : p.InOrder v (p.effect l b v s) := by
  apply h.of_wcmp
  intro r' hr'
  cases hr : s.wcmp with
  | none =>
    rw [effect_wcmp_none hr] at hr'
    cases hr'
  | some r =>
    obtain ⟨r'', hr'', heffect⟩ := effect_wcmp (p := p) l b v hr
    obtain rfl := Option.some.inj (hr''.symm.trans hr')
    exact ⟨r, rfl, heffect.networkRoutes⟩

lemma InOrder.setInterfaceWeight (h : p.InOrder v s) (i level weight : ℕ) :
    p.InOrder v (s.modifyWcmp (·.setInterfaceWeight i level weight)) := by
  apply h.of_wcmp
  intro r' hr'
  obtain ⟨r, hr, rfl⟩ := Option.map_eq_some_iff.mp hr'
  exact ⟨r, hr, rfl⟩

lemma execute_inOrder {c : Command} (h : ∀ v, p.HasNode v → p.Tracks up v (nodes v))
    (horder : ∀ v, p.HasNode v → p.InOrder v (nodes v))
    (he : p.execute systemId c nodes = .ok nodes') : ∀ v, p.HasNode v → p.InOrder v (nodes' v) := by
  intro v hv
  obtain rfl | ⟨l, b, ⟨hl, hranks⟩, rfl⟩ | ⟨u, i, level, weight, rfl⟩ := execute_cases h he
  · exact horder v hv
  · rw [execute_link systemId b hl hranks fun v hv => (h v hv).ready.shape] at he
    obtain rfl := Except.ok.inj he
    exact (horder v hv).effect l b
  · rw [Nodes.modify_apply]
    split_ifs with hvu
    · exact (horder v hv).setInterfaceWeight i level weight
    · exact horder v hv

theorem run_inOrder (cs : List Command) (h : ∀ v, p.HasNode v → p.Tracks up v (nodes v))
    (horder : ∀ v, p.HasNode v → p.InOrder v (nodes v)) (he : p.run systemId cs nodes = .ok nodes') :
    ∀ v, p.HasNode v → p.InOrder v (nodes' v) := by
  induction cs generalizing up nodes with
  | nil =>
    obtain rfl := Except.ok.inj he
    exact horder
  | cons c cs ih =>
    obtain ⟨n, hc, he⟩ := bind_ok he
    obtain ⟨up', hn⟩ := execute_tracks h hc
    exact ih hn (execute_inOrder h horder hc) he

lemma uplinks_aggregate (hp : p.Valid) (q a : ℕ) :
    (List.range (p.switchRadix - p.h)).map (p.h + 1 + ·) = p.uplinks (.aggregate q a) := by
  have heven := Nat.div_mul_cancel hp.even
  rw [uplinks, TopologyDescriptor.h, show p.switchRadix - p.switchRadix / 2 = p.switchRadix / 2 by omega]

lemma backups_inOrder {r : WcmpStaticRouting} (q n : ℕ) :
    (forRange (fun k r => if k = q then r else r.addNetworkRouteTo (.ofOctets 10 (q % 2 ^ 8) 0 0)
      (.ofPrefix 16) (k + 1) backupPathMetric) n r).wildcardInterfaces = r.wildcardInterfaces := by
  refine forRange_preserves
    (P := fun s : WcmpStaticRouting => s.wildcardInterfaces = r.wildcardInterfaces) rfl fun k s _ hs => ?_
  split_ifs
  · exact hs
  · exact (WcmpStaticRouting.wildcardInterfaces_network (by decide)).trans hs

lemma setup_inOrder (S : Ipv4StaticRouting) (hp : p.Valid) (hv : p.HasNode v) :
    p.InOrder v (p.setupClosTopology S v) := by
  intro r hr
  cases v with
  | edge q f =>
    have hinstall : p.Wired [none] (p.address (.edge q f))
        (NodeStack.installWcmp S p.numLevels p.torLevelMapper) := wired_installWcmp rfl
    have hservers := hinstall.plug (v := .edge q f) (u := fun i => .server (q * p.h + f) i)
      (n := p.numServers) fun _ _ => rfl
    have haggs := hservers.plug (v := .edge q f) (u := fun a => .aggregate q a) (n := p.h)
      fun _ _ => rfl
    rw [setupClosTopology_edge hv.1 hv.2, forRange_addStaticRoute,
      forRange_modifyWcmp (fun k => WcmpStaticRouting.addWildcardRoute (p.numServers + 1 + k) 1)] at hr
    obtain ⟨r', hr', rfl⟩ := Option.map_eq_some_iff.mp hr
    exact WcmpStaticRouting.wildcardInterfaces_forRange _ _ (haggs.wcmp r' hr').1
  | aggregate q f =>
    have hinstall : p.Wired [none] (p.address (.aggregate q f))
        (NodeStack.installWcmp S p.numLevels p.torLevelMapper) := wired_installWcmp rfl
    have hedges := hinstall.plug (v := .aggregate q f) (u := fun e => .edge q e) (n := p.h)
      fun _ _ => rfl
    have hcores := hedges.plug (v := .aggregate q f) (u := fun i => .core (i * p.h + f)) (n := p.h)
      fun _ _ => rfl
    have hwild : ∀ r', (forRange (fun i s => plug (.aggregate q f) (.core (i * p.h + f)) s) p.h
        (forRange (fun e s => plug (.aggregate q f) (.edge q e) s) p.h
          (NodeStack.installWcmp S p.numLevels p.torLevelMapper))).wcmp = some r' →
        (forRange (fun k => WcmpStaticRouting.addWildcardRoute (p.h + 1 + k) 1) (p.switchRadix - p.h)
          r').wildcardInterfaces = p.uplinks (.aggregate q f) := by
      intro r' hr'
      rw [WcmpStaticRouting.wildcardInterfaces_forRange _ _ (hcores.wcmp r' hr').1,
        uplinks_aggregate hp]
    rw [setupClosTopology_aggregate hv.1 hv.2, forRange_addStaticRoute,
      forRange_modifyWcmp (fun k => WcmpStaticRouting.addWildcardRoute (p.h + 1 + k) 1)] at hr
    by_cases hb : p.enableEdgeBounceBackup = true
    · simp only [if_pos hb, backupLoop_eq, NodeStack.modifyWcmp, Option.map_map] at hr
      obtain ⟨r', hr', rfl⟩ := Option.map_eq_some_iff.mp hr
      exact (backups_inOrder q p.h).trans (hwild r' hr')
    · simp only [if_neg hb, NodeStack.modifyWcmp] at hr
      obtain ⟨r', hr', rfl⟩ := Option.map_eq_some_iff.mp hr
      exact hwild r' hr'
  | core | server =>
    have hnone := (setup_tracks (S := S) hv).runsWcmp
    rw [hr] at hnone
    cases hnone

end Order

section Choice

variable {r : WcmpStaticRouting} {dest : Ipv4Address} {iif pod e k q f a : ℕ}

def offered (p : TopologyDescriptor) (level : ℕ) (v : Node) (s : NodeStack S) : List (ℕ × ℕ) :=
  ((p.uplinks v).filter s.isUp).map fun i => (i, (weightAt i level s).getD 0)

def uplinkFor (p : TopologyDescriptor) (level hash : ℕ) (v : Node) (s : NodeStack S) : Option ℕ :=
  pick (hash % total (p.offered level v s)) (runningSums (2 ^ 32) 0 (p.offered level v s))

lemma mem_offered {w : ℕ} : (i, w) ∈ p.offered level v s ↔
    i ∈ p.uplinks v ∧ s.isUp i = true ∧ w = (weightAt i level s).getD 0 := by
  simp only [offered, List.mem_map, List.mem_filter, Prod.mk.injEq]
  constructor
  · rintro ⟨_, ⟨hi, hup⟩, rfl, rfl⟩
    exact ⟨hi, hup, rfl⟩
  · rintro ⟨hi, hup, rfl⟩
    exact ⟨i, ⟨hi, hup⟩, rfl, rfl⟩

lemma uplinkFor_usable {hash : ℕ} (hlt : total (p.offered level v s) < 2 ^ 32)
    (h : p.uplinkFor level hash v s = some i) : i ∈ p.uplinks v ∧ Usable level i s := by
  obtain ⟨w, hw, hpos⟩ := pick_positive (by rwa [Nat.zero_add]) (Nat.zero_le _) h
  obtain ⟨hi, hup, rfl⟩ := mem_offered.mp hw
  refine ⟨hi, hup, fun hzero => ?_⟩
  rw [hzero] at hpos
  exact absurd hpos (lt_irrefl 0)

lemma contenders_offered (hp : p.Valid) (hd : p.IsHost pod e k) (h : p.Tracks up v s)
    (horder : p.InOrder v s) (hr : s.wcmp = some r)
    (hspread : r.Spreads (hostAddress pod e k) iif (· ∈ p.uplinks v))
    (hkind : ∀ e' m, r.HasRoute e' m →
      (WcmpStaticRouting.Matches (hostAddress pod e k) e' ↔ e'.destNetworkMask = 0)) :
    (r.contenders (hostAddress pod e k) iif).map (Prod.map EntryPtr.getInterface id) =
      p.offered (pod * p.h + e) v s := by
  have htracks := h.wcmp r hr
  have hcandidates : (r.candidates (hostAddress pod e k) iif).map EntryPtr.getInterface =
      p.uplinks v := by
    rw [hspread.candidates, ← horder r hr, WcmpStaticRouting.wildcardInterfaces, List.map_map]
    refine congrArg (List.map _) (List.filter_congr fun x hx => ?_)
    exact decide_eq_decide.mpr (hkind _ _ (WcmpStaticRouting.hasRoute_of_mem hx))
  have hweight : ∀ i, r.weights.getWeight i (r.level (hostAddress pod e k)) =
      (weightAt i (pod * p.h + e) s).getD 0 := by
    intro i
    rw [htracks.weightAt_eq hp hd hr, Option.getD_some]
  rw [WcmpStaticRouting.contenders, WcmpWeights.upWeights, offered, ← hcandidates, List.filter_map,
    List.map_map, List.map_map]
  simp only [htracks.isIfUp, Function.comp_def, hweight, Prod.map_apply, id]

lemma Guards.choice (hp : p.Valid) (hd : p.IsHost pod e k) (h : p.Guards up (pod * p.h + e) v s)
    (horder : p.InOrder v s) (hsw : v.isSwitch = true) (hr : s.wcmp = some r)
    (hs : S.lookupStatic (hostAddress pod e k) s.staticRouting = none)
    (hspread : r.Spreads (hostAddress pod e k) iif (· ∈ p.uplinks v)) (hne : ∃ i, i ∈ p.uplinks v)
    (hkind : ∀ e' m, r.HasRoute e' m →
      (WcmpStaticRouting.Matches (hostAddress pod e k) e' ↔ e'.destNetworkMask = 0)) (hash : ℕ) :
    total (p.offered (pod * p.h + e) v s) < 2 ^ 32 ∧
    (s.routeInput (hostAddress pod e k) hash iif).1 =
      match p.uplinkFor (pod * p.h + e) hash v s with
      | none => .error (.abort "!sum")
      | some i => .ok (.forward i) := by
  obtain ⟨hpod, he, hk⟩ := hd.octets hp
  have htracks := h.tracks.wcmp r hr
  have hat := htracks.weightAt_eq hp hd hr
  have hoffered := contenders_offered hp hd h.tracks horder hr hspread hkind
  have hlt := hspread.offers.total_lt (htracks.length_lt hp le_rfl) fun i hi => h.weight i hi _ (hat i)
  have htotal : total (p.offered (pod * p.h + e) v s) = total (r.contenders (hostAddress pod e k) iif) := by
    rw [← hoffered, total_map]
  obtain ⟨i, hi⟩ := hne
  obtain ⟨e₀, he₀, -⟩ := hspread.offers.complete i hi
  rw [routeInput_wcmp (isDestination_switch hp hd hsw h.tracks) hs hr
    (hostAddress_not_multicast hpod he hk),
    WcmpStaticRouting.lookupWcmp_miss (by simp) (List.ne_nil_of_mem he₀)]
  refine ⟨htotal.trans_lt hlt, ?_⟩
  rw [uplinkFor, htotal]
  rcases Nat.eq_zero_or_pos (total (r.contenders (hostAddress pod e k) iif)) with hzero | hpos
  · rw [WcmpWeights.answer_zero hzero, pick_none (by norm_num) (htotal.trans hzero)]
    rfl
  · rw [WcmpWeights.answer_of_sum hlt hpos, ← hoffered, runningSums_map, pick_map]
    obtain ⟨en, hen⟩ := WcmpWeights.pick_up hlt hpos hash
    rw [hen]
    rfl

lemma edge_choice (hp : p.Valid) (hd : p.IsHost pod e k) (hv : p.HasNode (.edge q f))
    (hne : ¬(q = pod ∧ f = e)) (h : p.Guards up (pod * p.h + e) (.edge q f) s)
    (horder : p.InOrder (.edge q f) s) (hin : iif ≤ p.numServers) (hash : ℕ) :
    total (p.offered (pod * p.h + e) (.edge q f) s) < 2 ^ 32 ∧
    (s.routeInput (hostAddress pod e k) hash iif).1 =
      match p.uplinkFor (pod * p.h + e) hash (.edge q f) s with
      | none => .error (.abort "!sum")
      | some i => .ok (.forward i) := by
  obtain ⟨r, hr, hspread⟩ := edge_spreads h.tracks (hostAddress pod e k) hin
  have hkind : ∀ e' m, r.HasRoute e' m →
      (WcmpStaticRouting.Matches (hostAddress pod e k) e' ↔ e'.destNetworkMask = 0) := by
    intro e' m hroute
    obtain ⟨a, -, rfl, -⟩ := ((h.tracks.wcmp r hr).routes e' m).mp hroute
    exact iff_of_true (matches_wildcard _ _) rfl
  exact h.choice hp hd horder rfl hr (other_edge hp hd hv hne h.tracks) hspread
    ⟨_, mem_uplinks_edge.mpr ⟨f, hv.2, rfl⟩⟩ hkind hash

lemma aggregate_choice (hp : p.Valid) (hd : p.IsHost pod e k) (hv : p.HasNode (.aggregate q a))
    (hne : q ≠ pod) (h : p.Guards up (pod * p.h + e) (.aggregate q a) s)
    (horder : p.InOrder (.aggregate q a) s) (hin : iif ≤ p.h) (hash : ℕ) :
    total (p.offered (pod * p.h + e) (.aggregate q a) s) < 2 ^ 32 ∧
    (s.routeInput (hostAddress pod e k) hash iif).1 =
      match p.uplinkFor (pod * p.h + e) hash (.aggregate q a) s with
      | none => .error (.abort "!sum")
      | some i => .ok (.forward i) := by
  obtain ⟨hpod, he, hk⟩ := hd.octets hp
  obtain ⟨r, hr, hspread⟩ := aggregate_spreads hp hd hv hne h.tracks hin
  have hkind : ∀ e' m, r.HasRoute e' m →
      (WcmpStaticRouting.Matches (hostAddress pod e k) e' ↔ e'.destNetworkMask = 0) := by
    intro e' m hroute
    rcases ((h.tracks.wcmp r hr).routes e' m).mp hroute with ⟨c, -, rfl, -⟩ | ⟨-, c, -, -, -, rfl⟩
    · exact iff_of_true (matches_wildcard _ _) rfl
    · have hmask : Ipv4Mask.ofPrefix 16 ≠ 0 := by decide
      refine iff_of_false (fun hmatch => hne ?_) hmask
      exact (backup_matches hpod he hk (hv.1.trans_le hp.podOctet)).mp hmatch
  exact h.choice hp hd horder rfl hr (other_aggregate hp hd hv hne h.tracks) hspread
    ⟨_, mem_uplinks_aggregate.mpr ⟨a, hv.2, rfl⟩⟩ hkind hash

end Choice

section Ways

variable {q f j pod e k a c : ℕ}

/-- The trip of a packet to another ToR, with the hash values at the edge and at the aggregate. -/
def wayOf (p : TopologyDescriptor) (nodes : Nodes S) (q f j pod e k x y : ℕ) : Trip :=
  match p.uplinkFor (pod * p.h + e) x (.edge q f) (nodes (.edge q f)) with
  | none => ⟨[(.server (q * p.h + f) j, 1)], .edge q f, .aborted (.abort "!sum")⟩
  | some i =>
    let a := i - (p.numServers + 1)
    if q = pod then
      ⟨[(.server (q * p.h + f) j, 1), (.edge q f, i), (.aggregate pod a, e + 1),
        (.edge pod e, k + 1)], .server (pod * p.h + e) k, .delivered⟩
    else
      match p.uplinkFor (pod * p.h + e) y (.aggregate q a) (nodes (.aggregate q a)) with
      | none => ⟨[(.server (q * p.h + f) j, 1), (.edge q f, i)], .aggregate q a,
          .aborted (.abort "!sum")⟩
      | some i' =>
        ⟨[(.server (q * p.h + f) j, 1), (.edge q f, i), (.aggregate q a, i'),
          (.core ((i' - (p.h + 1)) * p.h + a), pod + 1), (.aggregate pod a, e + 1),
          (.edge pod e, k + 1)], .server (pod * p.h + e) k, .delivered⟩

theorem send_wayOf (hp : p.Valid) (hs : p.IsHost q f j) (hd : p.IsHost pod e k)
    (hne : ¬(q = pod ∧ f = e)) (h : ∀ v, p.HasNode v → p.Guards up (pod * p.h + e) v (nodes v))
    (horder : ∀ v, p.HasNode v → p.InOrder v (nodes v)) (hash : ℕ → ℕ) :
    Nodes.send (hostAddress pod e k) hash (.server (q * p.h + f) j) nodes =
      p.wayOf nodes q f j pod e k (hash 63) (hash 62) := by
  have hv : p.HasNode (.edge q f) := ⟨hs.1, hs.2.1⟩
  have hport : p.portUp up (.edge q f) (j + 1) = true := portUp_edge_server hs.2.2
  obtain ⟨hlt, hans⟩ := edge_choice hp hd hv hne (h _ hv) (horder _ hv)
    (Nat.succ_le_of_lt hs.2.2) (hash 63)
  rw [send_eq hp hs hd fun v hv => (h v hv).tracks, if_neg fun hsame => hne ⟨hsame.1, hsame.2.1⟩, wayOf]
  cases hedge : p.uplinkFor (pod * p.h + e) (hash 63) (.edge q f) (nodes (.edge q f)) with
  | none =>
    rw [hedge] at hans
    rw [Nodes.forward_abort ((h _ hv).tracks.isUp _ ▸ hport) hans]
    rfl
  | some i =>
    rw [hedge] at hans
    obtain ⟨hi, hu⟩ := uplinkFor_usable hlt hedge
    obtain ⟨a, ha, rfl⟩ := mem_uplinks_edge.mp hi
    obtain ⟨hfrom, hto⟩ := (h _ hv).usable_edge hd hv hne ha hu
    obtain ⟨h', heq⟩ := leave_edge hash 62 hp hd hv hne ha h hport hu hans
    have hin : p.portUp up (.aggregate q a) (f + 1) = true :=
      (portUp_aggregate_edge ⟨hs.1, hs.2.1, ha⟩).trans hfrom
    rw [heq]
    simp only [Nat.add_sub_cancel_left]
    by_cases hpod : q = pod
    · subst hpod
      rw [at_home_aggregate hp hd ha (fun v hv => (h' v hv).tracks) hin hto, if_pos rfl]
      rfl
    · rw [if_neg hpod]
      have hagg : p.HasNode (.aggregate q a) := ⟨hs.1, ha⟩
      have hsame : nodes.visit (hostAddress pod e k) (hash 63) (j + 1) (.edge q f) (.aggregate q a) =
        nodes (.aggregate q a) := Nodes.visit_of_ne (by simp)
      obtain ⟨hlt', hans'⟩ := aggregate_choice hp hd hagg hpod (h' _ hagg)
        (hsame ▸ horder _ hagg) (Nat.succ_le_of_lt hs.2.1) (hash 62)
      rw [hsame] at hlt' hans'
      cases hcore : p.uplinkFor (pod * p.h + e) (hash 62) (.aggregate q a) (nodes (.aggregate q a)) with
      | none =>
        rw [hcore] at hans'
        rw [Nodes.forward_abort ((h' _ hagg).tracks.isUp _ ▸ hin) (hsame ▸ hans')]
        rfl
      | some i' =>
        rw [hcore] at hans'
        obtain ⟨hi', hu'⟩ := uplinkFor_usable hlt' hcore
        obtain ⟨c, hc, rfl⟩ := mem_uplinks_aggregate.mp hi'
        rw [leave_aggregate hp hd hagg hpod hc h' hin hto (hsame ▸ hu') (hsame ▸ hans')]
        simp only [Nat.add_sub_cancel_left]
        rfl

def weightUp (level i : ℕ) (s : NodeStack S) : ℕ :=
  if s.isUp i = true then (weightAt i level s).getD 0 else 0

lemma uplinks_nodup (p : TopologyDescriptor) (v : Node) : (p.uplinks v).Nodup := by
  cases v with
  | edge q f => exact List.nodup_range.map fun a b hab => Nat.add_left_cancel hab
  | aggregate q a => exact List.nodup_range.map fun a b hab => Nat.add_left_cancel hab
  | core | server => exact List.nodup_nil

lemma share_offered (hi : i ∈ p.uplinks v) : share i (p.offered level v s) = weightUp level i s := by
  rw [offered, share_map _ ((uplinks_nodup p v).filter _), weightUp]
  simp only [List.mem_filter, hi, true_and]

lemma core_mem_wayOf {x y : ℕ} (hedge : total (p.offered (pod * p.h + e) (.edge q f) (nodes (.edge q f))) < 2 ^ 32)
    (hagg : ∀ a < p.h,
      total (p.offered (pod * p.h + e) (.aggregate q a) (nodes (.aggregate q a))) < 2 ^ 32)
    (hne : q ≠ pod) (ha : a < p.h) (hc : c < p.h) :
    .core (c * p.h + a) ∈ (p.wayOf nodes q f j pod e k x y).visited ↔
      p.uplinkFor (pod * p.h + e) x (.edge q f) (nodes (.edge q f)) = some (p.numServers + 1 + a) ∧
      p.uplinkFor (pod * p.h + e) y (.aggregate q a) (nodes (.aggregate q a)) = some (p.h + 1 + c) := by
  rw [wayOf]
  cases hup : p.uplinkFor (pod * p.h + e) x (.edge q f) (nodes (.edge q f)) with
  | none => simp [Trip.visited]
  | some i =>
    obtain ⟨hi, -⟩ := uplinkFor_usable hedge hup
    obtain ⟨a', ha', rfl⟩ := mem_uplinks_edge.mp hi
    simp only [Nat.add_sub_cancel_left, if_neg hne, Option.some.injEq, Nat.add_right_inj]
    cases hup' : p.uplinkFor (pod * p.h + e) y (.aggregate q a') (nodes (.aggregate q a')) with
    | none =>
      refine iff_of_false (by simp [Trip.visited]) ?_
      rintro ⟨rfl, hcore⟩
      cases hup'.symm.trans hcore
    | some i' =>
      obtain ⟨hi', -⟩ := uplinkFor_usable (hagg a' ha') hup'
      obtain ⟨c', hc', rfl⟩ := mem_uplinks_aggregate.mp hi'
      have hmem : .core (c * p.h + a) ∈ (Trip.mk [(.server (q * p.h + f) j, 1),
          (.edge q f, p.numServers + 1 + a'), (.aggregate q a', p.h + 1 + c'),
          (.core (c' * p.h + a'), pod + 1), (.aggregate pod a', e + 1), (.edge pod e, k + 1)]
          (.server (pod * p.h + e) k) .delivered).visited ↔ c * p.h + a = c' * p.h + a' := by
        simp [Trip.visited]
      simp only [Nat.add_sub_cancel_left]
      rw [hmem]
      constructor
      · intro hsame
        obtain ⟨rfl, rfl⟩ := (mul_add_inj ha ha').mp hsame
        exact ⟨rfl, hup'⟩
      · rintro ⟨rfl, hcore⟩
        obtain rfl := Nat.add_left_cancel (Option.some.inj (hup'.symm.trans hcore))
        rfl

/-- The hash values of the switches of a packet: `x` at the first, `y` at the others. -/
def twoHashes (x y ttl : ℕ) : ℕ := if ttl = Nodes.defaultTtl - 1 then x else y

lemma script_inOrder {cs : List Command} (hp : p.Valid)
    (hrun : p.run systemId cs (p.setupClosTopology S) = .ok nodes) :
    ∀ v, p.HasNode v → p.InOrder v (nodes v) :=
  run_inOrder cs (fun _ hv => setup_tracks hv) (fun _ hv => setup_inOrder S hp hv) hrun

/-- After every script that gives no weight towards a dead end, the pairs of hash values at the edge and
at the aggregate are divided among the cores as the weights of the two uplinks multiply. -/
theorem script_divides (S : Ipv4StaticRouting) (systemId : Node → ℕ) (cs : List Command)
    (nodes : Nodes S) (hp : p.Valid) (hrun : p.run systemId cs (p.setupClosTopology S) = .ok nodes)
    (hcs : p.CarefulFrom (fun _ => true) cs) (tor host tor' host' : ℕ)
    (hv : p.HasNode (.server tor host)) (hv' : p.HasNode (.server tor' host'))
    (hne : tor / p.h ≠ tor' / p.h) (a c n m : ℕ) (ha : a < p.h) (hc : c < p.h) :
    let edge := .edge (tor / p.h) (tor % p.h)
    let agg := .aggregate (tor / p.h) a
    ∃ dest, getServerAddress (p.setupClosTopology S) tor' host' = some dest ∧
      ((Finset.Ico n (n + total (p.offered tor' edge (nodes edge))) ×ˢ
          Finset.Ico m (m + total (p.offered tor' agg (nodes agg)))).filter fun x =>
        .core (c * p.h + a) ∈
          (Nodes.send dest (twoHashes x.1 x.2) (.server tor host) nodes).visited).card =
        weightUp tor' (p.numServers + 1 + a) (nodes edge) * weightUp tor' (p.h + 1 + c) (nodes agg) := by
  intro edge agg
  obtain ⟨hs, hsrc⟩ := isHost_of_hasNode hv
  obtain ⟨hd, hdst⟩ := isHost_of_hasNode hv'
  have hguards := script_guards hp hcs hrun hv'.1
  have horder := script_inOrder hp hrun
  refine ⟨_, getServerAddress_setup S hv', ?_⟩
  rw [← hdst] at hguards
  have hnodeEdge : p.HasNode edge := ⟨hs.1, hs.2.1⟩
  have hnodeAgg : ∀ a < p.h, p.HasNode (.aggregate (tor / p.h) a) := fun a ha => ⟨hs.1, ha⟩
  have hedge := (edge_choice hp hd hnodeEdge (fun hsame => hne hsame.1) (hguards _ hnodeEdge)
    (horder _ hnodeEdge) (Nat.zero_le _) 0).1
  have hagg := fun a ha => (aggregate_choice hp hd (hnodeAgg a ha) hne (hguards _ (hnodeAgg a ha))
    (horder _ (hnodeAgg a ha)) (Nat.zero_le _) 0).1
  have hsend := fun hash => send_wayOf hp hs hd (fun hsame => hne hsame.1) hguards horder hash
  rw [hsrc] at hsend
  have hcore : ∀ x : ℕ × ℕ, .core (c * p.h + a) ∈ (Nodes.send (hostAddress (tor' / p.h) (tor' % p.h) host')
      (twoHashes x.1 x.2) (.server tor host) nodes).visited ↔
      p.uplinkFor tor' x.1 edge (nodes edge) = some (p.numServers + 1 + a) ∧
        p.uplinkFor tor' x.2 agg (nodes agg) = some (p.h + 1 + c) := by
    intro x
    rw [hsend, core_mem_wayOf hedge hagg hne ha hc, hdst]
    rfl
  rw [hdst] at hedge hagg
  have hshareEdge := card_pick_window hedge n (p.numServers + 1 + a)
  have hshareAgg := card_pick_window (hagg a ha) m (p.h + 1 + c)
  rw [share_offered (mem_uplinks_edge.mpr ⟨a, ha, rfl⟩)] at hshareEdge
  rw [share_offered (mem_uplinks_aggregate.mpr ⟨c, hc, rfl⟩)] at hshareAgg
  rw [← hshareEdge, ← hshareAgg, ← Finset.card_product]
  apply congrArg Finset.card
  ext x
  rw [Finset.mem_filter, Finset.mem_product, Finset.mem_product, Finset.mem_filter, Finset.mem_filter,
    hcore]
  exact and_and_and_comm

end Ways

section Fresh

variable {q f a c x : ℕ}

lemma isUp_setup (S : Ipv4StaticRouting) (hv : p.HasNode v) (hi : i ∈ p.uplinks v) :
    (p.setupClosTopology S v).isUp i = true := by
  have hall : (p.portLink v i).all (fun _ => true) = true := by
    cases p.portLink v i <;> rfl
  rw [(setup_tracks (S := S) hv).isUp i, portUp, hall, Bool.and_true]
  exact decide_eq_true (uplinks_lt hi)

lemma weightAt_setup (S : Ipv4StaticRouting) (hp : p.Valid) (hv : p.HasNode v)
    (hlevel : level < p.numPods * p.h) (hi : i ∈ p.uplinks v) :
    weightAt i level (p.setupClosTopology S v) = some defaultWcmpWeight := by
  refine (fresh_setup S (fits_of_valid hp) hp.even).weight v i level hv ?_ (uplinks_lt hi) hlevel
  cases v with
  | edge | aggregate => rfl
  | core | server => cases hi

lemma offered_setup (S : Ipv4StaticRouting) (hp : p.Valid) (hv : p.HasNode v)
    (hlevel : level < p.numPods * p.h) :
    p.offered level v (p.setupClosTopology S v) =
      (p.uplinks v).map fun i => (i, defaultWcmpWeight) := by
  rw [offered, List.filter_eq_self.mpr fun i hi => isUp_setup S hv hi]
  apply List.map_congr_left
  intro i hi
  rw [weightAt_setup S hp hv hlevel hi, Option.getD_some]

lemma weightUp_setup (S : Ipv4StaticRouting) (hp : p.Valid) (hv : p.HasNode v)
    (hlevel : level < p.numPods * p.h) (hi : i ∈ p.uplinks v) :
    weightUp level i (p.setupClosTopology S v) = defaultWcmpWeight := by
  rw [weightUp, if_pos (isUp_setup S hv hi), weightAt_setup S hp hv hlevel hi, Option.getD_some]

lemma uplinkFor_setup (S : Ipv4StaticRouting) (hp : p.Valid) (hv : p.HasNode v)
    (hlevel : level < p.numPods * p.h) (hlen : (p.uplinks v).length = p.h) (x : ℕ) :
    p.uplinkFor level x v (p.setupClosTopology S v) =
      (p.uplinks v)[x % (p.h * defaultWcmpWeight) / defaultWcmpWeight]? := by
  have hh := hp.edgeOctet
  rw [uplinkFor, offered_setup S hp hv hlevel, total_uniform, hlen,
    pick_uniform (by decide) (by rw [hlen, defaultWcmpWeight]; omega) (Nat.zero_le _), Nat.sub_zero]

lemma getElem?_ports {n b a m : ℕ} (ha : a < n) :
    ((List.range n).map (b + ·))[m]? = some (b + a) ↔ m = a := by
  rw [List.getElem?_map]
  constructor
  · intro h
    obtain ⟨m', hm, hsame⟩ := Option.map_eq_some_iff.mp h
    obtain ⟨hlt, rfl⟩ := List.getElem?_eq_some_iff.mp hm
    rw [List.getElem_range] at hsame
    exact Nat.add_left_cancel hsame
  · rintro rfl
    rw [List.getElem?_range ha, Option.map_some]

lemma uplinkFor_edge_setup (S : Ipv4StaticRouting) (hp : p.Valid) (hv : p.HasNode (.edge q f))
    (hlevel : level < p.numPods * p.h) (ha : a < p.h) :
    p.uplinkFor level x (.edge q f) (p.setupClosTopology S (.edge q f)) = some (p.numServers + 1 + a) ↔
      x % (p.h * defaultWcmpWeight) / defaultWcmpWeight = a := by
  rw [uplinkFor_setup S hp hv hlevel (by simp [uplinks])]
  exact getElem?_ports ha

lemma uplinkFor_aggregate_setup (S : Ipv4StaticRouting) (hp : p.Valid)
    (hv : p.HasNode (.aggregate q a)) (hlevel : level < p.numPods * p.h) (hc : c < p.h) :
    p.uplinkFor level x (.aggregate q a) (p.setupClosTopology S (.aggregate q a)) = some (p.h + 1 + c) ↔
      x % (p.h * defaultWcmpWeight) / defaultWcmpWeight = c := by
  rw [uplinkFor_setup S hp hv hlevel (by simp [uplinks])]
  exact getElem?_ports hc

theorem script_divides_fresh :
    ∃ dest, getServerAddress (twoPods.setupClosTopology listStaticRouting) 2 0 = some dest ∧
      ((Finset.Ico 0 200 ×ˢ Finset.Ico 0 200).filter fun x => .core (1 * 2 + 0) ∈
        (Nodes.send dest (twoHashes x.1 x.2) (.server 0 0)
          (twoPods.setupClosTopology listStaticRouting)).visited).card = 10000 := by
  have hedge : twoPods.HasNode (.edge (0 / twoPods.h) (0 % twoPods.h)) := ⟨by decide, by decide⟩
  have hagg : twoPods.HasNode (.aggregate (0 / twoPods.h) 0) := ⟨by decide, by decide⟩
  have hlevel : 2 < twoPods.numPods * twoPods.h := by decide
  have hcores := script_divides listStaticRouting (fun _ => 0) [] _ twoPods_valid rfl trivial 0 0 2 0
    ⟨by decide, by decide⟩ ⟨by decide, by decide⟩ (by decide) 0 1 0 0 (by decide) (by decide)
  dsimp only at hcores
  rw [offered_setup listStaticRouting twoPods_valid hedge hlevel,
    offered_setup listStaticRouting twoPods_valid hagg hlevel,
    weightUp_setup listStaticRouting twoPods_valid hedge hlevel (by decide),
    weightUp_setup listStaticRouting twoPods_valid hagg hlevel (by decide), total_uniform,
    total_uniform] at hcores
  exact hcores

end Fresh

section Polarized

variable {q f j pod e k a c x y : ℕ}

def HashedBy (getHash32 : List Byte → BitVec 32) (hasher : Node → WcmpHasher) (packet : HashedPacket)
    (hash : ℕ → ℕ) (t : Trip) : Prop :=
  ∀ ttl v, t.visited[Nodes.defaultTtl - ttl]? = some v → v.runsWcmp = true →
    hash ttl = ((hasher v).getHash getHash32 packet).toNat

lemma wayOf_visited {nodes : Nodes S} (hne : q ≠ pod)
    (h : p.uplinkFor (pod * p.h + e) x (.edge q f) (nodes (.edge q f)) = some (p.numServers + 1 + a)) :
    (p.wayOf nodes q f j pod e k x y).visited[1]? = some (.edge q f) ∧
      (p.wayOf nodes q f j pod e k x y).visited[2]? = some (.aggregate q a) := by
  rw [wayOf, h]
  simp only [Nat.add_sub_cancel_left, if_neg hne]
  cases p.uplinkFor (pod * p.h + e) y (.aggregate q a) (nodes (.aggregate q a)) with
  | none => exact ⟨rfl, rfl⟩
  | some i => exact ⟨rfl, rfl⟩

lemma send_setup (S : Ipv4StaticRouting) (hp : p.Valid) (hs : p.IsHost q f j) (hd : p.IsHost pod e k)
    (hne : q ≠ pod) (hlevel : pod * p.h + e < p.numPods * p.h) (hash : ℕ → ℕ) :
    Nodes.send (hostAddress pod e k) hash (.server (q * p.h + f) j) (p.setupClosTopology S) =
      p.wayOf (p.setupClosTopology S) q f j pod e k (hash 63) (hash 62) :=
  send_wayOf hp hs hd (fun hsame => hne hsame.1)
    (script_guards hp (show p.CarefulFrom _ [] from trivial)
      (show p.run (fun _ => 0) [] _ = .ok _ from rfl) hlevel)
    (fun _ hv => setup_inOrder S hp hv) hash

lemma core_mem_setup (S : Ipv4StaticRouting) (hp : p.Valid) (hv : p.HasNode (.edge q f)) (hne : q ≠ pod)
    (hlevel : pod * p.h + e < p.numPods * p.h) (ha : a < p.h) (hc : c < p.h) :
    .core (c * p.h + a) ∈ (p.wayOf (p.setupClosTopology S) q f j pod e k x y).visited ↔
      x % (p.h * defaultWcmpWeight) / defaultWcmpWeight = a ∧
        y % (p.h * defaultWcmpWeight) / defaultWcmpWeight = c := by
  have hh := hp.edgeOctet
  have hlt : ∀ v, p.HasNode v → (p.uplinks v).length = p.h →
      total (p.offered (pod * p.h + e) v (p.setupClosTopology S v)) < 2 ^ 32 := by
    intro v hv hlen
    rw [offered_setup S hp hv hlevel, total_uniform, hlen, defaultWcmpWeight]
    omega
  rw [core_mem_wayOf (hlt _ hv (by simp [uplinks])) (fun a ha => hlt _ ⟨hv.1, ha⟩ (by simp [uplinks]))
    hne ha hc, uplinkFor_edge_setup S hp hv hlevel ha,
    uplinkFor_aggregate_setup S hp ⟨hv.1, ha⟩ hlevel hc]

lemma ticket_index (ha : a < p.h) :
    a * defaultWcmpWeight % (p.h * defaultWcmpWeight) / defaultWcmpWeight = a := by
  rw [Nat.mod_eq_of_lt (Nat.mul_lt_mul_of_pos_right ha (by decide)), Nat.mul_div_cancel _ (by decide)]

variable {getHash32 : List Byte → BitVec 32} {hasher : Node → WcmpHasher} {packet : HashedPacket}
  {alg : HashAlg} {hash : ℕ → ℕ}

lemma HashedBy.uncovered {t : Trip} {v u : Node} {n m : ℕ}
    (h : HashedBy getHash32 hasher packet hash t) (halg : ∀ v, (hasher v).hashAlgorithm = alg)
    (hcover : alg.covers packet.protocol = false) (hv : t.visited[Nodes.defaultTtl - n]? = some v)
    (hu : t.visited[Nodes.defaultTtl - m]? = some u) (hrv : v.runsWcmp = true)
    (hru : u.runsWcmp = true) : hash n = hash m := by
  have hinput : ∀ v, (hasher v).hashInput packet =
      serialize packet.source ++ serialize packet.destination := by
    intro v
    apply WcmpHasher.hashInput_uncovered
    rwa [halg v]
  rw [h n v hv hrv, h m u hu hru, WcmpHasher.getHash_hashInput, WcmpHasher.getHash_hashInput, hinput,
    hinput]

def splitHash (h : WcmpHasher) (packet : HashedPacket) (x y : ℕ) (bytes : List Byte) : BitVec 32 :=
  if bytes = h.hashInput packet then BitVec.ofNat 32 x else BitVec.ofNat 32 y

lemma getHash_splitHash {h h' : WcmpHasher} (hx : x < 2 ^ 32) (hy : y < 2 ^ 32)
    (hsplit : h'.hashInput packet = h.hashInput packet → x = y) :
    (h.getHash (splitHash h packet x y) packet).toNat = x ∧
      (h'.getHash (splitHash h packet x y) packet).toNat = y := by
  constructor
  · rw [WcmpHasher.getHash_hashInput, splitHash, if_pos rfl, BitVec.toNat_ofNat, Nat.mod_eq_of_lt hx]
  · rw [WcmpHasher.getHash_hashInput, splitHash]
    split_ifs with hsame
    · rw [BitVec.toNat_ofNat, Nat.mod_eq_of_lt hx, hsplit hsame]
    · rw [BitVec.toNat_ofNat, Nat.mod_eq_of_lt hy]

def hashOf (getHash32 : List Byte → BitVec 32) (hasher : Node → WcmpHasher) (packet : HashedPacket) (t : Trip)
    (ttl : ℕ) : ℕ :=
  (t.visited[Nodes.defaultTtl - ttl]?).elim 0 fun v => ((hasher v).getHash getHash32 packet).toNat

lemma hashOf_at {t : Trip} {v : Node} {n : ℕ} (h : t.visited[Nodes.defaultTtl - n]? = some v) :
    hashOf getHash32 hasher packet t n = ((hasher v).getHash getHash32 packet).toNat := by
  rw [hashOf, h, Option.elim_some]

/-- A packet to another pod can reach every core if the hash covers its ports. If it does not, the
switches on the way up agree on the hash value, and the core has the same index among the cores of an
aggregate as the aggregate has in its pod. -/
theorem core_reached_iff (S : Ipv4StaticRouting) (hp : p.Valid) (hasher : Node → WcmpHasher) (alg : HashAlg)
    (halg : ∀ v, (hasher v).hashAlgorithm = alg) (packet : HashedPacket) (tor host tor' host' : ℕ)
    (hv : p.HasNode (.server tor host)) (hv' : p.HasNode (.server tor' host'))
    (hne : tor / p.h ≠ tor' / p.h)
    (hdest : getServerAddress (p.setupClosTopology S) tor' host' = some packet.destination)
    (hsalt : ∀ a < p.h, (hasher (.edge (tor / p.h) (tor % p.h))).salt ≠
      (hasher (.aggregate (tor / p.h) a)).salt)
    (a c : ℕ) (ha : a < p.h) (hc : c < p.h) :
    (∃ getHash32 hash, let t := Nodes.send packet.destination hash (.server tor host) (p.setupClosTopology S)
      HashedBy getHash32 hasher packet hash t ∧ .core (c * p.h + a) ∈ t.visited) ↔
      alg.covers packet.protocol = true ∨ c = a := by
  obtain ⟨hs, hsrc⟩ := isHost_of_hasNode hv
  obtain ⟨hd, hdst⟩ := isHost_of_hasNode hv'
  have hedge : p.HasNode (.edge (tor / p.h) (tor % p.h)) := ⟨hs.1, hs.2.1⟩
  have hlevel : tor' / p.h * p.h + tor' % p.h < p.numPods * p.h := by
    rw [hdst]
    exact hv'.1
  have hpacket : packet.destination = hostAddress (tor' / p.h) (tor' % p.h) host' :=
    Option.some.inj (hdest.symm.trans (getServerAddress_setup S hv'))
  have hsend := fun hash => send_setup S hp hs hd hne hlevel hash
  rw [hsrc, ← hpacket] at hsend
  simp only [hsend]
  have hcore := fun x y => core_mem_setup (j := host) (k := host') (x := x) (y := y) S hp hedge hne hlevel ha hc
  constructor
  · rintro ⟨getHash32, hash, hhashed, hmem⟩
    obtain ⟨hindex, hindex'⟩ := (hcore _ _).mp hmem
    obtain ⟨hfirst, hsecond⟩ := wayOf_visited (j := host) (k := host') (y := hash 62) hne
      ((uplinkFor_edge_setup S hp hedge hlevel ha).mpr hindex)
    rw [or_iff_not_imp_left, Bool.not_eq_true]
    intro hcover
    have hsame : hash 63 = hash 62 := hhashed.uncovered halg hcover hfirst hsecond rfl rfl
    rw [← hindex, ← hindex', hsame]
  · intro hcover
    have hh := hp.edgeOctet
    have hfits : ∀ i < p.h, i * defaultWcmpWeight < 2 ^ 32 := by
      intro i hi
      rw [defaultWcmpWeight]
      omega
    let edge := hasher (.edge (tor / p.h) (tor % p.h))
    let agg := hasher (.aggregate (tor / p.h) a)
    have hsplit : agg.hashInput packet = edge.hashInput packet →
        a * defaultWcmpWeight = c * defaultWcmpWeight := by
      intro hinput
      rcases hcover with hcover | rfl
      · have hseparates := (WcmpHasher.separates_iff packet edge).mpr (by rwa [halg])
        have hagree := (hseparates packet agg (by rw [halg, halg]) hinput.symm).2.2.1
        exact (hsalt a ha hagree).elim
      · rfl
    obtain ⟨hx, hy⟩ := getHash_splitHash (hfits a ha) (hfits c hc) hsplit
    let trip := p.wayOf (p.setupClosTopology S) (tor / p.h) (tor % p.h) host (tor' / p.h) (tor' % p.h)
      host' (a * defaultWcmpWeight) (c * defaultWcmpWeight)
    let getHash32 := splitHash edge packet (a * defaultWcmpWeight) (c * defaultWcmpWeight)
    obtain ⟨hfirst, hsecond⟩ := wayOf_visited (j := host) (k := host') (y := c * defaultWcmpWeight) hne
      ((uplinkFor_edge_setup S hp hedge hlevel ha).mpr (ticket_index ha))
    have hat : hashOf getHash32 hasher packet trip 63 = a * defaultWcmpWeight := (hashOf_at hfirst).trans hx
    have hat' : hashOf getHash32 hasher packet trip 62 = c * defaultWcmpWeight :=
      (hashOf_at hsecond).trans hy
    refine ⟨getHash32, hashOf getHash32 hasher packet trip, ?_, ?_⟩
    · rw [hat, hat']
      exact fun ttl v hvisited _ => hashOf_at hvisited
    · rw [hat, hat', hcore]
      exact ⟨ticket_index ha, ticket_index hc⟩

theorem core_reached_iff_ping :
    let hasher : Node → WcmpHasher := fun v => ⟨.ipTcpUdp, if v = .edge 0 0 then 0 else 1⟩
    let ping : HashedPacket := ⟨.ofOctets 10 0 0 1, .ofOctets 10 1 0 1, 1, ⟨0, 0⟩, ⟨0, 0⟩⟩
    ¬ ∃ getHash32 hash,
      let t := Nodes.send ping.destination hash (.server 0 0) (twoPods.setupClosTopology listStaticRouting)
      HashedBy getHash32 hasher ping hash t ∧ .core (1 * 2 + 0) ∈ t.visited := by
  intro hasher ping
  have hdest : getServerAddress (twoPods.setupClosTopology listStaticRouting) 2 0 =
      some ping.destination :=
    (getServerAddress_setup listStaticRouting ⟨by decide, by decide⟩).trans (by decide)
  have hreached := core_reached_iff listStaticRouting twoPods_valid hasher .ipTcpUdp (fun _ => rfl) ping
    0 0 2 0 ⟨by decide, by decide⟩ ⟨by decide, by decide⟩ (by decide) hdest (by decide) 0 1 (by decide)
    (by decide)
  exact hreached.not.mpr (by decide)

end Polarized

end TopologyDescriptor

end SwarmSim.Clos
