import SwarmSim.Clos.Fabric
import SwarmSim.Clos.Wiring
import SwarmSim.Wcmp.Interfaces

namespace SwarmSim.Clos

open Machine Ns3 Wcmp

namespace TopologyDescriptor

variable {p : TopologyDescriptor} {S : Ipv4StaticRouting}

structure Wired (p : TopologyDescriptor) (devs : List (Option NetDevice))
    (addr : ℕ → Ipv4InterfaceAddress) (s : NodeStack S) : Prop where
  interfaces : s.interfaces = devs
  isUp (i : ℕ) : s.isUp i = decide (i < devs.length)
  addresses (i : ℕ) : s.addresses i = if i < devs.length then [addr i] else []
  static (r : StaticRoute) : S.Has s.staticRouting r ↔
    ∃ i < devs.length, (addr i).hasNetwork = true ∧ r = (addr i).connectedRoute i
  wcmp (r : WcmpStaticRouting) : s.wcmp = some r → r.networkRoutes = [] ∧
    r.weights.levels = p.numLevels ∧ r.levelMapper = some p.torLevelMapper ∧
    ∀ i, ((r.weights.states i).isSome ↔ i < devs.length) ∧
      r.weights.isIfUp i = decide (i < devs.length)

variable {devs : List (Option NetDevice)} {addr : ℕ → Ipv4InterfaceAddress} {s : NodeStack S}

lemma wired_install (ha : addr 0 = loopbackAddress) :
    p.Wired [none] addr (NodeStack.install S) := by
  refine ⟨rfl, fun i => ?_, fun i => ?_, fun r => ?_, fun r h => nomatch h⟩
  · simp [NodeStack.install]
  · by_cases h : i = 0
    · subst h; simp [NodeStack.install, ha]
    · simp [NodeStack.install, h]
  · simp [NodeStack.install, S.has_up, S.has_empty, ha]

lemma setIpv4_loopback (r : WcmpStaticRouting) :
    r.setIpv4 1 (fun i => i = 0) = r.notifyInterfaceUp 0 true := by
  simp [WcmpStaticRouting.setIpv4, WcmpWeights.reset, forRange_succ]

lemma wired_installWcmp (ha : addr 0 = loopbackAddress) :
    p.Wired [none] addr (NodeStack.installWcmp S p.numLevels p.torLevelMapper) := by
  obtain ⟨hdevs, hup, haddr, hstatic, -⟩ := wired_install (p := p) (S := S) ha
  refine ⟨hdevs, hup, haddr, hstatic, fun r hr => ?_⟩
  obtain rfl := Option.some.inj hr
  rw [setIpv4_loopback]
  refine ⟨rfl, notifyInterfaceUp_levels _ _ _, rfl, fun i => ⟨?_, ?_⟩⟩
  · rw [notifyInterfaceUp_states]
    simp [WcmpStaticRouting.new, WcmpWeights.new]
  · rw [notifyInterfaceUp_isIfUp]
    by_cases h : i = 0
    · simp [h]
    · simp [h, WcmpStaticRouting.new, WcmpWeights.new, WcmpWeights.isIfUp]

lemma Wired.connect {d : Option NetDevice} {a : Ipv4InterfaceAddress} (h : p.Wired devs addr s)
    (ha : addr devs.length = a) : p.Wired (devs ++ [d]) addr (s.connect d a) := by
  have hlen : s.interfaces.length = devs.length := by rw [h.interfaces]
  have hdown : s.isUp devs.length = false := by
    rw [h.isUp, decide_eq_false_iff_not]
    exact lt_irrefl _
  have hnone : s.addresses devs.length = [] := by rw [h.addresses, if_neg (lt_irrefl _)]
  have hsplit : ∀ i, i < (devs ++ [d]).length ↔ i = devs.length ∨ i < devs.length := by
    intro i
    rw [List.length_append, List.length_singleton, Nat.lt_succ_iff_lt_or_eq, or_comm]
  rw [NodeStack.connect, hlen]
  refine ⟨?_, fun i => ?_, fun i => ?_, fun r => ?_, fun r hr => ?_⟩
  · simp only [NodeStack.setUp, NodeStack.addAddress, NodeStack.addInterface, h.interfaces]
  · simp only [NodeStack.setUp, NodeStack.addAddress, NodeStack.addInterface, hsplit]
    by_cases hi : i = devs.length
    · subst hi
      simp
    · simp [hi, h.isUp]
  · simp only [NodeStack.setUp, NodeStack.addAddress, NodeStack.addInterface, hsplit]
    by_cases hi : i = devs.length
    · subst hi
      simp [hnone, ha]
    · simp [hi, h.addresses]
  · simp only [NodeStack.setUp, NodeStack.addAddress, NodeStack.addInterface, hdown, hnone,
      Function.update_self, S.addAddress_down, S.has_up, h.static, hsplit, List.nil_append,
      List.mem_singleton, exists_eq_left, or_and_right, exists_or, ha]
    exact or_comm
  · simp only [NodeStack.setUp, NodeStack.addAddress, NodeStack.addInterface, Option.map_map,
      Option.map_eq_some_iff, Function.comp_apply, hdown] at hr
    obtain ⟨r', hr', rfl⟩ := hr
    obtain ⟨hroutes, hlevels, hmapper, hstates⟩ := h.wcmp r' hr'
    refine ⟨hroutes, ?_, hmapper, fun i => ⟨?_, ?_⟩⟩
    · rw [notifyInterfaceUp_levels]
      exact (WcmpWeights.addInterface_levels _ _ _).trans hlevels
    · rw [notifyInterfaceUp_states, notifyAddAddress_states, (hstates i).1, hsplit]
      tauto
    · rw [notifyInterfaceUp_isIfUp]
      by_cases hi : i = devs.length
      · simp [hi]
      · rw [if_neg hi, WcmpStaticRouting.notifyAddAddress, WcmpWeights.addInterface_isIfUp _ _ hi,
          (hstates i).2]
        simp only [hsplit, hi, false_or]

lemma Wired.plug {v : Node} {u : ℕ → Node} {n : ℕ} (h : p.Wired devs addr s)
    (ha : ∀ i, i < n → addr (devs.length + i) = loopbackAddress) :
    p.Wired (devs ++ (List.range n).map fun i => some ⟨v, u i⟩) addr
      (forRange (fun i s => TopologyDescriptor.plug v (u i) s) n s) := by
  induction n with
  | zero => simpa using h
  | succ n ih =>
    have hn := ih fun i hi => ha i (hi.trans n.lt_succ_self)
    rw [forRange_succ, List.range_succ, List.map_append, ← List.append_assoc]
    apply hn.connect
    rw [List.length_append, List.length_map, List.length_range]
    exact ha n n.lt_succ_self

section Routes

structure Adds (R : Ipv4RoutingTableEntry → ℕ → Prop) (n : ℕ)
    (f : WcmpStaticRouting → WcmpStaticRouting) : Prop where
  hasRoute (r : WcmpStaticRouting) (e : Ipv4RoutingTableEntry) (m : ℕ) :
    (f r).HasRoute e m ↔ R e m ∨ r.HasRoute e m
  length (r : WcmpStaticRouting) : (f r).networkRoutes.length ≤ r.networkRoutes.length + n
  weights (r : WcmpStaticRouting) : (f r).weights = r.weights
  levelMapper (r : WcmpStaticRouting) : (f r).levelMapper = r.levelMapper

lemma adds_id : Adds (fun _ _ => False) 0 id :=
  ⟨fun _ _ _ => by simp, fun _ => le_rfl, fun _ => rfl, fun _ => rfl⟩

lemma adds_addNetworkRouteTo (network : Ipv4Address) (mask : Ipv4Mask) (i metric : ℕ) :
    Adds (fun e m => e = .createNetworkRouteTo network mask i ∧ m = metric) 1
      (·.addNetworkRouteTo network mask i metric) :=
  ⟨fun r e m => addNetworkRouteTo_hasRoute r _ _ _ _ e m, fun r => addNetworkRouteTo_length r _ _ _ _,
    fun r => (addNetworkRouteTo_frame r _ _ _ _).2.1, fun r => (addNetworkRouteTo_frame r _ _ _ _).2.2⟩

lemma Adds.comp {R R' : Ipv4RoutingTableEntry → ℕ → Prop} {n n' : ℕ}
    {f g : WcmpStaticRouting → WcmpStaticRouting} (hf : Adds R n f) (hg : Adds R' n' g) :
    Adds (fun e m => R e m ∨ R' e m) (n + n') (fun r => f (g r)) := by
  refine ⟨fun r e m => ?_, fun r => ?_, fun r => ?_, fun r => ?_⟩
  · rw [hf.hasRoute, hg.hasRoute, or_assoc]
  · have h := hf.length (g r)
    have h' := hg.length r
    omega
  · rw [hf.weights, hg.weights]
  · rw [hf.levelMapper, hg.levelMapper]

lemma Adds.mono {R R' : Ipv4RoutingTableEntry → ℕ → Prop} {n n' : ℕ}
    {f : WcmpStaticRouting → WcmpStaticRouting} (h : Adds R n f) (hR : ∀ e m, R e m ↔ R' e m)
    (hn : n ≤ n') : Adds R' n' f :=
  ⟨fun r e m => by rw [h.hasRoute, hR], fun r => (h.length r).trans (by omega), h.weights,
    h.levelMapper⟩

lemma adds_forRange {R : ℕ → Ipv4RoutingTableEntry → ℕ → Prop}
    {f : ℕ → WcmpStaticRouting → WcmpStaticRouting} (hf : ∀ k, Adds (R k) 1 (f k)) (n : ℕ) :
    Adds (fun e m => ∃ k < n, R k e m) n (forRange f n) := by
  induction n with
  | zero => exact adds_id.mono (fun e m => by simp) le_rfl
  | succ n ih =>
    refine ((hf n).comp ih).mono (fun e m => ?_) (by omega)
    rw [Nat.exists_lt_succ_right, or_comm]

lemma adds_wildcards (a n : ℕ) :
    Adds (fun e m => ∃ k < n, e = .createNetworkRouteTo 0 0 (a + k) ∧ m = 1) n
      (forRange (fun k => WcmpStaticRouting.addWildcardRoute (a + k) 1) n) :=
  adds_forRange (fun k => adds_addNetworkRouteTo 0 0 (a + k) 1) n

lemma adds_backups (q n : ℕ) : Adds (fun e m => ∃ k < n, k ≠ q ∧ m = backupPathMetric ∧
      e = .createNetworkRouteTo (.ofOctets 10 (q % 2 ^ 8) 0 0) (.ofPrefix 16) (k + 1)) n
    (forRange (fun k r => if k = q then r else r.addNetworkRouteTo (.ofOctets 10 (q % 2 ^ 8) 0 0)
      (.ofPrefix 16) (k + 1) backupPathMetric) n) := by
  apply adds_forRange
  intro k
  by_cases hk : k = q
  · simp only [if_pos hk]
    exact adds_id.mono (fun e m => by simp [hk]) (by omega)
  · simp only [if_neg hk]
    exact (adds_addNetworkRouteTo _ _ _ _).mono (fun e m => by simp [hk, and_comm]) le_rfl

lemma Wired.tracks {v : Node} {t : S.Table} {f : WcmpStaticRouting → WcmpStaticRouting} {n : ℕ}
    (h : p.Wired (p.devices v) (p.address v) s)
    (ht : ∀ r, S.Has t r ↔ p.IsRoute v r ∨ S.Has s.staticRouting r)
    (hf : Adds (p.IsWcmpRoute v) n f) (hn : n ≤ p.switchRadix + p.switchRadix)
    (hv : s.wcmp.isSome = v.runsWcmp) :
    p.Tracks (fun _ => true) v { s with staticRouting := t, wcmp := s.wcmp.map f } := by
  have hup : ∀ i, p.portUp (fun _ => true) v i = decide (i < (p.devices v).length) := by
    intro i
    rw [portUp]
    cases p.portLink v i <;> simp
  refine ⟨h.interfaces, fun i => ?_, fun i hi => ?_, fun i hi hn => ?_, fun r hr _ => ?_,
    fun r hr => ?_, ?_, fun r hr => ?_⟩
  · rw [hup]
    exact h.isUp i
  · exact (h.addresses i).trans (if_pos hi)
  · rw [hup, decide_eq_true_eq] at hi
    exact (ht _).mpr (Or.inr ((h.static _).mpr ⟨i, hi, hn, rfl⟩))
  · exact (ht r).mpr (Or.inl hr)
  · rcases (ht r).mp hr with hr | hr
    · exact Or.inl hr
    · obtain ⟨i, _, _, hi⟩ := (h.static r).mp hr
      exact Or.inr ⟨i, hi⟩
  · rw [Option.isSome_map, hv]
  · obtain ⟨r', hr', rfl⟩ := Option.map_eq_some_iff.mp hr
    obtain ⟨hroutes, hlevels, hmapper, hstates⟩ := h.wcmp r' hr'
    refine ⟨?_, ?_, fun i => ?_, fun i => ?_, fun e m => ?_, ?_⟩
    · rw [hf.weights, hlevels]
    · rw [hf.levelMapper, hmapper]
    · rw [hf.weights, (hstates i).1]
    · rw [hf.weights, (hstates i).2]
      exact (h.isUp i).symm
    · rw [hf.hasRoute, or_iff_left]
      rintro ⟨a, ha⟩
      rw [hroutes] at ha
      cases ha
    · have hlen := hf.length r'
      rw [hroutes, List.length_nil] at hlen
      omega

lemma Wired.tracks_plain {v : Node} {t : S.Table} (h : p.Wired (p.devices v) (p.address v) s)
    (ht : ∀ r, S.Has t r ↔ p.IsRoute v r ∨ S.Has s.staticRouting r) (hv : v.runsWcmp = false)
    (hs : s.wcmp.isSome = false) : p.Tracks (fun _ => true) v { s with staticRouting := t } := by
  have hroutes : ∀ e m, False ↔ p.IsWcmpRoute v e m := by
    cases v with
    | core | server => exact fun _ _ => Iff.rfl
    | aggregate | edge => cases hv
  have htracks := h.tracks ht (adds_id.mono hroutes le_rfl) (Nat.zero_le _) (by rw [hs, hv])
  rwa [Option.map_id, id] at htracks

end Routes

section SetupState

lemma connect_isSome (d : Option NetDevice) (a : Ipv4InterfaceAddress) (s : NodeStack S) :
    (s.connect d a).wcmp.isSome = s.wcmp.isSome := by
  simp only [NodeStack.connect, NodeStack.setUp, NodeStack.addAddress, NodeStack.addInterface,
    Option.isSome_map]

lemma plug_isSome (v : Node) (u : ℕ → Node) (n : ℕ) (s : NodeStack S) :
    (forRange (fun i s => plug v (u i) s) n s).wcmp.isSome = s.wcmp.isSome :=
  forRange_preserves (P := fun m : NodeStack S => m.wcmp.isSome = s.wcmp.isSome) rfl
    fun _ m _ hm => (connect_isSome _ _ m).trans hm

lemma setup_tracks_edge {q f : ℕ} (hq : q < p.numPods) (hf : f < p.h) :
    p.Tracks (fun _ => true) (.edge q f) (p.setupClosTopology S (.edge q f)) := by
  have hinstall : p.Wired [none] (p.address (.edge q f))
      (NodeStack.installWcmp S p.numLevels p.torLevelMapper) := wired_installWcmp rfl
  have hservers := hinstall.plug (v := .edge q f) (u := fun i => .server (q * p.h + f) i)
    (n := p.numServers) fun _ _ => rfl
  have haggs := hservers.plug (v := .edge q f) (u := fun a => .aggregate q a) (n := p.h)
    fun _ _ => rfl
  have hdevs : [none] ++ (List.range p.numServers).map (fun i =>
      some (⟨.edge q f, .server (q * p.h + f) i⟩ : NetDevice)) ++
      (List.range p.h).map (fun a => some ⟨.edge q f, .aggregate q a⟩) = p.devices (.edge q f) := by
    simp [devices, remotes, List.map_append, List.map_map, Function.comp_def]
  rw [hdevs] at haggs
  rw [setupClosTopology_edge hq hf, forRange_addStaticRoute,
    forRange_modifyWcmp (fun k => WcmpStaticRouting.addWildcardRoute (p.numServers + 1 + k) 1)]
  refine haggs.tracks (fun r => ?_) (adds_wildcards (p.numServers + 1) p.h) ?_ ?_
  · exact has_forRange (hostRoute q f) _ _ r
  · have := Nat.div_le_self p.switchRadix 2
    rw [TopologyDescriptor.h]
    omega
  · rw [plug_isSome, plug_isSome]
    rfl

lemma backupLoop_eq (q n : ℕ) (s : NodeStack S) :
    forRange (fun k s => if k = q then s else addBackupRoute q k s) n s =
      s.modifyWcmp (forRange (fun k r => if k = q then r else r.addNetworkRouteTo
        (.ofOctets 10 (q % 2 ^ 8) 0 0) (.ofPrefix 16) (k + 1) backupPathMetric) n) := by
  rw [← forRange_modifyWcmp]
  apply forRange_congr
  intro k s _
  split
  · rw [NodeStack.modifyWcmp, Option.map_id_fun', id]
  · rfl

lemma setup_tracks_aggregate {q f : ℕ} (hq : q < p.numPods) (hf : f < p.h) :
    p.Tracks (fun _ => true) (.aggregate q f) (p.setupClosTopology S (.aggregate q f)) := by
  have hinstall : p.Wired [none] (p.address (.aggregate q f))
      (NodeStack.installWcmp S p.numLevels p.torLevelMapper) := wired_installWcmp rfl
  have hedges := hinstall.plug (v := .aggregate q f) (u := fun e => .edge q e) (n := p.h)
    fun _ _ => rfl
  have hcores := hedges.plug (v := .aggregate q f) (u := fun i => .core (i * p.h + f)) (n := p.h)
    fun _ _ => rfl
  have hdevs : [none] ++ (List.range p.h).map (fun e =>
      some (⟨.aggregate q f, .edge q e⟩ : NetDevice)) ++
      (List.range p.h).map (fun i => some ⟨.aggregate q f, .core (i * p.h + f)⟩) =
        p.devices (.aggregate q f) := by
    simp [devices, remotes, List.map_append, List.map_map, Function.comp_def]
  have hsome : (forRange (fun i s => plug (.aggregate q f) (.core (i * p.h + f)) s) p.h
      (forRange (fun e s => plug (.aggregate q f) (.edge q e) s) p.h
        (NodeStack.installWcmp S p.numLevels p.torLevelMapper))).wcmp.isSome = true := by
    rw [plug_isSome, plug_isSome]
    rfl
  have hwild := adds_wildcards (p.h + 1) (p.switchRadix - p.h)
  have hle := Nat.div_le_self p.switchRadix 2
  rw [hdevs] at hcores
  rw [setupClosTopology_aggregate hq hf, forRange_addStaticRoute,
    forRange_modifyWcmp (fun k => WcmpStaticRouting.addWildcardRoute (p.h + 1 + k) 1)]
  by_cases hb : p.enableEdgeBounceBackup = true
  · simp only [if_pos hb, backupLoop_eq, NodeStack.modifyWcmp, Option.map_map]
    refine hcores.tracks (fun r => has_forRange (torRoute q) _ _ r)
      (((adds_backups q p.h).comp hwild).mono (fun e m => ?_) le_rfl) ?_ hsome
    · simp only [IsWcmpRoute, hb, true_and]
      exact or_comm
    · rw [TopologyDescriptor.h]
      omega
  · simp only [if_neg hb, NodeStack.modifyWcmp]
    refine hcores.tracks (fun r => has_forRange (torRoute q) _ _ r)
      (hwild.mono (fun e m => ?_) le_rfl) ?_ hsome
    · simp only [IsWcmpRoute, hb, false_and, or_false, Bool.false_eq_true]
    · omega

lemma setup_tracks_core {k f : ℕ} (hk : k < p.h) (hf : f < p.h) :
    p.Tracks (fun _ => true) (.core (k * p.h + f)) (p.setupClosTopology S (.core (k * p.h + f))) := by
  have hinstall : p.Wired [none] (p.address (.core (k * p.h + f))) (NodeStack.install S) :=
    wired_install rfl
  have haggs := hinstall.plug (v := .core (k * p.h + f)) (u := fun q => .aggregate q f)
    (n := p.numPods) fun _ _ => rfl
  have hdevs : [none] ++ (List.range p.numPods).map (fun q =>
      some (⟨.core (k * p.h + f), .aggregate q f⟩ : NetDevice)) = p.devices (.core (k * p.h + f)) := by
    simp [devices, remotes, List.map_map, Function.comp_def, Nat.mod_eq_of_lt hf]
  rw [hdevs] at haggs
  rw [setupClosTopology_core hk hf, forRange_addStaticRoute]
  refine haggs.tracks_plain (fun r => has_forRange podRoute _ _ r) rfl ?_
  rw [plug_isSome]
  rfl

lemma setup_tracks_server {q f k : ℕ} (hq : q < p.numPods) (hf : f < p.h) (hk : k < p.numServers) :
    p.Tracks (fun _ => true) (.server (q * p.h + f) k)
      (p.setupClosTopology S (.server (q * p.h + f) k)) := by
  have hdiv : (q * p.h + f) / p.h = q := mul_add_div hf
  have hmod : (q * p.h + f) % p.h = f := mul_add_mod hf
  have hinstall : p.Wired [none] (p.address (.server (q * p.h + f) k)) (NodeStack.install S) :=
    wired_install rfl
  have hedge := hinstall.connect (d := some ⟨.server (q * p.h + f) k, .edge q f⟩)
    (a := serverNetwork q f (k + 1)) (by simp only [List.length_singleton, address, hdiv, hmod])
  have hdevs : [none] ++ [some (⟨.server (q * p.h + f) k, .edge q f⟩ : NetDevice)] =
      p.devices (.server (q * p.h + f) k) := by
    simp [devices, remotes, hdiv, hmod]
  rw [hdevs] at hedge
  rw [setupClosTopology_server hq hf hk, NodeStack.addStaticRoute]
  exact hedge.tracks_plain (fun r => S.has_add _ r _) rfl (connect_isSome _ _ _)

theorem setup_tracks {v : Node} (hv : p.HasNode v) :
    p.Tracks (fun _ => true) v (p.setupClosTopology S v) := by
  cases v with
  | core c =>
    have hc : c < p.h * p.h := hv
    have hpos : 0 < p.h := Nat.pos_of_ne_zero fun h0 => by simp [h0] at hc
    have h := setup_tracks_core (p := p) (S := S) (Nat.div_lt_of_lt_mul hc) (Nat.mod_lt c hpos)
    rwa [Nat.div_add_mod'] at h
  | aggregate q a => exact setup_tracks_aggregate hv.1 hv.2
  | edge q f => exact setup_tracks_edge hv.1 hv.2
  | server t k =>
    obtain ⟨ht, hk⟩ : t < p.numPods * p.h ∧ k < p.numServers := hv
    have hpos : 0 < p.h := Nat.pos_of_ne_zero fun h0 => by simp [h0] at ht
    have h := setup_tracks_server (p := p) (S := S) (k := k)
      (Nat.div_lt_of_lt_mul (by rwa [Nat.mul_comm])) (Nat.mod_lt t hpos) hk
    rwa [Nat.div_add_mod'] at h

end SetupState

section Weights

def Defaulted (p : TopologyDescriptor) (s : NodeStack S) : Prop :=
  ∀ r, s.wcmp = some r → r.weights.Holds p.numLevels fun _ _ => defaultWcmpWeight

lemma numLevels_le (p : TopologyDescriptor) : p.numLevels ≤ 2 ^ 16 :=
  (Nat.mod_lt _ (by positivity)).le

lemma defaulted_installWcmp :
    p.Defaulted (NodeStack.installWcmp S p.numLevels p.torLevelMapper) := by
  intro r hr
  obtain rfl := Option.some.inj hr
  exact setIpv4_holds (numLevels_le p) (by norm_num) fun _ => rfl

lemma Defaulted.connect (h : p.Defaulted s) (d : Option NetDevice) (a : Ipv4InterfaceAddress)
    (hlen : s.interfaces.length < 2 ^ 16) : p.Defaulted (s.connect d a) := by
  intro r hr
  simp only [NodeStack.connect, NodeStack.setUp, NodeStack.addAddress, NodeStack.addInterface,
    Option.map_map, Option.map_eq_some_iff, Function.comp_apply] at hr
  obtain ⟨r', hr', rfl⟩ := hr
  have hadd := (h r' hr').addInterface (numLevels_le p) hlen (s.isUp s.interfaces.length)
  exact (hadd.addInterface (numLevels_le p) hlen true).setState (WcmpWeights.addInterface_self _ _ _) true

lemma connect_length (d : Option NetDevice) (a : Ipv4InterfaceAddress) (s : NodeStack S) :
    (s.connect d a).interfaces.length = s.interfaces.length + 1 :=
  List.length_append

lemma plug_length (v : Node) (u : ℕ → Node) (n : ℕ) (s : NodeStack S) :
    (forRange (fun i s => plug v (u i) s) n s).interfaces.length = s.interfaces.length + n := by
  induction n with
  | zero => rfl
  | succ n ih =>
    rw [forRange_succ]
    exact (connect_length _ _ _).trans (by rw [ih, Nat.add_assoc])

lemma Defaulted.plug {v : Node} {u : ℕ → Node} {n : ℕ} (h : p.Defaulted s)
    (hlen : s.interfaces.length + n ≤ 2 ^ 16) :
    p.Defaulted (forRange (fun i s => TopologyDescriptor.plug v (u i) s) n s) := by
  induction n with
  | zero => exact h
  | succ n ih =>
    rw [forRange_succ]
    refine (ih (by omega)).connect _ _ ?_
    rw [plug_length]
    omega

lemma Defaulted.modifyWcmp {R : Ipv4RoutingTableEntry → ℕ → Prop} {n : ℕ}
    {f : WcmpStaticRouting → WcmpStaticRouting} (h : p.Defaulted s) (hf : Adds R n f) :
    p.Defaulted (s.modifyWcmp f) := by
  intro r hr
  obtain ⟨r', hr', rfl⟩ := Option.map_eq_some_iff.mp hr
  rw [hf.weights]
  exact h r' hr'

lemma setup_defaulted_edge {q f : ℕ} (hq : q < p.numPods) (hf : f < p.h)
    (hlen : (p.devices (.edge q f)).length ≤ 2 ^ 16) :
    p.Defaulted (p.setupClosTopology S (.edge q f)) := by
  have hlen' : 1 + p.numServers + p.h ≤ 2 ^ 16 := by
    simp [devices, remotes] at hlen
    omega
  rw [setupClosTopology_edge hq hf, forRange_addStaticRoute,
    forRange_modifyWcmp (fun k => WcmpStaticRouting.addWildcardRoute (p.numServers + 1 + k) 1)]
  refine Defaulted.modifyWcmp ?_ (adds_wildcards (p.numServers + 1) p.h)
  refine (defaulted_installWcmp.plug ?_).plug ?_
  · exact (Nat.le_add_right _ _).trans hlen'
  · rw [plug_length]
    exact hlen'

lemma setup_defaulted_aggregate {q f : ℕ} (hq : q < p.numPods) (hf : f < p.h)
    (hlen : (p.devices (.aggregate q f)).length ≤ 2 ^ 16) :
    p.Defaulted (p.setupClosTopology S (.aggregate q f)) := by
  have hlen' : 1 + p.h + p.h ≤ 2 ^ 16 := by
    simp [devices, remotes] at hlen
    omega
  have hbase : p.Defaulted (forRange (fun k s => s.modifyWcmp (·.addWildcardRoute (p.h + 1 + k) 1))
      (p.switchRadix - p.h) (forRange (fun i s => s.addStaticRoute (torRoute q i)) p.h
        (forRange (fun i s => TopologyDescriptor.plug (.aggregate q f) (.core (i * p.h + f)) s) p.h
          (forRange (fun e s => TopologyDescriptor.plug (.aggregate q f) (.edge q e) s) p.h
            (NodeStack.installWcmp S p.numLevels p.torLevelMapper))))) := by
    rw [forRange_addStaticRoute,
      forRange_modifyWcmp (fun k => WcmpStaticRouting.addWildcardRoute (p.h + 1 + k) 1)]
    refine Defaulted.modifyWcmp ?_ (adds_wildcards (p.h + 1) (p.switchRadix - p.h))
    refine (defaulted_installWcmp.plug ?_).plug ?_
    · exact (Nat.le_add_right _ _).trans hlen'
    · rw [plug_length]
      exact hlen'
  rw [setupClosTopology_aggregate hq hf]
  split
  · refine forRange_preserves hbase fun k s _ hs => ?_
    split
    · exact hs
    · exact hs.modifyWcmp (adds_addNetworkRouteTo _ _ _ _)
  · exact hbase

end Weights

end TopologyDescriptor

end SwarmSim.Clos
