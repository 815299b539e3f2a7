import SwarmSim.Clos.Delivery

namespace SwarmSim.Clos

open Machine Ns3 Wcmp

namespace TopologyDescriptor

variable {S : Ipv4StaticRouting}

/-- The rest of the way of a packet for host `k` of edge `e`, from aggregate `a` on: to another edge
of the pod, from there to another aggregate, and to the host, past no switch of the pod twice. -/
structure Bounced (p : TopologyDescriptor) (pod e a k : ℕ) (t : Trip) : Prop where
  detour : ∃ f b rest, f ≠ e ∧ b ≠ a ∧
    t.visited = .aggregate pod a :: .edge pod f :: .aggregate pod b :: rest
  once : (t.visited.filter fun v => v.pod = some pod).Nodup
  fate : t.fate = .delivered
  last : t.last = .server (pod * p.h + e) k

/-- Four more hops are what the way takes. A host's packet has 60 when it leaves its first core. -/
def BackupsBounce (p : TopologyDescriptor) (pod e a : ℕ) (nodes : Nodes S) : Prop :=
  ∀ k < p.numServers, ∀ c < p.h, ∀ hash ttl, p.Bounced pod e a k
    (Nodes.forward (hostAddress pod e k) hash (ttl + 4) (.aggregate pod a) (p.h + 1 + c) nodes)

def downOnly (l : Link) : Link → Bool := Function.update (fun _ => true) l false

structure Unmitigated (p : TopologyDescriptor) (l : Link) (v : Node) (s : NodeStack S) : Prop where
  tracks : p.Tracks (downOnly l) v s
  withdrawn (r : StaticRoute) : S.Has s.staticRouting r → ¬ p.IsEnd l v r.interface
  weight (i level : ℕ) : v.runsWcmp = true → i < (p.devices v).length → level < p.numPods * p.h →
    weightAt i level s = some defaultWcmpWeight

variable {p : TopologyDescriptor} {nodes : Nodes S} {up : Link → Bool} {l : Link} {v : Node}
  {s : NodeStack S} {pod e a f k : ℕ}

section Disabled

lemma setEnds_down_frame (l : Link) (v : Node) (s : NodeStack S) :
    (p.setEnds false l v s).interfaces = (p.effect l false v s).interfaces ∧
      (p.setEnds false l v s).isUp = (p.effect l false v s).isUp ∧
      (p.setEnds false l v s).addresses = (p.effect l false v s).addresses ∧
      (p.setEnds false l v s).staticRouting = (p.effect l false v s).staticRouting := by
  obtain ⟨hi, hu, ha, hs⟩ := reweigh_frame (p := p) 0 l v (p.setEnds false l v s)
  exact ⟨hi.symm, hu.symm, ha.symm, hs.symm⟩

lemma wcmp_of_setEnds {r' : WcmpStaticRouting} (h : p.Tracks up v s)
    (hr' : (p.setEnds false l v s).wcmp = some r') :
    ∃ r, s.wcmp = some r ∧ p.WcmpTracks v s.isUp r := by
  have hsome := setEnds_isSome (p := p) l false v s
  rw [hr', Option.isSome_some, eq_comm, Option.isSome_iff_exists] at hsome
  obtain ⟨r, hr⟩ := hsome
  exact ⟨r, hr, h.wcmp r hr⟩

lemma Tracks.setEnds_down (h : p.Tracks up v s) (hv : p.HasNode v) (hl : p.HasLink l) :
    p.Tracks (Function.update up l false) v (p.setEnds false l v s) := by
  obtain ⟨hi, hu, ha, hs⟩ := setEnds_down_frame (p := p) l v s
  have heffect := h.effect hv hl false
  refine ⟨hi.trans heffect.interfaces, ?_, ?_, ?_, ?_, ?_, ?_, fun r' hr' => ?_⟩
  · rw [hu]
    exact heffect.isUp
  · rw [ha]
    exact heffect.addresses
  · rw [hs]
    exact heffect.connected
  · rw [hs]
    exact heffect.routes
  · rw [hs]
    exact heffect.sound
  · rw [setEnds_isSome, h.runsWcmp]
  · obtain ⟨r, hr, htracks⟩ := wcmp_of_setEnds h hr'
    obtain ⟨r'', hr'', hroutes, hmapper, hlevels, hstates, hup, -⟩ :=
      setEnds_wcmp (p := p) l false v hr
    obtain rfl := Option.some.inj (hr'.symm.trans hr'')
    apply htracks.of_same hroutes hmapper hlevels
    · intro i
      rw [hstates, htracks.or_isEnd hl]
    · intro i
      rw [hup, htracks.isIfUp, hu, effect_isUp]

lemma weightAt_setEnds (h : p.Tracks up v s) (hl : p.HasLink l) (i level : ℕ) :
    weightAt i level (p.setEnds false l v s) = weightAt i level s := by
  cases hr : s.wcmp with
  | none =>
    have hnone := setEnds_isSome (p := p) l false v s
    rw [hr, Option.isSome_none, Option.isSome_eq_false_iff, Option.isNone_iff_eq_none] at hnone
    rw [weightAt, weightAt, hr, hnone]
  | some r =>
    obtain ⟨r', hr', -, -, -, -, -, hweight⟩ := setEnds_wcmp (p := p) l false v hr
    rw [weightAt, weightAt, hr, hr', Option.map_some, Option.map_some, Option.some.injEq]
    apply hweight
    intro j hj
    exact ((h.wcmp r hr).tracked j).mpr (isEnd_lt hl hj).2

lemma unmitigated_setup (S : Ipv4StaticRouting) (hp : p.Valid) (hl : p.HasLink l)
    (hv : p.HasNode v) : p.Unmitigated l v (p.setEnds false l v (p.setupClosTopology S v)) := by
  have htracks := setup_tracks (S := S) hv
  refine ⟨htracks.setEnds_down hv hl, fun r hr => ?_, fun i level hw hi hlevel => ?_⟩
  · rw [(setEnds_down_frame l v _).2.2.2] at hr
    exact ((effect_has_down l v _ r).mp hr).2
  · rw [weightAt_setEnds htracks hl]
    exact (fresh_setup S (fits_of_valid hp) hp.even).weight v i level hv hw hi hlevel

lemma doDisableLink_eq (S : Ipv4StaticRouting) {systemId : Node → ℕ}
    (hl : p.HasLink (.edgeAgg pod e a)) (hs : systemId (.edge pod e) = systemId (.aggregate pod a)) :
    p.doDisableLink systemId .edge (pod * p.h + e) .aggregate (pod * p.h + a) false
        (p.setupClosTopology S) =
      .ok fun v => p.setEnds false (.edgeAgg pod e a) v (p.setupClosTopology S v) := by
  have hshape : ∀ v, p.HasNode v → p.Shape v (p.setupClosTopology S v) := by
    intro v hv
    have htracks := setup_tracks (S := S) hv
    exact ⟨congrArg List.length htracks.interfaces, htracks.runsWcmp⟩
  rw [doDisableLink, localLink_edgeAgg hl hs]
  exact bind_of_ok (setEnds_ok false hl hshape) Except.ok

end Disabled

section Groups

variable {r : WcmpStaticRouting} {isUp : ℕ → Bool}

lemma downOnly_of_ne {l' : Link} (h : l' ≠ l) : downOnly l l' = true := Function.update_of_ne h _ _

lemma downOnly_self : downOnly l l = false := Function.update_self _ _ _

lemma exists_other {n : ℕ} (hn : 2 ≤ n) (x : ℕ) : ∃ y < n, y ≠ x := by
  by_cases hzero : x = 0
  · exact ⟨1, hn, by omega⟩
  · exact ⟨0, by omega, by omega⟩

lemma lookup_cut (hp : p.Valid) (hd : p.IsHost pod e k)
    (h : p.Unmitigated (.edgeAgg pod e a) (.aggregate pod a) s) :
    S.lookupStatic (hostAddress pod e k) s.staticRouting = none := by
  obtain ⟨hpod, he, hk⟩ := hd.octets hp
  rw [S.lookup_none]
  intro r hr
  rw [← Bool.not_eq_true]
  intro hm
  obtain ⟨f, hf, rfl⟩ := h.tracks.configured rfl (loopback_matches hpod he hk) hr hm
  rw [torRoute_matches hpod he hk hpod (hf.trans_le hp.edgeOctet)] at hm
  apply h.withdrawn _ hr
  rw [hm.2]
  exact Or.inr rfl

lemma backups_offered (hp : p.Valid) (hd : p.IsHost pod e k) (hbackup : p.enableEdgeBounceBackup = true)
    (hh : 2 ≤ p.h) (h : p.WcmpTracks (.aggregate pod a) isUp r) (iif : ℕ) :
    r.Offers (hostAddress pod e k) iif fun i => i ≠ iif ∧ ∃ f < p.h, f ≠ pod ∧ i = f + 1 := by
  obtain ⟨hpod, he, hk⟩ := hd.octets hp
  have hmatch : ∀ f, WcmpStaticRouting.Matches (hostAddress pod e k)
      (.createNetworkRouteTo (.ofOctets 10 (pod % 2 ^ 8) 0 0) (.ofPrefix 16) (f + 1)) :=
    fun f => (backup_matches hpod he hk hpod).mpr rfl
  have hroute : ∀ f < p.h, f ≠ pod → r.HasRoute
      (.createNetworkRouteTo (.ofOctets 10 (pod % 2 ^ 8) 0 0) (.ofPrefix 16) (f + 1))
      backupPathMetric :=
    fun f hf hne => (h.routes _ _).mpr (Or.inr ⟨hbackup, f, hf, hne, rfl, rfl⟩)
  have hmask : (Ipv4Mask.ofPrefix 16).getPrefixLength = 16 := by decide
  have hmetric : ∀ e' m, r.HasRoute e' m → m ≤ 0xffffffff := by
    intro e' m hr
    rcases (h.routes e' m).mp hr with ⟨-, -, -, hm⟩ | ⟨-, -, -, -, hm, -⟩
    · rw [hm]
      norm_num
    · rw [hm, backupPathMetric]
      norm_num
  have hkind : ∀ e' m, r.HasRoute e' m → WcmpStaticRouting.Matches (hostAddress pod e k) e' →
      e'.destNetworkMask.getPrefixLength < 16 ∨
        e'.destNetworkMask.getPrefixLength = 16 ∧ m = backupPathMetric := by
    intro e' m hr _
    rcases (h.routes e' m).mp hr with ⟨c, -, rfl, -⟩ | ⟨-, f, -, -, hm, rfl⟩
    · rw [prefixLength_wildcard]
      exact Or.inl (by norm_num)
    · exact Or.inr ⟨hmask, hm⟩
  have hsome : ∃ e' m, r.HasRoute e' m ∧ WcmpStaticRouting.Matches (hostAddress pod e k) e' ∧
      e'.destNetworkMask.getPrefixLength = 16 := by
    obtain ⟨f, hf, hne⟩ := exists_other hh pod
    exact ⟨_, _, hroute f hf hne, hmatch f, hmask⟩
  refine (WcmpStaticRouting.offers_longest iif hmetric (by decide) hkind hsome).congr fun i =>
    and_congr_right fun _ => ⟨?_, ?_⟩
  · rintro ⟨e', m, hr, -, hlen, rfl⟩
    rcases (h.routes e' m).mp hr with ⟨c, -, rfl, -⟩ | ⟨-, f, hf, hne, -, rfl⟩
    · rw [prefixLength_wildcard] at hlen
      exact absurd hlen (by norm_num)
    · exact ⟨f, hf, hne, rfl⟩
  · rintro ⟨f, hf, hne, rfl⟩
    exact ⟨_, _, hroute f hf hne, hmatch f, hmask, rfl⟩

lemma uplinks_offered {q : ℕ} (dest : Ipv4Address) (h : p.WcmpTracks (.edge q f) isUp r) (iif : ℕ) :
    r.Offers dest iif fun i => i ≠ iif ∧ i ∈ p.uplinks (.edge q f) := by
  have hkind : ∀ e m, r.HasRoute e m → WcmpStaticRouting.Matches dest e →
      e.destNetworkMask.getPrefixLength = 0 ∧ m = 1 := by
    intro e m hr _
    obtain ⟨b, -, rfl, rfl⟩ := (h.routes e m).mp hr
    exact ⟨prefixLength_wildcard _, rfl⟩
  refine (WcmpStaticRouting.offers_alike iif (by norm_num : 1 ≤ 0xffffffff) hkind).congr fun i =>
    and_congr_right fun _ => ⟨?_, fun hi => ?_⟩
  · rintro ⟨e, m, hr, -, rfl⟩
    obtain ⟨b, hb, rfl, -⟩ := (h.routes e m).mp hr
    exact mem_uplinks_edge.mpr ⟨b, hb, rfl⟩
  · obtain ⟨b, hb, rfl⟩ := mem_uplinks_edge.mp hi
    exact ⟨_, 1, (h.routes _ 1).mpr ⟨b, hb, rfl, rfl⟩, matches_wildcard dest _, rfl⟩

lemma Unmitigated.spread {U : ℕ → Prop} {iif : ℕ} (hp : p.Valid) (hd : p.IsHost pod e k)
    (h : p.Unmitigated l v s) (hv : v.runsWcmp = true) (hsw : v.isSwitch = true) (hr : s.wcmp = some r)
    (hs : S.lookupStatic (hostAddress pod e k) s.staticRouting = none)
    (hoffers : r.Offers (hostAddress pod e k) iif U) (hlt : ∀ i, U i → i < (p.devices v).length)
    (hne : ∃ i, U i) (hash : ℕ) :
    ((∀ i, U i → p.portUp (downOnly l) v i = false) ∧
      (s.routeInput (hostAddress pod e k) hash iif).1 = .error (.abort "!sum")) ∨
    ∃ i, U i ∧ p.portUp (downOnly l) v i = true ∧
      (s.routeInput (hostAddress pod e k) hash iif).1 = .ok (.forward i) := by
  have hat : ∀ i, U i → weightAt i (pod * p.h + e) s = some defaultWcmpWeight :=
    fun i hi => h.weight i _ hv (hlt i hi) (mul_add_lt hd.1 hd.2.1)
  have hle : ∀ i, U i → ∀ w ∈ weightAt i (pod * p.h + e) s, w ≤ defaultWcmpWeight := by
    intro i hi w hw
    rw [hat i hi] at hw
    exact (Option.some.inj hw).ge
  rcases h.tracks.spread hp hd hsw hr hs hoffers (by decide) hle hne hash with
    ⟨hstuck, hans⟩ | ⟨i, hi, hup, -, hans⟩
  · refine Or.inl ⟨fun i hi => ?_, hans⟩
    rw [← h.tracks.isUp]
    apply (hstuck i hi).resolve_right
    rw [hat i hi]
    decide
  · rw [h.tracks.isUp] at hup
    exact Or.inr ⟨i, hi, hup, hans⟩

end Groups

section Detour

variable {hash : ℕ → ℕ} {ttl iif : ℕ}

lemma at_bounce_edge (hash : ℕ → ℕ) (ttl : ℕ) (hp : p.Valid) (hd : p.IsHost pod e k) (hh : 2 ≤ p.h) (ha : a < p.h)
    (hf : f < p.h) (hfe : f ≠ e)
    (h : ∀ v, p.HasNode v → p.Tracks (downOnly (.edgeAgg pod e a)) v (nodes v))
    (hu : p.Unmitigated (.edgeAgg pod e a) (.edge pod f) (nodes (.edge pod f))) :
    ∃ b < p.h, b ≠ a ∧ Nodes.forward (hostAddress pod e k) hash (ttl + 3) (.edge pod f)
        (p.numServers + 1 + a) nodes =
      ⟨[(.edge pod f, p.numServers + 1 + b), (.aggregate pod b, e + 1), (.edge pod e, k + 1)],
        .server (pod * p.h + e) k, .delivered⟩ := by
  have hv : p.HasNode (.edge pod f) := ⟨hd.1, hf⟩
  have hup : ∀ b < p.h, p.portUp (downOnly (.edgeAgg pod e a)) (.edge pod f) (p.numServers + 1 + b) =
      true := by
    intro b hb
    rw [portUp_edge_uplink ⟨hd.1, hf, hb⟩]
    apply downOnly_of_ne
    simp [hfe]
  obtain ⟨r, hr⟩ := Option.isSome_iff_exists.mp hu.tracks.runsWcmp
  have hoffers := uplinks_offered (hostAddress pod e k) (hu.tracks.wcmp r hr) (p.numServers + 1 + a)
  obtain ⟨b₀, hb₀, hne₀⟩ := exists_other hh a
  have hin₀ : p.numServers + 1 + b₀ ≠ p.numServers + 1 + a ∧
      p.numServers + 1 + b₀ ∈ p.uplinks (.edge pod f) :=
    ⟨by omega, mem_uplinks_edge.mpr ⟨b₀, hb₀, rfl⟩⟩
  rcases hu.spread hp hd rfl rfl hr (other_edge hp hd hv (fun hsame => hfe hsame.2) hu.tracks) hoffers
    (fun i hi => uplinks_lt hi.2) ⟨_, hin₀⟩ (hash (ttl + 3)) with
    ⟨hstuck, -⟩ | ⟨i, ⟨hne, hi⟩, -, hans⟩
  · have hdown := hstuck _ hin₀
    rw [hup b₀ hb₀] at hdown
    cases hdown
  · obtain ⟨b, hb, rfl⟩ := mem_uplinks_edge.mp hi
    have hba : b ≠ a := by
      rintro rfl
      exact hne rfl
    have hto : downOnly (.edgeAgg pod e a) (.edgeAgg pod e b) = true := by
      apply downOnly_of_ne
      simp [hba]
    obtain ⟨nodes', h', -, heq⟩ := tracked_hop hp h hv (u := .aggregate pod b) ⟨hd.1, hb⟩ (hup a ha)
      hans (hup b hb) (port_edge_aggregate hb) (port_aggregate_edge hf)
    have hin : p.portUp (downOnly (.edgeAgg pod e a)) (.aggregate pod b) (f + 1) = true := by
      rw [portUp_aggregate_edge ⟨hd.1, hf, hb⟩, downOnly_of_ne (by simp [hfe])]
    refine ⟨b, hb, hba, ?_⟩
    rw [heq, at_home_aggregate hp hd hb h' hin hto]
    rfl

lemma at_cut_aggregate {c : ℕ} (hash : ℕ → ℕ) (ttl : ℕ) (hp : p.Valid) (hd : p.IsHost pod e k)
    (hbackup : p.enableEdgeBounceBackup = true) (hh : 2 ≤ p.h) (ha : a < p.h) (hc : c < p.h)
    (h : ∀ v, p.HasNode v → p.Unmitigated (.edgeAgg pod e a) v (nodes v)) :
    ((∀ f < p.h, f ≠ pod → f = e) ∧
      Nodes.forward (hostAddress pod e k) hash (ttl + 4) (.aggregate pod a) (p.h + 1 + c) nodes =
        ⟨[], .aggregate pod a, .aborted (.abort "!sum")⟩) ∨
    ∃ f < p.h, ∃ b < p.h, f ≠ pod ∧ f ≠ e ∧ b ≠ a ∧
      Nodes.forward (hostAddress pod e k) hash (ttl + 4) (.aggregate pod a) (p.h + 1 + c) nodes =
        ⟨[(.aggregate pod a, f + 1), (.edge pod f, p.numServers + 1 + b), (.aggregate pod b, e + 1),
          (.edge pod e, k + 1)], .server (pod * p.h + e) k, .delivered⟩ := by
  have hv : p.HasNode (.aggregate pod a) := ⟨hd.1, ha⟩
  have hl : p.HasLink (.edgeAgg pod e a) := ⟨hd.1, hd.2.1, ha⟩
  have hiif : p.portUp (downOnly (.edgeAgg pod e a)) (.aggregate pod a) (p.h + 1 + c) = true := by
    rw [portUp_aggregate_uplink ⟨hd.1, ha, hc⟩]
    exact downOnly_of_ne (by simp)
  have hdown : ∀ f < p.h, p.portUp (downOnly (.edgeAgg pod e a)) (.aggregate pod a) (f + 1) = false ↔
      f = e := by
    intro f hf
    rw [portUp_aggregate_edge ⟨hd.1, hf, ha⟩]
    constructor
    · intro hcut
      by_contra hne
      rw [downOnly_of_ne (by simp [hne])] at hcut
      cases hcut
    · rintro rfl
      exact downOnly_self
  obtain ⟨r, hr⟩ := Option.isSome_iff_exists.mp (h _ hv).tracks.runsWcmp
  have hoffers := backups_offered hp hd hbackup hh ((h _ hv).tracks.wcmp r hr) (p.h + 1 + c)
  have hlt : ∀ i, (i ≠ p.h + 1 + c ∧ ∃ f < p.h, f ≠ pod ∧ i = f + 1) →
      i < (p.devices (.aggregate pod a)).length := by
    rintro i ⟨-, f, hf, -, rfl⟩
    rw [devices_length]
    dsimp only
    omega
  have hgroup : ∃ i, i ≠ p.h + 1 + c ∧ ∃ f < p.h, f ≠ pod ∧ i = f + 1 := by
    obtain ⟨f, hf, hne⟩ := exists_other hh pod
    exact ⟨f + 1, by omega, f, hf, hne, rfl⟩
  rcases (h _ hv).spread hp hd rfl rfl hr (lookup_cut hp hd (h _ hv)) hoffers hlt hgroup
    (hash (ttl + 4)) with ⟨hstuck, hans⟩ | ⟨i, ⟨-, f, hf, hne, rfl⟩, hup, hans⟩
  · left
    refine ⟨fun f hf hne => (hdown f hf).mp (hstuck _ ⟨by omega, f, hf, hne, rfl⟩), ?_⟩
    apply Nodes.forward_abort _ hans
    rw [(h _ hv).tracks.isUp, hiif]
  · right
    have hfe : f ≠ e := by
      intro hfe
      rw [(hdown f hf).mpr hfe] at hup
      cases hup
    obtain ⟨nodes', h', hframe, heq⟩ := tracked_hop hp (fun v hv => (h v hv).tracks) hv
      (u := .edge pod f) ⟨hd.1, hf⟩ hiif hans hup (port_aggregate_edge hf) (port_edge_aggregate ha)
    have hedge := h (.edge pod f) ⟨hd.1, hf⟩
    rw [← hframe _ (by simp)] at hedge
    obtain ⟨b, hb, hba, hrest⟩ := at_bounce_edge hash ttl hp hd hh ha hf hfe h' hedge
    refine ⟨f, hf, b, hb, hne, hfe, hba, ?_⟩
    rw [heq, hrest]
    rfl

lemma bounced (hfe : f ≠ e) {b : ℕ} (hba : b ≠ a) : p.Bounced pod e a k
    ⟨[(.aggregate pod a, f + 1), (.edge pod f, p.numServers + 1 + b), (.aggregate pod b, e + 1),
      (.edge pod e, k + 1)], .server (pod * p.h + e) k, .delivered⟩ := by
  refine ⟨⟨f, b, _, hfe, hba, rfl⟩, ?_, rfl, rfl⟩
  simp [Trip.visited, Node.pod, hfe, hba.symm]

lemma missed_iff (hp : p.Valid) (hh : 2 ≤ p.h) (he : e < p.h) :
    (∀ f < p.h, f ≠ pod → f = e) ↔ p.switchRadix = 4 ∧ pod < 2 ∧ e ≠ pod := by
  have heven := Nat.div_mul_cancel hp.even
  have hdef : p.h = p.switchRadix / 2 := rfl
  constructor
  · intro hall
    have hzero := hall 0 (by omega)
    have hone := hall 1 (by omega)
    have htwo := hall 2
    omega
  · rintro ⟨hradix, hpod, hne⟩ f hf hfp
    omega

lemma not_bounced_of_missed (hp : p.Valid) (hd : p.IsHost pod e k)
    (hbackup : p.enableEdgeBounceBackup = true) (hh : 2 ≤ p.h) (ha : a < p.h)
    (hmissed : ∀ f < p.h, f ≠ pod → f = e)
    (h : ∀ v, p.HasNode v → p.Unmitigated (.edgeAgg pod e a) v (nodes v)) :
    ¬ p.BackupsBounce pod e a nodes := by
  intro hbounce
  have hbounced := hbounce k hd.2.2 0 (by omega) (fun _ => 0) 0
  rcases at_cut_aggregate (c := 0) (fun _ => 0) 0 hp hd hbackup hh ha (by omega) h with
    ⟨-, heq⟩ | ⟨f, hf, b, -, hne, hfe, -⟩
  · rw [heq] at hbounced
    exact absurd hbounced.fate (by simp)
  · exact hfe (hmissed f hf hne)

/-- The backup routes leave out the edge whose number is the pod's. It is missed where it is the only
other edge: among two, in a pod that bears the other one's number. -/
theorem backupsBounce_iff (S : Ipv4StaticRouting) (systemId : Node → ℕ) (hp : p.Valid)
    (hradix : 4 ≤ p.switchRadix) (hbackup : p.enableEdgeBounceBackup = true)
    (hn : p.Names systemId (.edgeAgg pod e a, false)) :
    ∃ nodes, p.doDisableLink systemId .edge (pod * p.h + e) .aggregate (pod * p.h + a) false
        (p.setupClosTopology S) = .ok nodes ∧
      (p.BackupsBounce pod e a nodes ↔
        p.numServers = 0 ∨ ¬ (p.switchRadix = 4 ∧ pod < 2 ∧ e ≠ pod)) := by
  obtain ⟨hl, hs⟩ := hn
  have heven := Nat.div_mul_cancel hp.even
  have hh : 2 ≤ p.h := by
    rw [TopologyDescriptor.h]
    omega
  have hstate := fun v (hv : p.HasNode v) => unmitigated_setup S hp hl hv
  refine ⟨_, doDisableLink_eq S hl hs, ⟨fun h => ?_, fun h => ?_⟩⟩
  · rw [or_iff_not_imp_left]
    intro hservers hmissed
    rw [← missed_iff hp hh hl.2.1] at hmissed
    exact not_bounced_of_missed hp ⟨hl.1, hl.2.1, Nat.pos_of_ne_zero hservers⟩ hbackup hh hl.2.2
      hmissed hstate h
  · intro k hk c hc hash ttl
    have hd : p.IsHost pod e k := ⟨hl.1, hl.2.1, hk⟩
    rcases at_cut_aggregate hash ttl hp hd hbackup hh hl.2.2 hc hstate with
      ⟨hall, -⟩ | ⟨f, -, b, -, -, hfe, hba, heq⟩
    · rcases h with hservers | hmiss
      · omega
      · exact absurd ((missed_iff hp hh hl.2.1).mp hall) hmiss
    · rw [heq]
      exact bounced hfe hba

theorem backupsBounce_iff_pod_zero :
    ∃ nodes, twoPods.doDisableLink (fun _ => 0) .edge (0 * twoPods.h + 0) .aggregate
        (0 * twoPods.h + 1) false (twoPods.setupClosTopology listStaticRouting) = .ok nodes ∧
      (twoPods.BackupsBounce 0 0 1 nodes ↔
        twoPods.numServers = 0 ∨ ¬ (twoPods.switchRadix = 4 ∧ 0 < 2 ∧ 0 ≠ 0)) :=
  backupsBounce_iff listStaticRouting (fun _ => 0) twoPods_valid (by decide) rfl
    ⟨⟨by decide, by decide, by decide⟩, rfl⟩

theorem not_backupsBounce :
    twoPods.Valid ∧ 4 ≤ twoPods.switchRadix ∧ twoPods.enableEdgeBounceBackup = true ∧
    ∃ nodes, twoPods.doDisableLink (fun _ => 0) .edge 1 .aggregate 0 false
        (twoPods.setupClosTopology listStaticRouting) = .ok nodes ∧
      ¬ twoPods.BackupsBounce 0 1 0 nodes := by
  have hl : twoPods.HasLink (.edgeAgg 0 1 0) := ⟨by decide, by decide, by decide⟩
  have hd : twoPods.IsHost 0 1 0 := ⟨by decide, by decide, by decide⟩
  refine ⟨twoPods_valid, le_rfl, rfl, _, doDisableLink_eq listStaticRouting hl rfl, ?_⟩
  exact not_bounced_of_missed twoPods_valid hd rfl (by decide) hl.2.2 (by decide)
    fun v hv => unmitigated_setup listStaticRouting twoPods_valid hl hv

end Detour

end TopologyDescriptor

end SwarmSim.Clos
