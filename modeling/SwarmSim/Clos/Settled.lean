import SwarmSim.Clos.Script

/-! Scripts without `SET_WCMP`: of their history the fabric keeps only which links are up. -/

namespace SwarmSim.Clos

open Machine Ns3 Wcmp

def Command.setsWeight : Command → Bool
  | .setWcmp .. => true
  | _ => false

namespace TopologyDescriptor

variable {p : TopologyDescriptor} {S : Ipv4StaticRouting} {systemId : Node → ℕ}
  {nodes nodes' : Nodes S} {up : Link → Bool} {level i : ℕ} {v : Node} {s s' : NodeStack S}

section Steps

lemma Mirrors.effect {l : Link} (hf : p.Fits) (hv : p.HasNode v) (hl : p.HasLink l) (b : Bool)
    (h : p.Mirrors up v s) : p.Mirrors (Function.update up l b) v (p.effect l b v s) := by
  refine ⟨h.tracks.effect hv hl b, fun i level hr hi hlevel => ?_⟩
  rw [weightAt_effect hf hv hr h.tracks.ready hl b (hi.trans (hf.interfaces v hv))
    (hlevel.trans hf.tors)]
  by_cases howner : p.weightOwner v i level = some l
  · refine ⟨_, if_pos howner, ?_, ?_⟩
    · cases b <;> decide
    · rw [howner]
      cases b <;> simp
  · obtain ⟨w, hw, hle, hzero⟩ := h.weight i level hr hi hlevel
    refine ⟨w, (if_neg howner).trans hw, hle, hzero.trans ?_⟩
    have hkeep : ∀ l', p.weightOwner v i level = some l' →
        (Function.update up l b l' = false ↔ up l' = false) := by
      intro l' hl'
      rw [Function.update_of_ne]
      rintro rfl
      exact howner hl'
    constructor
    · rintro ⟨l', hl', hdown⟩
      exact ⟨l', hl', (hkeep l' hl').mpr hdown⟩
    · rintro ⟨l', hl', hdown⟩
      exact ⟨l', hl', (hkeep l' hl').mp hdown⟩

lemma execute_mirrors {c : Command} (hf : p.Fits) (hc : c.setsWeight = false)
    (h : ∀ v, p.HasNode v → p.Mirrors up v (nodes v)) (he : p.execute systemId c nodes = .ok nodes') :
    ∀ v, p.HasNode v → p.Mirrors (p.obey up c) v (nodes' v) := by
  have htracks := fun v (hv : p.HasNode v) => (h v hv).tracks
  have hlink : ∀ l b, p.Names systemId (l, b) → c = p.command l b →
      ∀ v, p.HasNode v → p.Mirrors (p.obey up c) v (nodes' v) := by
    rintro l b ⟨hl, hranks⟩ rfl v hv
    rw [execute_link systemId b hl hranks fun v hv => (htracks v hv).ready.shape] at he
    obtain rfl := Except.ok.inj he
    rw [obey_command hl]
    exact (h v hv).effect hf hv hl b
  cases c with
  | linkDown srcLevel srcIdx dstLevel dstIdx =>
    obtain ⟨l, hl, hcmd⟩ := linkDown_ok htracks he
    exact hlink l false hl hcmd
  | linkUp srcLevel srcIdx dstLevel dstIdx =>
    obtain ⟨l, hl, hcmd⟩ := linkUp_ok htracks he
    exact hlink l true hl hcmd
  | setAttribute srcLevel srcIdx dstLevel dstIdx =>
    obtain ⟨props, -, rfl⟩ := map_ok he
    exact h
  | setWcmp => cases hc
  | migrate source destination percent =>
    rw [execute] at he
    split at he
    · obtain rfl := Except.ok.inj he
      exact h
    · cases he

theorem run_mirrors (cs : List Command) (hf : p.Fits) (hcs : ∀ c ∈ cs, c.setsWeight = false)
    (h : ∀ v, p.HasNode v → p.Mirrors up v (nodes v)) (he : p.run systemId cs nodes = .ok nodes') :
    ∀ v, p.HasNode v → p.Mirrors (cs.foldl p.obey up) v (nodes' v) := by
  induction cs generalizing up nodes with
  | nil =>
    obtain rfl := Except.ok.inj he
    exact h
  | cons c cs ih =>
    rw [List.forall_mem_cons] at hcs
    obtain ⟨n, hc, he⟩ := bind_ok he
    exact ih hcs.2 (execute_mirrors hf hcs.1 h hc) he

end Steps

section Trips

lemma Mirrors.usable_iff (h : p.Mirrors up v s) (hi : i ∈ p.uplinks v) (hlevel : level < p.numPods * p.h) :
    Usable level i s ↔ p.portUp up v i = true ∧ ∀ l, p.weightOwner v i level = some l → up l = true := by
  obtain ⟨w, hw, -, hzero⟩ := h.weight i level (uplinks_runsWcmp hi) (uplinks_lt hi) hlevel
  rw [Usable, h.tracks.isUp, hw]
  apply and_congr_right
  intro _
  rw [ne_eq, Option.some.injEq, hzero]
  constructor
  · intro hnone l hl
    by_contra hdown
    exact hnone ⟨l, hl, Bool.eq_false_iff.mpr hdown⟩
  · rintro hall ⟨l, hl, hdown⟩
    rw [hall l hl] at hdown
    cases hdown

lemma stuck_iff : p.Stuck level v s ↔ ∀ i ∈ p.uplinks v, ¬Usable level i s := by
  apply forall_congr'
  intro i
  apply imp_congr_right
  intro _
  rw [Usable, not_and_or, not_not, Bool.not_eq_true]

lemma Walk.congr {q f j pod e k : ℕ} {t : Trip}
    (hu : ∀ v, ∀ i ∈ p.uplinks v, p.HasNode v →
      (Usable (pod * p.h + e) i (nodes v) ↔ Usable (pod * p.h + e) i (nodes' v)))
    (hs : p.IsHost q f j) (h : p.Walk nodes q f j pod e k t) : p.Walk nodes' q f j pod e k t := by
  have hedge : p.HasNode (.edge q f) := ⟨hs.1, hs.2.1⟩
  have hagg : ∀ a < p.h, p.HasNode (.aggregate q a) := fun a ha => ⟨hs.1, ha⟩
  have hstuck : ∀ v, p.HasNode v → p.Stuck (pod * p.h + e) v (nodes v) →
      p.Stuck (pod * p.h + e) v (nodes' v) := by
    intro v hv hstuck
    rw [stuck_iff] at hstuck ⊢
    intro i hi
    rw [← hu v i hi hv]
    exact hstuck i hi
  have hleave : ∀ a < p.h, Usable (pod * p.h + e) (p.numServers + 1 + a) (nodes (.edge q f)) →
      Usable (pod * p.h + e) (p.numServers + 1 + a) (nodes' (.edge q f)) := by
    intro a ha
    exact (hu _ _ (mem_uplinks_edge.mpr ⟨a, ha, rfl⟩) hedge).mp
  cases h with
  | sameHost hq hf hj => exact .sameHost hq hf hj
  | sameEdge hq hf hj => exact .sameEdge hq hf hj
  | samePod a hq hf ha husable => exact .samePod a hq hf ha (hleave a ha husable)
  | overCore a c hq ha hc husable hup =>
    refine .overCore a c hq ha hc (hleave a ha husable) ?_
    exact (hu _ _ (mem_uplinks_aggregate.mpr ⟨c, hc, rfl⟩) (hagg a ha)).mp hup
  | stuckEdge hne hno => exact .stuckEdge hne (hstuck _ hedge hno)
  | stuckAggregate a hq ha husable hno =>
    exact .stuckAggregate a hq ha (hleave a ha husable) (hstuck _ (hagg a ha) hno)

lemma script_mirrors {cs : List Command} (hp : p.Valid) (hcs : ∀ c ∈ cs, c.setsWeight = false)
    (hrun : p.run systemId cs (p.setupClosTopology S) = .ok nodes) :
    ∀ v, p.HasNode v → p.Mirrors (cs.foldl p.obey fun _ => true) v (nodes v) := by
  refine run_mirrors cs (fits_of_valid hp) hcs (fun v hv => ?_) hrun
  exact mirrors_after S [] hp (by simp) hv

/-- Two scripts without `SET_WCMP` that leave the same links up leave fabrics in which packets make the
same trips, whatever went down and came up in between, though they may weigh them differently. -/
theorem script_history_free (S : Ipv4StaticRouting) (systemId systemId' : Node → ℕ) (cs cs' : List Command)
    (nodes nodes' : Nodes S) (hp : p.Valid)
    (hrun : p.run systemId cs (p.setupClosTopology S) = .ok nodes)
    (hrun' : p.run systemId' cs' (p.setupClosTopology S) = .ok nodes')
    (hcs : ∀ c ∈ cs, c.setsWeight = false) (hcs' : ∀ c ∈ cs', c.setsWeight = false)
    (hsame : cs.foldl p.obey (fun _ => true) = cs'.foldl p.obey fun _ => true)
    (tor host tor' host' : ℕ) (hv : p.HasNode (.server tor host)) (hv' : p.HasNode (.server tor' host'))
    (t : Trip) :
    ∃ dest, getServerAddress (p.setupClosTopology S) tor' host' = some dest ∧
      ((∃ hash, Nodes.send dest hash (.server tor host) nodes = t) ↔
        ∃ hash, Nodes.send dest hash (.server tor host) nodes' = t) := by
  obtain ⟨hs, hsrc⟩ := isHost_of_hasNode hv
  obtain ⟨hd, hdst⟩ := isHost_of_hasNode hv'
  have hm := script_mirrors hp hcs hrun
  have hm' := script_mirrors hp hcs' hrun'
  rw [← hsame] at hm'
  have hlevel := mul_add_lt hd.1 hd.2.1
  have hguards := fun v hv => (hm v hv).guards hlevel
  have hguards' := fun v hv => (hm' v hv).guards hlevel
  have husable : ∀ v, ∀ i ∈ p.uplinks v, p.HasNode v →
      (Usable (tor' / p.h * p.h + tor' % p.h) i (nodes v) ↔
        Usable (tor' / p.h * p.h + tor' % p.h) i (nodes' v)) := by
    intro v i hi hv
    rw [(hm v hv).usable_iff hi hlevel, (hm' v hv).usable_iff hi hlevel]
  refine ⟨_, getServerAddress_setup S hv', ?_⟩
  rw [← hsrc]
  constructor
  · rintro ⟨hash, rfl⟩
    exact ((send_walk hp hs hd hguards hash).congr husable hs).sent hp hs hd hguards'
  · rintro ⟨hash, rfl⟩
    have hwalk := (send_walk hp hs hd hguards' hash).congr
      (fun v i hi hv => (husable v i hi hv).symm) hs
    exact hwalk.sent hp hs hd hguards

theorem script_history_free_repaired :
    let t : Trip := ⟨[(.server 0 0, 1), (.edge 0 0, 2), (.aggregate 0 0, 3), (.core 0, 2),
      (.aggregate 1 0, 1), (.edge 1 0, 1)], .server 2 0, .delivered⟩
    let nodes₀ := twoPods.setupClosTopology listStaticRouting
    ∃ nodes, twoPods.run (fun _ => 0) [.linkDown .edge 2 .aggregate 2, .linkUp .edge 2 .aggregate 2] nodes₀ =
        .ok nodes ∧
      ∃ dest, getServerAddress nodes₀ 2 0 = some dest ∧
        ((∃ hash, Nodes.send dest hash (.server 0 0) nodes = t) ↔
          ∃ hash, Nodes.send dest hash (.server 0 0) nodes₀ = t) := by
  intro t nodes₀
  have hl : twoPods.HasLink (.edgeAgg 1 0 0) := ⟨by decide, by decide, by decide⟩
  have hnames : ∀ c ∈ [(Link.edgeAgg 1 0 0, false), (.edgeAgg 1 0 0, true)],
      twoPods.Names (fun _ => 0) c := by
    simp [Names, hl]
  have hrun := run_setup listStaticRouting hnames
  have hobey : [Command.linkDown .edge 2 .aggregate 2, .linkUp .edge 2 .aggregate 2].foldl
      twoPods.obey (fun _ => true) = fun _ => true := by
    have hset := fun up => @obey_command twoPods up _ hl
    change twoPods.obey (twoPods.obey (fun _ => true) (twoPods.command (.edgeAgg 1 0 0) false))
      (twoPods.command (.edgeAgg 1 0 0) true) = _
    rw [hset, hset, Function.update_idem, Function.update_eq_self]
  exact ⟨_, hrun, script_history_free listStaticRouting (fun _ => 0) (fun _ => 0) _ [] _ nodes₀ twoPods_valid
    hrun rfl (by decide) (by simp) hobey 0 0 2 0 ⟨by decide, by decide⟩ ⟨by decide, by decide⟩ t⟩

end Trips

end TopologyDescriptor

end SwarmSim.Clos
