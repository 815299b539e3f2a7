import SwarmSim.Clos.Delivery
import SwarmSim.Clos.Repair

/-! Whole scenario scripts, `SET_WCMP` included: which trips are made after a script that gives no
weight to an uplink whose link is down on the destination's side. -/

namespace SwarmSim.Clos

open Machine Ns3 Wcmp

namespace TopologyDescriptor

variable (p : TopologyDescriptor)

def commanded : Command → Option (Link × Bool)
  | .linkDown .edge srcIdx .aggregate dstIdx =>
    some (.edgeAgg (srcIdx / p.h) (srcIdx % p.h) (dstIdx % p.h), false)
  | .linkDown .aggregate srcIdx .core dstIdx =>
    some (.aggCore (srcIdx / p.h) (srcIdx % p.h) (dstIdx / p.h), false)
  | .linkUp .edge srcIdx .aggregate dstIdx =>
    some (.edgeAgg (srcIdx / p.h) (srcIdx % p.h) (dstIdx % p.h), true)
  | .linkUp .aggregate srcIdx .core dstIdx =>
    some (.aggCore (srcIdx / p.h) (srcIdx % p.h) (dstIdx / p.h), true)
  | _ => none

def obey (up : Link → Bool) (c : Command) : Link → Bool :=
  match p.commanded c with
  | some (l, b) => Function.update up l b
  | none => up

def Careful (up : Link → Bool) : Command → Prop
  | .setWcmp level idx i wcmpLevel weight => weight % 2 ^ 16 ≠ 0 → ∀ j tor l,
    getLeveledIf tor j = getLeveledIf (wcmpLevel % 2 ^ 16) i →
      p.weightOwner (p.switchAt level idx) j tor = some l → up l = true
  | _ => True

def CarefulFrom (up : Link → Bool) : List Command → Prop
  | [] => True
  | c :: cs => p.Careful up c ∧ CarefulFrom (p.obey up c) cs

variable {p} {S : Ipv4StaticRouting} {systemId : Node → ℕ} {nodes nodes' : Nodes S}
  {up : Link → Bool} {level : ℕ} {v : Node} {s : NodeStack S} {l : Link}

lemma commanded_command (hl : p.HasLink l) (b : Bool) : p.commanded (p.command l b) = some (l, b) := by
  cases l with
  | edgeAgg pod e a =>
    obtain ⟨-, he, ha⟩ := hl
    cases b <;> rw [command, commanded, mul_add_div he, mul_add_mod he, mul_add_mod ha]
  | aggCore pod a k =>
    obtain ⟨-, ha, -⟩ := hl
    cases b <;> rw [command, commanded, mul_add_div ha, mul_add_mod ha, mul_add_div ha]

lemma obey_command (hl : p.HasLink l) (b : Bool) :
    p.obey up (p.command l b) = Function.update up l b := by
  rw [obey, commanded_command hl]

section Steps

lemma uplinks_runsWcmp {i : ℕ} (h : i ∈ p.uplinks v) : v.runsWcmp = true := by
  cases v with
  | edge | aggregate => rfl
  | core | server => simp [uplinks] at h

lemma Tracks.ready (h : p.Tracks up v s) : p.Ready v s :=
  ⟨h.interfaces, h.runsWcmp, fun r i hr hi => ((h.wcmp r hr).tracked i).mpr hi⟩

lemma Guards.effect (hf : p.Fits) (hlevel : level < p.numPods * p.h) (hv : p.HasNode v)
    (hl : p.HasLink l) (b : Bool) (h : p.Guards up level v s) :
    p.Guards (Function.update up l b) level v (p.effect l b v s) := by
  have hweight : ∀ i ∈ p.uplinks v, weightAt i level (p.effect l b v s) =
      if p.weightOwner v i level = some l then some (if b then 1 else 0) else weightAt i level s :=
    fun i hi => weightAt_effect hf hv (uplinks_runsWcmp hi) h.tracks.ready hl b
      ((uplinks_lt hi).trans (hf.interfaces v hv)) (hlevel.trans hf.tors)
  refine ⟨h.tracks.effect hv hl b, fun i hi w hw => ?_, fun i l' hi hpos howner => ?_⟩
  · rw [hweight i hi] at hw
    split at hw
    · obtain rfl := Option.some.inj hw
      split <;> norm_num
    · exact h.weight i hi w hw
  · rw [hweight i hi, howner] at hpos
    by_cases hsame : l' = l
    · subst hsame
      rw [if_pos rfl] at hpos
      rw [Function.update_self]
      cases b with
      | false => exact (hpos rfl).elim
      | true => rfl
    · rw [if_neg fun he => hsame (Option.some.inj he)] at hpos
      rw [Function.update_of_ne hsame]
      exact h.owner i l' hi hpos howner

lemma weightAt_setInterfaceWeight (i k weight j : ℕ) (hs : s.wcmp.isSome = true) :
    weightAt j level (s.modifyWcmp (·.setInterfaceWeight i k weight)) =
      if getLeveledIf level j = getLeveledIf k i then some weight else weightAt j level s := by
  obtain ⟨r, hr⟩ := Option.isSome_iff_exists.mp hs
  rw [weightAt, weightAt, NodeStack.modifyWcmp, hr, Option.map_some, Option.map_some, Option.map_some,
    WcmpStaticRouting.setInterfaceWeight, WcmpWeights.getWeight_setWeight]
  split <;> rfl

lemma Guards.setInterfaceWeight {i k weight : ℕ} (hweight : weight < 2 ^ 16)
    (hcareful : weight ≠ 0 → ∀ j l, getLeveledIf level j = getLeveledIf k i →
      p.weightOwner v j level = some l → up l = true)
    (h : p.Guards up level v s) :
    p.Guards up level v (s.modifyWcmp (·.setInterfaceWeight i k weight)) := by
  have hsome : ∀ j ∈ p.uplinks v, s.wcmp.isSome = true :=
    fun j hj => h.tracks.runsWcmp.trans (uplinks_runsWcmp hj)
  refine ⟨h.tracks.setInterfaceWeight i k weight, fun j hj w hw => ?_, fun j l hj hpos howner => ?_⟩
  · rw [weightAt_setInterfaceWeight i k weight j (hsome j hj)] at hw
    split at hw
    · obtain rfl := Option.some.inj hw
      exact hweight.le
    · exact h.weight j hj w hw
  · rw [weightAt_setInterfaceWeight i k weight j (hsome j hj)] at hpos
    split at hpos
    · rename_i hkey
      exact hcareful (fun hzero => hpos (by rw [hzero])) j l hkey howner
    · exact h.owner j l hj hpos howner

lemma execute_guards {c : Command} (hf : p.Fits) (hlevel : level < p.numPods * p.h)
    (hc : p.Careful up c) (h : ∀ v, p.HasNode v → p.Guards up level v (nodes v))
    (he : p.execute systemId c nodes = .ok nodes') :
    ∀ v, p.HasNode v → p.Guards (p.obey up c) level v (nodes' v) := by
  have htracks := fun v (hv : p.HasNode v) => (h v hv).tracks
  have hlink : ∀ l b, p.Names systemId (l, b) → c = p.command l b →
      ∀ v, p.HasNode v → p.Guards (p.obey up c) level v (nodes' v) := by
    rintro l b ⟨hl, hranks⟩ rfl v hv
    rw [execute_link systemId b hl hranks fun v hv => (htracks v hv).ready.shape] at he
    obtain rfl := Except.ok.inj he
    rw [obey_command hl]
    exact (h v hv).effect hf hlevel hv hl b
  cases c with
  | linkDown srcLevel srcIdx dstLevel dstIdx =>
    obtain ⟨l, hl, hcmd⟩ := linkDown_ok htracks he
    exact hlink l false hl hcmd
  | linkUp srcLevel srcIdx dstLevel dstIdx =>
    obtain ⟨l, hl, hcmd⟩ := linkUp_ok htracks he
    exact hlink l true hl hcmd
  | setAttribute srcLevel srcIdx dstLevel dstIdx =>
    obtain ⟨props, -, rfl⟩ := map_ok he
    exact h
  | setWcmp switchLevel idx i wcmpLevel weight =>
    obtain rfl := setWcmp_ok he
    intro v hv
    rw [Nodes.modify_apply]
    split
    · rename_i hvu
      subst hvu
      exact (h _ hv).setInterfaceWeight (Nat.mod_lt _ (by norm_num)) fun hpos j l => hc hpos j level l
    · exact h v hv
  | migrate source destination percent =>
    rw [execute] at he
    split at he
    · obtain rfl := Except.ok.inj he
      exact h
    · cases he

theorem run_guards (cs : List Command) (hf : p.Fits) (hlevel : level < p.numPods * p.h)
    (hcs : p.CarefulFrom up cs) (h : ∀ v, p.HasNode v → p.Guards up level v (nodes v))
    (he : p.run systemId cs nodes = .ok nodes') :
    ∀ v, p.HasNode v → p.Guards (cs.foldl p.obey up) level v (nodes' v) := by
  induction cs generalizing up nodes with
  | nil =>
    obtain rfl := Except.ok.inj he
    exact h
  | cons c cs ih =>
    obtain ⟨n, hc, he⟩ := bind_ok he
    exact ih hcs.2 (execute_guards hf hlevel hcs.1 h hc) he

end Steps

section Trips

variable {cs : List Command} {tor : ℕ}

lemma script_guards (hp : p.Valid) (hcs : p.CarefulFrom (fun _ => true) cs)
    (hrun : p.run systemId cs (p.setupClosTopology S) = .ok nodes) (htor : tor < p.numPods * p.h) :
    ∀ v, p.HasNode v → p.Guards (cs.foldl p.obey fun _ => true) tor v (nodes v) := by
  refine run_guards cs (fits_of_valid hp) htor hcs (fun v hv => ?_) hrun
  have hmirrors : p.Mirrors (fun _ => true) v (p.setupClosTopology S v) :=
    mirrors_after S [] hp (by simp) hv
  exact hmirrors.guards htor

lemma Journey.local_pod {q f j pod e k : ℕ} {t : Trip} (ht : p.Journey up nodes q f j pod e k t)
    (hq : q = pod) : ∀ v ∈ t.switches, v.pod = some q := by
  subst hq
  cases ht with
  | sameHost | sameEdge | samePod | stuckEdge =>
    simp [Trip.switches, Trip.visited, Node.isSwitch, Node.pod]
  | overCore a c hne => exact (hne rfl).elim
  | stuckAggregate a hne => exact (hne rfl).elim

def drained : List Command := [.linkDown .edge 0 .aggregate 0, .setWcmp .edge 0 3 2 50]

lemma drained_careful : twoPods.CarefulFrom (fun _ => true) drained := by
  have hl : twoPods.HasLink (.edgeAgg 0 0 0) := ⟨by decide, by decide, by decide⟩
  have hobey : twoPods.obey (fun _ => true) (.linkDown .edge 0 .aggregate 0) =
      Function.update (fun _ => true) (.edgeAgg 0 0 0) false := obey_command hl false
  refine ⟨trivial, fun _ j tor l hkey howner => ?_, trivial⟩
  change (if 1 < j ∧ j ≤ 3 ∧ tor < 4 ∧ tor ≠ 0 then
    some (Link.edgeAgg (tor / 2) (tor % 2) (j - 1 - 1)) else none) = some l at howner
  rw [Option.ite_none_right_eq_some] at howner
  obtain ⟨⟨-, hj, htor, -⟩, howner⟩ := howner
  obtain ⟨rfl, rfl⟩ := (WcmpWeights.getLeveledIf_inj (by omega) (by decide) (by omega) (by decide)).mp hkey
  obtain rfl := Option.some.inj howner
  rw [hobey]
  decide

lemma drained_run : ∃ nodes, twoPods.run (fun _ => 0) drained
    (twoPods.setupClosTopology listStaticRouting) = .ok nodes := by
  have hl : twoPods.HasLink (.edgeAgg 0 0 0) := ⟨by decide, by decide, by decide⟩
  have hedge : twoPods.HasNode (.edge 0 0) := ⟨by decide, by decide⟩
  have htracks : ∀ v, twoPods.HasNode v →
      twoPods.Tracks (fun _ => true) v (twoPods.setupClosTopology listStaticRouting v) :=
    fun v hv => setup_tracks hv
  have hdown : twoPods.execute (fun _ => 0) (.linkDown .edge 0 .aggregate 0) _ = _ :=
    execute_link (fun _ => 0) false hl rfl fun v hv => (htracks v hv).ready.shape
  obtain ⟨r, hr⟩ := Option.isSome_iff_exists.mp ((htracks _ hedge).effect hedge hl false).runsWcmp
  have hget : twoPods.getEdge 0 = .ok (.edge 0 0) := if_pos (by decide)
  rw [drained, run, hdown, Except.bind, run, execute, doUpdateWcmp]
  rw [hget, Except.bind, Nodes.setInterfaceWeight, hr]
  exact ⟨_, rfl⟩

/-- After every script that gives no weight towards a dead end, each packet between two hosts is
safe, and one between hosts of a pod never leaves the pod. -/
theorem script_safe (S : Ipv4StaticRouting) (systemId : Node → ℕ) (cs : List Command)
    (nodes : Nodes S) (hp : p.Valid) (hrun : p.run systemId cs (p.setupClosTopology S) = .ok nodes)
    (hcs : p.CarefulFrom (fun _ => true) cs) (tor host tor' host' : ℕ)
    (hv : p.HasNode (.server tor host)) (hv' : p.HasNode (.server tor' host')) :
    ∃ dest, getServerAddress (p.setupClosTopology S) tor' host' = some dest ∧
      ∀ hash, let t := Nodes.send dest hash (.server tor host) nodes
        p.Safe nodes tor' (.server tor' host') t ∧
          (tor / p.h = tor' / p.h → ∀ v ∈ t.switches, v.pod = some (tor / p.h)) := by
  obtain ⟨hs, hsrc⟩ := isHost_of_hasNode hv
  obtain ⟨hd, hdst⟩ := isHost_of_hasNode hv'
  have hguards := script_guards hp hcs hrun hv'.1
  rw [← hdst] at hguards
  refine ⟨_, getServerAddress_setup S hv', fun hash => ?_⟩
  have hjourney := (send_walk hp hs hd hguards hash).journey hs hd hguards
  have hsafe := hjourney.safe_of_tracks hs hd fun v hv => (hguards v hv).tracks
  have hlocal := hjourney.local_pod
  rw [hsrc] at hsafe hlocal
  rw [hdst] at hsafe
  exact ⟨hsafe, hlocal⟩

theorem script_safe_drained :
    ∃ nodes, twoPods.run (fun _ => 0) drained (twoPods.setupClosTopology listStaticRouting) =
        .ok nodes ∧
      ∃ dest, getServerAddress (twoPods.setupClosTopology listStaticRouting) 2 0 = some dest ∧
        ∀ hash, let t := Nodes.send dest hash (.server 0 0) nodes
          twoPods.Safe nodes 2 (.server 2 0) t ∧
            (0 / twoPods.h = 2 / twoPods.h → ∀ v ∈ t.switches, v.pod = some (0 / twoPods.h)) := by
  obtain ⟨nodes, hrun⟩ := drained_run
  exact ⟨nodes, hrun, script_safe listStaticRouting (fun _ => 0) drained nodes twoPods_valid hrun
    drained_careful 0 0 2 0 ⟨by decide, by decide⟩ ⟨by decide, by decide⟩⟩

/-- After such a script the trips from host to host are exactly the walks over usable uplinks. -/
theorem script_trips_iff (S : Ipv4StaticRouting) (systemId : Node → ℕ) (cs : List Command)
    (nodes : Nodes S) (hp : p.Valid) (hrun : p.run systemId cs (p.setupClosTopology S) = .ok nodes)
    (hcs : p.CarefulFrom (fun _ => true) cs) (tor host tor' host' : ℕ)
    (hv : p.HasNode (.server tor host)) (hv' : p.HasNode (.server tor' host')) (t : Trip) :
    ∃ dest, getServerAddress (p.setupClosTopology S) tor' host' = some dest ∧
      ((∃ hash, Nodes.send dest hash (.server tor host) nodes = t) ↔
        p.Walk nodes (tor / p.h) (tor % p.h) host (tor' / p.h) (tor' % p.h) host' t) := by
  obtain ⟨hs, hsrc⟩ := isHost_of_hasNode hv
  obtain ⟨hd, hdst⟩ := isHost_of_hasNode hv'
  have hguards := script_guards hp hcs hrun hv'.1
  rw [← hdst] at hguards
  refine ⟨_, getServerAddress_setup S hv', ?_, fun hwalk => ?_⟩
  · rintro ⟨hash, rfl⟩
    have hwalk := send_walk hp hs hd hguards hash
    rwa [hsrc] at hwalk
  · have hsent := hwalk.sent hp hs hd hguards
    rwa [hsrc] at hsent

theorem script_trips_iff_drained :
    let t : Trip := ⟨[(.server 0 0, 1), (.edge 0 0, 2), (.aggregate 0 0, 3), (.core 0, 2),
      (.aggregate 1 0, 1), (.edge 1 0, 1)], .server 2 0, .delivered⟩
    ∃ nodes, twoPods.run (fun _ => 0) drained (twoPods.setupClosTopology listStaticRouting) =
        .ok nodes ∧
      ∃ dest, getServerAddress (twoPods.setupClosTopology listStaticRouting) 2 0 = some dest ∧
        ((∃ hash, Nodes.send dest hash (.server 0 0) nodes = t) ↔
          twoPods.Walk nodes (0 / twoPods.h) (0 % twoPods.h) 0 (2 / twoPods.h) (2 % twoPods.h) 0 t) := by
  intro t
  obtain ⟨nodes, hrun⟩ := drained_run
  exact ⟨nodes, hrun, script_trips_iff listStaticRouting (fun _ => 0) drained nodes twoPods_valid hrun
    drained_careful 0 0 2 0 ⟨by decide, by decide⟩ ⟨by decide, by decide⟩ t⟩

end Trips

end TopologyDescriptor

end SwarmSim.Clos
