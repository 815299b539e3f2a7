import SwarmSim.Clos.Fabric
import SwarmSim.Clos.Scenario
import SwarmSim.Clos.Wiring
import SwarmSim.Machine.Fold

namespace SwarmSim.Clos

open Machine Ns3 Wcmp

namespace TopologyDescriptor

variable (p : TopologyDescriptor) {S : Ipv4StaticRouting}

def srcEnd : Link → Node × ℕ
  | .edgeAgg pod e a => (.edge pod e, p.numServers + a + 1)
  | .aggCore pod a k => (.aggregate pod a, k + p.h + 1)

def dstEnd : Link → Node × ℕ
  | .edgeAgg pod e a => (.aggregate pod a, e + 1)
  | .aggCore pod a k => (.core (k * p.h + a), pod + 1)

def command : Link → Bool → Command
  | .edgeAgg pod e a, true => .linkUp .edge (pod * p.h + e) .aggregate (pod * p.h + a)
  | .edgeAgg pod e a, false => .linkDown .edge (pod * p.h + e) .aggregate (pod * p.h + a)
  | .aggCore pod a k, true => .linkUp .aggregate (pod * p.h + a) .core (k * p.h + a)
  | .aggCore pod a k, false => .linkDown .aggregate (pod * p.h + a) .core (k * p.h + a)

def reweigh (weight : ℕ) : Link → Node → NodeStack S → NodeStack S
  | .edgeAgg pod e a, .edge q f, s =>
    if q < p.numPods ∧ f < p.h ∧ ¬ (q = pod ∧ f = e) then
      s.modifyWcmp (·.setInterfaceWeight (p.numServers + a + 1) ((pod * p.h + e) % 2 ^ 16) weight)
    else s
  | .aggCore pod a k, .aggregate q b, s =>
    if q < p.numPods ∧ q ≠ pod ∧ b = a then
      forRange (fun m s => s.modifyWcmp
        (·.setInterfaceWeight (k + p.h + 1) ((p.h * pod + m) % 2 ^ 16) weight)) p.h s
    else s
  | _, _, s => s

def restore : Link → Node → NodeStack S → NodeStack S
  | .edgeAgg pod _ a, v, s =>
    if v = .aggregate pod a then forRange (fun i s => s.addStaticRoute (torRoute pod i)) p.h s else s
  | .aggCore _ a k, v, s =>
    if v = .core (k * p.h + a) then forRange (fun q s => s.addStaticRoute (podRoute q)) p.numPods s
    else s

def setEnds (up : Bool) (l : Link) (v : Node) (s : NodeStack S) : NodeStack S :=
  let set (i : ℕ) (s : NodeStack S) := if up then s.setUp i else s.setDown i
  let s := if v = (p.srcEnd l).1 then set (p.srcEnd l).2 s else s
  if v = (p.dstEnd l).1 then set (p.dstEnd l).2 s else s

def effect (l : Link) (up : Bool) (v : Node) (s : NodeStack S) : NodeStack S :=
  let s := p.reweigh (if up then 1 else 0) l v (p.setEnds up l v s)
  if up then p.restore l v s else s

structure Shape (v : Node) (s : NodeStack S) : Prop where
  length : s.interfaces.length = (p.devices v).length
  runsWcmp : s.wcmp.isSome = v.runsWcmp

variable {p} {nodes : Nodes S} {q f a e k pod weight : ℕ}

lemma getEdge_eq (hq : q < p.numPods) (hf : f < p.h) : p.getEdge (q * p.h + f) = .ok (.edge q f) := by
  rw [getEdge, mul_add_div hf, mul_add_mod hf, if_pos ⟨hq, hf⟩]

lemma getAggregate_eq (hq : q < p.numPods) (hf : f < p.h) :
    p.getAggregate (q * p.h + f) = .ok (.aggregate q f) := by
  rw [getAggregate, mul_add_div hf, mul_add_mod hf, if_pos ⟨hq, hf⟩]

lemma getCore_eq (hk : k < p.h) (hf : f < p.h) :
    p.getCore (k * p.h + f) = .ok (.core (k * p.h + f)) := by
  rw [getCore, if_pos (core_lt_numCores hk hf)]

lemma edgeLink_eq (hpod : pod < p.numPods) (he : e < p.h) (ha : a < p.h) :
    p.getLinkInterfaceIndices .edge (pod * p.h + e) .aggregate (pod * p.h + a) =
      .ok ⟨.edge pod e, p.numServers + a + 1, .aggregate pod a, e + 1⟩ := by
  rw [getLinkInterfaceIndices, getPodNum, getPodNum, mul_add_div he, mul_add_div ha,
    if_neg (not_not.mpr rfl), getEdge_eq hpod he, getAggregate_eq hpod ha]
  simp only [Except.bind, Except.map, getPodAndIndex, mul_add_mod he, mul_add_mod ha]

lemma coreLink_eq (hpod : pod < p.numPods) (ha : a < p.h) (hk : k < p.h) :
    p.getLinkInterfaceIndices .aggregate (pod * p.h + a) .core (k * p.h + a) =
      .ok ⟨.aggregate pod a, k + p.h + 1, .core (k * p.h + a), pod + 1⟩ := by
  rw [getLinkInterfaceIndices, mul_add_mod ha, mul_add_mod ha, if_neg (not_not.mpr rfl),
    getAggregate_eq hpod ha, getCore_eq hk ha]
  simp only [Except.bind, Except.map, getPodAndIndex, mul_add_div ha]

lemma setInterfaceWeight_eq {v : Node} (hv : (nodes v).wcmp.isSome) (i level weight : ℕ) :
    nodes.setInterfaceWeight v i level weight =
      .ok (nodes.modify v (·.modifyWcmp (·.setInterfaceWeight i level weight))) := by
  obtain ⟨r, hr⟩ := Option.isSome_iff_exists.mp hv
  rw [Nodes.setInterfaceWeight, hr]

def HasWcmp (p : TopologyDescriptor) (nodes : Nodes S) : Prop :=
  ∀ v, p.HasNode v → v.runsWcmp = true → (nodes v).wcmp.isSome

lemma HasWcmp.modify {u : Node} {W : WcmpStaticRouting → WcmpStaticRouting} (h : p.HasWcmp nodes) :
    p.HasWcmp (nodes.modify u (·.modifyWcmp W)) := by
  intro v hv hr
  rw [Nodes.modify_apply]
  split
  · rw [NodeStack.modifyWcmp, Option.isSome_map]
    exact h v hv hr
  · exact h v hv hr

lemma updateEdge_ok {i level : ℕ} (h : p.HasWcmp nodes) (hq : q < p.numPods) (hf : f < p.h)
    (hw : weight < 2 ^ 16) : p.doUpdateWcmp .edge (q * p.h + f) i level weight nodes =
      .ok (nodes.modify (.edge q f) (·.modifyWcmp
        (·.setInterfaceWeight i (level % 2 ^ 16) weight))) := by
  rw [doUpdateWcmp, getEdge_eq hq hf, Except.bind, setInterfaceWeight_eq (h (.edge q f) ⟨hq, hf⟩ rfl),
    Nat.mod_eq_of_lt hw]

lemma updateAggregate_ok {i level : ℕ} (h : p.HasWcmp nodes) (hq : q < p.numPods) (hf : f < p.h)
    (hw : weight < 2 ^ 16) : p.doUpdateWcmp .aggregate (q * p.h + f) i level weight nodes =
      .ok (nodes.modify (.aggregate q f) (·.modifyWcmp
        (·.setInterfaceWeight i (level % 2 ^ 16) weight))) := by
  rw [doUpdateWcmp, getAggregate_eq hq hf, Except.bind,
    setInterfaceWeight_eq (h (.aggregate q f) ⟨hq, hf⟩ rfl), Nat.mod_eq_of_lt hw]

section EdgeMitigation

variable (W : NodeStack S → NodeStack S)

lemma samePod_apply (v : Node) :
    forRange (fun k m => if k = e then m else m.modify (.edge pod k) W) p.h nodes v =
      match v with
      | .edge q f => if q = pod ∧ f < p.h then if f = e then nodes v else W (nodes v) else nodes v
      | _ => nodes v := by
  refine (forRange_apply (g := fun k s => if v = .edge pod k then if k = e then s else W s else s)
    ?_).trans ?_
  · intro k m _
    by_cases hk : k = e
    · simp only [if_pos hk, ite_self]
    · simp only [if_neg hk, Nodes.modify_apply]
  · cases v with
    | edge q f => simp only [Node.edge.injEq, forRange_at_right]
    | _ => simp only [reduceCtorEq, if_false, forRange_id]

lemma otherPods_apply (ha : a < p.h) (v : Node) :
    forRange (fun q m => if q = pod then m else forRange (fun f m => forRange (fun b m =>
      if b ≠ a then m else m.modify (.edge q f) W) p.h m) p.h m) p.numPods nodes v =
      match v with
      | .edge q f =>
        if q < p.numPods ∧ f < p.h then if q = pod then nodes v else W (nodes v) else nodes v
      | _ => nodes v := by
  refine (forRange_apply (g := fun q s => if q = pod then s else
    forRange (fun f s => if v = .edge q f then W s else s) p.h s) ?_).trans ?_
  · intro q m _
    split
    · rfl
    · apply forRange_apply
      intro f m _
      have hswap : ∀ b (m : Nodes S), (if b ≠ a then m else m.modify (.edge q f) W) =
          if a = b then m.modify (.edge q f) W else m := by
        intro b m
        by_cases hb : a = b
        · rw [if_pos hb, if_neg (not_not.mpr hb.symm)]
        · rw [if_neg hb, if_pos (Ne.symm hb)]
      simp only [hswap, forRange_at, ha, if_true, Nodes.modify_apply]
  · cases v with
    | edge q f =>
      simp only [Node.edge.injEq, forRange_at_right]
      have hswap : ∀ q' (s : NodeStack S), (if q' = pod then s else if q = q' ∧ f < p.h then W s
          else s) = if q = q' ∧ f < p.h then if q' = pod then s else W s else s := by
        intro q' s
        by_cases hq : q' = pod
        · simp only [if_pos hq, ite_self]
        · simp only [if_neg hq]
      simp only [hswap, forRange_at_left]
    | _ => simp only [reduceCtorEq, if_false, forRange_id, ite_self]

end EdgeMitigation

def edgeUpdate (p : TopologyDescriptor) (pod e a weight : ℕ) : NodeStack S → NodeStack S :=
  (·.modifyWcmp (·.setInterfaceWeight (p.numServers + a + 1) ((pod * p.h + e) % 2 ^ 16) weight))

lemma samePod_ok (h : p.HasWcmp nodes) (hpod : pod < p.numPods) (ha : a < p.h) (hw : weight < 2 ^ 16) :
    forRangeM (fun k nodes => if pod * p.h + k = pod * p.h + e then .ok nodes
      else (p.getLinkInterfaceIndices .edge (pod * p.h + k) .aggregate (pod * p.h + a)).bind
        fun props => p.doUpdateWcmp .edge (pod * p.h + k) props.srcIf (pod * p.h + e) weight nodes)
      p.h nodes =
        .ok (forRange (fun k m => if k = e then m else
          m.modify (.edge pod k) (p.edgeUpdate pod e a weight)) p.h nodes) ∧
      p.HasWcmp (forRange (fun k m => if k = e then m else
          m.modify (.edge pod k) (p.edgeUpdate pod e a weight)) p.h nodes) := by
  apply forRangeM_ok h
  intro k m hk hm
  by_cases hke : k = e
  · subst hke
    simp only [if_true]
    exact ⟨trivial, hm⟩
  · have hne : pod * p.h + k ≠ pod * p.h + e := by omega
    rw [if_neg hne, edgeLink_eq hpod hk ha, Except.bind, updateEdge_ok hm hpod hk hw, if_neg hke]
    exact ⟨rfl, hm.modify⟩

lemma otherPods_ok (h : p.HasWcmp nodes) (ha : a < p.h) (hw : weight < 2 ^ 16) :
    forRangeM (fun q nodes => if q = pod then .ok nodes else forRangeM (fun f nodes =>
      forRangeM (fun b nodes => if b ≠ a then .ok nodes else
        (p.getLinkInterfaceIndices .edge (q * p.h + f) .aggregate (q * p.h + b)).bind
          fun props => p.doUpdateWcmp .edge (q * p.h + f) props.srcIf (pod * p.h + e) weight nodes)
        p.h nodes) p.h nodes) p.numPods nodes =
      .ok (forRange (fun q m => if q = pod then m else forRange (fun f m => forRange (fun b m =>
        if b ≠ a then m else m.modify (.edge q f) (p.edgeUpdate pod e a weight)) p.h m) p.h m)
        p.numPods nodes) := by
  refine (forRangeM_skip (P := p.HasWcmp) (c := (· = pod)) h fun q m hq _ hm => ?_).1
  apply forRangeM_ok hm
  intro f m hf hm
  apply forRangeM_skip (c := (· ≠ a)) hm
  intro b m hb hba hm
  obtain rfl := not_not.mp hba
  rw [edgeLink_eq hq hf hb, Except.bind, updateEdge_ok hm hq hf hw]
  exact ⟨rfl, hm.modify⟩

lemma mitigateEdge_ok (h : p.HasWcmp nodes) (hpod : pod < p.numPods) (he : e < p.h) (ha : a < p.h)
    (hw : weight < 2 ^ 16) :
    p.mitigateEdgeToAggregateLink (pod * p.h + e) (pod * p.h + a) weight nodes =
      .ok fun v => p.reweigh weight (.edgeAgg pod e a) v (nodes v) := by
  obtain ⟨hsame, hP⟩ := samePod_ok (e := e) h hpod ha hw
  rw [mitigateEdgeToAggregateLink]
  simp only [getPodNum, mul_add_div he, mul_add_div ha, mul_add_mod ha]
  rw [if_neg (not_not.mpr rfl), hsame, Except.bind, otherPods_ok hP ha hw]
  congr 1
  funext v
  rw [otherPods_apply _ ha, samePod_apply]
  cases v with
  | edge q f =>
    rw [reweigh]
    by_cases hq : q = pod
    · subst hq
      by_cases hf : f = e
      · subst hf
        simp only [hpod, he, and_self, if_true, not_true_eq_false, and_false, if_false]
      · simp only [hpod, true_and, hf, if_false, if_true, not_false_eq_true, and_true, ite_self]
        rfl
    · simp only [hq, false_and, if_false, not_false_eq_true, and_true]
      rfl
  | _ => rfl

def coreWrite (p : TopologyDescriptor) (pod k weight m : ℕ) : NodeStack S → NodeStack S :=
  (·.modifyWcmp (·.setInterfaceWeight (k + p.h + 1) ((p.h * pod + m) % 2 ^ 16) weight))

lemma mitigateCore_loop (h : p.HasWcmp nodes) (ha : a < p.h) (hk : k < p.h)
    (hw : weight < 2 ^ 16) :
    p.mitigateAggregateToCoreLink (pod * p.h + a) (k * p.h + a) weight nodes =
      .ok (forRange (fun q m => if q = pod then m else forRange (fun b m => if b ≠ a then m else
        forRange (fun i m => m.modify (.aggregate q b) (p.coreWrite pod k weight i)) p.h m) p.h m)
        p.numPods nodes) := by
  rw [mitigateAggregateToCoreLink]
  simp only [getPodNum, mul_add_div ha, mul_add_mod ha]
  refine (forRangeM_skip (P := p.HasWcmp) (c := (· = pod)) h fun q m hq _ hm => ?_).1
  apply forRangeM_ok hm
  intro b m hb hm
  rw [Nat.mod_eq_of_lt hb]
  by_cases hba : b = a
  · subst hba
    simp only [ne_eq, not_true_eq_false, if_false]
    rw [coreLink_eq hq hb hk, Except.bind]
    apply forRangeM_ok hm
    intro i m _ hm
    rw [updateAggregate_ok hm hq hb hw]
    exact ⟨rfl, hm.modify⟩
  · simp only [ne_eq, hba, not_false_eq_true, if_true]
    exact ⟨trivial, hm⟩

lemma coreLoop_apply (W : ℕ → NodeStack S → NodeStack S) (ha : a < p.h) (nodes : Nodes S) (v : Node) :
    forRange (fun q m => if q = pod then m else forRange (fun b m => if b ≠ a then m else
      forRange (fun i m => m.modify (.aggregate q b) (W i)) p.h m) p.h m) p.numPods nodes v =
    forRange (fun q s => if q = pod then s else
      if v = .aggregate q a then forRange W p.h s else s) p.numPods (nodes v) := by
  refine (forRange_apply (g := fun q s => if q = pod then s else forRange (fun b s =>
    if a = b then if v = .aggregate q b then forRange W p.h s else s else s) p.h s) ?_).trans ?_
  · intro q m _
    split
    · rfl
    · apply forRange_apply
      intro b m _
      by_cases hb : a = b
      · subst hb
        simp only [ne_eq, not_true_eq_false, if_false, if_true]
        refine (forRange_apply (g := fun i s => if v = .aggregate q a then W i s else s) ?_).trans ?_
        · exact fun i m _ => Nodes.modify_apply _ _ _ _
        · rw [forRange_if]
      · simp only [if_neg hb, if_pos (Ne.symm hb)]
  · simp only [forRange_at, ha, if_true]

lemma mitigateCore_ok (h : p.HasWcmp nodes) (ha : a < p.h) (hk : k < p.h)
    (hw : weight < 2 ^ 16) :
    p.mitigateAggregateToCoreLink (pod * p.h + a) (k * p.h + a) weight nodes =
      .ok fun v => p.reweigh weight (.aggCore pod a k) v (nodes v) := by
  rw [mitigateCore_loop h ha hk hw]
  congr 1
  funext v
  rw [coreLoop_apply _ ha]
  cases v with
  | aggregate q b =>
    have hswap : ∀ q' (s : NodeStack S), (if q' = pod then s else if Node.aggregate q b =
        .aggregate q' a then forRange (p.coreWrite pod k weight) p.h s else s) =
        if q = q' ∧ b = a then
          if q' = pod then s else forRange (p.coreWrite pod k weight) p.h s else s := by
      intro q' s
      simp only [Node.aggregate.injEq]
      by_cases hq : q' = pod
      · simp only [if_pos hq, ite_self]
      · simp only [if_neg hq]
    simp only [hswap, forRange_at_left, reweigh]
    by_cases hq : q = pod
    · simp only [hq, ne_eq, not_true_eq_false, false_and, and_false, if_false, if_true, ite_self]
    · simp only [ne_eq, hq, not_false_eq_true, true_and, if_false]
      rfl
  | _ => simp only [reduceCtorEq, if_false, forRange_id, ite_self, reweigh]

section Execution

variable {l : Link} {up : Bool}

lemma devices_length (v : Node) : (p.devices v).length = match v with
    | .edge _ _ => 1 + p.numServers + p.h
    | .aggregate _ _ => 1 + p.h + p.h
    | .core _ => 1 + p.numPods
    | .server _ _ => 2 := by
  cases v <;> simp [devices, remotes] <;> omega

lemma srcEnd_mem (hl : p.HasLink l) : p.HasNode (p.srcEnd l).1 ∧
    (p.srcEnd l).2 < (p.devices (p.srcEnd l).1).length := by
  cases l with
  | edgeAgg pod e a =>
    obtain ⟨hpod, he, ha⟩ := hl
    refine ⟨⟨hpod, he⟩, ?_⟩
    simp only [srcEnd, devices_length]
    omega
  | aggCore pod a k =>
    obtain ⟨hpod, ha, hk⟩ := hl
    refine ⟨⟨hpod, ha⟩, ?_⟩
    simp only [srcEnd, devices_length]
    omega

lemma dstEnd_mem (hl : p.HasLink l) : p.HasNode (p.dstEnd l).1 ∧
    (p.dstEnd l).2 < (p.devices (p.dstEnd l).1).length := by
  cases l with
  | edgeAgg pod e a =>
    obtain ⟨hpod, he, ha⟩ := hl
    refine ⟨⟨hpod, ha⟩, ?_⟩
    simp only [dstEnd, devices_length]
    omega
  | aggCore pod a k =>
    obtain ⟨hpod, ha, hk⟩ := hl
    refine ⟨mul_add_lt hk ha, ?_⟩
    simp only [dstEnd, devices_length]
    omega

lemma ends_ne (p : TopologyDescriptor) (l : Link) : (p.dstEnd l).1 ≠ (p.srcEnd l).1 := by
  cases l <;> simp [srcEnd, dstEnd]

def setInterface (up : Bool) (v : Node) (i : ℕ) (nodes : Nodes S) : Except Fault (Nodes S) :=
  if up then nodes.setUp v i else nodes.setDown v i

lemma setInterface_ok {v : Node} {i : ℕ} (hi : i < (nodes v).interfaces.length) :
    setInterface up v i nodes =
      .ok (nodes.modify v fun s => if up then s.setUp i else s.setDown i) := by
  cases up
  · exact if_pos hi
  · exact if_pos hi

lemma setEnds_ok (up : Bool) (hl : p.HasLink l) (h : ∀ v, p.HasNode v → p.Shape v (nodes v)) :
    (setInterface up (p.srcEnd l).1 (p.srcEnd l).2 nodes).bind
        (setInterface up (p.dstEnd l).1 (p.dstEnd l).2) =
      .ok fun v => p.setEnds up l v (nodes v) := by
  obtain ⟨hsrc, hsrcIf⟩ := srcEnd_mem hl
  obtain ⟨hdst, hdstIf⟩ := dstEnd_mem hl
  rw [← (h _ hsrc).length] at hsrcIf
  rw [← (h _ hdst).length] at hdstIf
  rw [setInterface_ok hsrcIf, Except.bind, setInterface_ok]
  · congr 1
    funext v
    simp only [setEnds, Nodes.modify_apply]
  · rwa [Nodes.modify_apply, if_neg (ends_ne p l)]

lemma setEnds_isSome (l : Link) (up : Bool) (v : Node) (s : NodeStack S) :
    (p.setEnds up l v s).wcmp.isSome = s.wcmp.isSome := by
  have hset : ∀ (i : ℕ) (s : NodeStack S),
      (if up then s.setUp i else s.setDown i).wcmp.isSome = s.wcmp.isSome := by
    intro i s
    cases up <;> simp [NodeStack.setUp, NodeStack.setDown]
  rw [setEnds]
  dsimp only
  split
  · rw [hset]
    split
    · rw [hset]
    · rfl
  · split
    · rw [hset]
    · rfl

lemma restoreAggregate_ok (e : ℕ) (hpod : pod < p.numPods) (ha : a < p.h) :
    p.restoreStaticRoutesAggregate (pod * p.h + a) nodes =
      .ok fun v => p.restore (.edgeAgg pod e a) v (nodes v) := by
  rw [restoreStaticRoutesAggregate, getAggregate_eq hpod ha, Except.map, getPodNum, mul_add_div ha]
  congr 1
  funext v
  rw [restore, ← forRange_if]
  exact forRange_apply fun i m _ => Nodes.modify_apply _ _ _ _

lemma restoreCore_ok (pod : ℕ) (hk : k < p.h) (ha : a < p.h) :
    p.restoreStaticRoutesCore (k * p.h + a) nodes =
      .ok fun v => p.restore (.aggCore pod a k) v (nodes v) := by
  rw [restoreStaticRoutesCore, getCore_eq hk ha, Except.map]
  congr 1
  funext v
  rw [restore, ← forRange_if]
  exact forRange_apply fun i m _ => Nodes.modify_apply _ _ _ _

lemma localLink_edgeAgg {systemId : Node → ℕ} {pod e a : ℕ} (hl : p.HasLink (.edgeAgg pod e a))
    (hs : systemId (.edge pod e) = systemId (.aggregate pod a)) :
    p.localLink systemId .edge (pod * p.h + e) .aggregate (pod * p.h + a) =
      .ok ⟨.edge pod e, p.numServers + a + 1, .aggregate pod a, e + 1⟩ := by
  obtain ⟨hpod, he, ha⟩ := hl
  rw [localLink, edgeLink_eq hpod he ha]
  exact if_pos hs

lemma localLink_aggCore {systemId : Node → ℕ} {pod a k : ℕ} (hl : p.HasLink (.aggCore pod a k))
    (hs : systemId (.aggregate pod a) = systemId (.core (k * p.h + a))) :
    p.localLink systemId .aggregate (pod * p.h + a) .core (k * p.h + a) =
      .ok ⟨.aggregate pod a, k + p.h + 1, .core (k * p.h + a), pod + 1⟩ := by
  obtain ⟨hpod, ha, hk⟩ := hl
  rw [localLink, coreLink_eq hpod ha hk]
  exact if_pos hs

theorem execute_link (systemId : Node → ℕ) (up : Bool) (hl : p.HasLink l)
    (hs : systemId (p.srcEnd l).1 = systemId (p.dstEnd l).1)
    (h : ∀ v, p.HasNode v → p.Shape v (nodes v)) :
    p.execute systemId (p.command l up) nodes = .ok fun v => p.effect l up v (nodes v) := by
  have hends := setEnds_ok up hl h
  have hwcmp : p.HasWcmp fun v => p.setEnds up l v (nodes v) := by
    intro v hv hr
    rw [setEnds_isSome, (h v hv).runsWcmp, hr]
  cases l with
  | edgeAgg pod e a =>
    have hlink := localLink_edgeAgg hl hs
    obtain ⟨hpod, he, ha⟩ := hl
    cases up with
    | false =>
      rw [command, execute, doDisableLink, hlink]
      refine (bind_of_ok hends _).trans ?_
      exact mitigateEdge_ok hwcmp hpod he ha (by norm_num)
    | true =>
      rw [command, execute, doEnableLink, hlink]
      refine (bind_of_ok hends _).trans ?_
      refine (congrArg (Except.bind · _)
        (mitigateEdge_ok hwcmp hpod he ha (by norm_num : 1 < 2 ^ 16))).trans ?_
      exact restoreAggregate_ok e hpod ha
  | aggCore pod a k =>
    have hlink := localLink_aggCore hl hs
    obtain ⟨hpod, ha, hk⟩ := hl
    cases up with
    | false =>
      rw [command, execute, doDisableLink, hlink]
      refine (bind_of_ok hends _).trans ?_
      exact mitigateCore_ok hwcmp ha hk (by norm_num)
    | true =>
      rw [command, execute, doEnableLink, hlink]
      refine (bind_of_ok hends _).trans ?_
      have hmitigate : p.mitigateAggregateToCoreLinkUp (pod * p.h + a) (k * p.h + a)
          (fun v => p.setEnds true (.aggCore pod a k) v (nodes v)) =
          .ok fun v => p.reweigh 1 (.aggCore pod a k) v
            (p.setEnds true (.aggCore pod a k) v (nodes v)) :=
        mitigateCore_ok hwcmp ha hk (by norm_num)
      refine (congrArg (Except.bind · _) hmitigate).trans ?_
      exact restoreCore_ok pod hk ha

end Execution

end TopologyDescriptor

end SwarmSim.Clos
