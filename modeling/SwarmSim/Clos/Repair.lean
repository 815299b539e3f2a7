import SwarmSim.Clos.Tracking
import SwarmSim.Machine.Fold

namespace SwarmSim.Clos

open Machine Ns3 Wcmp

namespace TopologyDescriptor

variable {p : TopologyDescriptor} {S : Ipv4StaticRouting} {systemId : Node → ℕ} {nodes nodes' : Nodes S}
  {up : Link → Bool} {v : Node} {l : Link} {s : NodeStack S}

section Inversion

variable {srcLevel dstLevel : TopologyLevel} {srcIdx dstIdx : ℕ} {props : LinkInterfaces}

lemma getEdge_ok {fullIdx : ℕ} (h : p.getEdge fullIdx = .ok v) :
    (fullIdx / p.h < p.numPods ∧ fullIdx % p.h < p.h) ∧ v = .edge (fullIdx / p.h) (fullIdx % p.h) := by
  rw [getEdge] at h
  split at h
  · rename_i hlt
    exact ⟨hlt, (Except.ok.inj h).symm⟩
  · cases h

lemma getAggregate_ok {fullIdx : ℕ} (h : p.getAggregate fullIdx = .ok v) :
    (fullIdx / p.h < p.numPods ∧ fullIdx % p.h < p.h) ∧
      v = .aggregate (fullIdx / p.h) (fullIdx % p.h) := by
  rw [getAggregate] at h
  split at h
  · rename_i hlt
    exact ⟨hlt, (Except.ok.inj h).symm⟩
  · cases h

lemma getLinkInterfaceIndices_ok
    (h : p.getLinkInterfaceIndices srcLevel srcIdx dstLevel dstIdx = .ok props)
    (hsrc : p.HasNode props.src → props.srcIf < (p.devices props.src).length) :
    ∃ l, p.HasLink l ∧ props = ⟨(p.srcEnd l).1, (p.srcEnd l).2, (p.dstEnd l).1, (p.dstEnd l).2⟩ ∧
      p.command l true = .linkUp srcLevel srcIdx dstLevel dstIdx ∧
      p.command l false = .linkDown srcLevel srcIdx dstLevel dstIdx := by
  unfold getLinkInterfaceIndices at h
  split at h
  · split at h
    · cases h
    · rename_i hpod
      rw [not_not, getPodNum, getPodNum] at hpod
      obtain ⟨src, hsrcOk, h⟩ := bind_ok h
      obtain ⟨dst, hdstOk, rfl⟩ := map_ok h
      obtain ⟨⟨hq, he⟩, rfl⟩ := getEdge_ok hsrcOk
      obtain ⟨⟨-, ha⟩, rfl⟩ := getAggregate_ok hdstOk
      refine ⟨.edgeAgg (srcIdx / p.h) (srcIdx % p.h) (dstIdx % p.h), ⟨hq, he, ha⟩, ?_, ?_, ?_⟩
      · simp only [srcEnd, dstEnd, getPodAndIndex, hpod]
      · rw [command, Nat.div_add_mod', hpod, Nat.div_add_mod']
      · rw [command, Nat.div_add_mod', hpod, Nat.div_add_mod']
  · split at h
    · cases h
    · rename_i hgroup
      rw [not_not] at hgroup
      obtain ⟨src, hsrcOk, h⟩ := bind_ok h
      obtain ⟨dst, hdstOk, rfl⟩ := map_ok h
      obtain ⟨⟨hq, ha⟩, rfl⟩ := getAggregate_ok hsrcOk
      rw [getCore] at hdstOk
      split at hdstOk
      · obtain rfl := Except.ok.inj hdstOk
        have hlt := hsrc ⟨hq, ha⟩
        rw [devices_length] at hlt
        dsimp only at hlt
        refine ⟨.aggCore (srcIdx / p.h) (srcIdx % p.h) (dstIdx / p.h), ⟨hq, ha, by omega⟩, ?_, ?_, ?_⟩
        · simp only [srcEnd, dstEnd, getPodAndIndex, hgroup, Nat.div_add_mod']
        · rw [command, Nat.div_add_mod', hgroup, Nat.div_add_mod']
        · rw [command, Nat.div_add_mod', hgroup, Nat.div_add_mod']
      · cases hdstOk
  · cases h

lemma localLink_ok (h : ∀ v, p.HasNode v → p.Tracks up v (nodes v))
    (hlocal : p.localLink systemId srcLevel srcIdx dstLevel dstIdx = .ok props)
    (hlt : props.srcIf < (nodes props.src).interfaces.length) :
    ∃ l, p.Names systemId (l, true) ∧ p.command l true = .linkUp srcLevel srcIdx dstLevel dstIdx ∧
      p.command l false = .linkDown srcLevel srcIdx dstLevel dstIdx := by
  obtain ⟨props', hprops, hsys⟩ := bind_ok hlocal
  split at hsys
  · rename_i hranks
    obtain rfl := Except.ok.inj hsys
    obtain ⟨l, hl, rfl, hup, hdown⟩ := getLinkInterfaceIndices_ok hprops fun hv => by
      rwa [← (h _ hv).interfaces]
    exact ⟨l, ⟨hl, hranks⟩, hup, hdown⟩
  · cases hsys

lemma linkDown_ok (h : ∀ v, p.HasNode v → p.Tracks up v (nodes v))
    (he : p.execute systemId (.linkDown srcLevel srcIdx dstLevel dstIdx) nodes = .ok nodes') :
    ∃ l, p.Names systemId (l, false) ∧
      Command.linkDown srcLevel srcIdx dstLevel dstIdx = p.command l false := by
  obtain ⟨props, hlocal, he⟩ := bind_ok he
  obtain ⟨n, hset, -⟩ := bind_ok he
  rw [Nodes.setDown] at hset
  split at hset
  · rename_i hlt
    obtain ⟨l, hl, -, hdown⟩ := localLink_ok h hlocal hlt
    exact ⟨l, hl, hdown.symm⟩
  · cases hset

lemma linkUp_ok (h : ∀ v, p.HasNode v → p.Tracks up v (nodes v))
    (he : p.execute systemId (.linkUp srcLevel srcIdx dstLevel dstIdx) nodes = .ok nodes') :
    ∃ l, p.Names systemId (l, true) ∧
      Command.linkUp srcLevel srcIdx dstLevel dstIdx = p.command l true := by
  obtain ⟨props, hlocal, he⟩ := bind_ok he
  obtain ⟨n, hset, -⟩ := bind_ok he
  rw [Nodes.setUp] at hset
  split at hset
  · rename_i hlt
    obtain ⟨l, hl, hup, -⟩ := localLink_ok h hlocal hlt
    exact ⟨l, hl, hup.symm⟩
  · cases hset

def switchAt (p : TopologyDescriptor) : TopologyLevel → ℕ → Node
  | .edge, idx => .edge (idx / p.h) (idx % p.h)
  | .aggregate, idx => .aggregate (idx / p.h) (idx % p.h)
  | .core, idx => .core idx

lemma setWcmp_ok {level : TopologyLevel} {idx i wcmpLevel weight : ℕ}
    (he : p.execute systemId (.setWcmp level idx i wcmpLevel weight) nodes = .ok nodes') :
    nodes' = nodes.modify (p.switchAt level idx)
      (·.modifyWcmp (·.setInterfaceWeight i (wcmpLevel % 2 ^ 16) (weight % 2 ^ 16))) := by
  obtain ⟨v, hv, hset⟩ := bind_ok he
  have hswitch : v = p.switchAt level idx := by
    cases level with
    | edge => exact (getEdge_ok hv).2
    | aggregate => exact (getAggregate_ok hv).2
    | core =>
      dsimp only at hv
      rw [getCore] at hv
      split at hv
      · exact (Except.ok.inj hv).symm
      · cases hv
  rw [← hswitch]
  rw [Nodes.setInterfaceWeight] at hset
  split at hset
  · cases hset
  · exact (Except.ok.inj hset).symm

lemma execute_cases {c : Command} (h : ∀ v, p.HasNode v → p.Tracks up v (nodes v))
    (he : p.execute systemId c nodes = .ok nodes') :
    nodes' = nodes ∨ (∃ l b, p.Names systemId (l, b) ∧ c = p.command l b) ∨
      ∃ v i level weight,
        nodes' = nodes.modify v (·.modifyWcmp (·.setInterfaceWeight i level weight)) := by
  cases c with
  | linkDown srcLevel srcIdx dstLevel dstIdx =>
    obtain ⟨l, hl, hc⟩ := linkDown_ok h he
    exact Or.inr (Or.inl ⟨l, false, hl, hc⟩)
  | linkUp srcLevel srcIdx dstLevel dstIdx =>
    obtain ⟨l, hl, hc⟩ := linkUp_ok h he
    exact Or.inr (Or.inl ⟨l, true, hl, hc⟩)
  | setAttribute srcLevel srcIdx dstLevel dstIdx =>
    obtain ⟨props, -, rfl⟩ := map_ok he
    exact Or.inl rfl
  | setWcmp level idx i wcmpLevel weight =>
    exact Or.inr (Or.inr ⟨_, i, _, _, setWcmp_ok he⟩)
  | migrate source destination percent =>
    rw [execute] at he
    split at he
    · exact Or.inl (Except.ok.inj he).symm
    · cases he

end Inversion

section Reachability

lemma Tracks.setInterfaceWeight (h : p.Tracks up v s) (i level weight : ℕ) :
    p.Tracks up v (s.modifyWcmp (·.setInterfaceWeight i level weight)) := by
  refine ⟨h.interfaces, h.isUp, h.addresses, h.connected, h.routes, h.sound, ?_, fun r hr => ?_⟩
  · rw [NodeStack.modifyWcmp, Option.isSome_map]
    exact h.runsWcmp
  · obtain ⟨r', hr', rfl⟩ := Option.map_eq_some_iff.mp hr
    have hw := h.wcmp r' hr'
    exact ⟨hw.levels, hw.levelMapper, hw.tracked, hw.isIfUp, hw.routes, hw.length⟩

lemma execute_tracks {c : Command} (h : ∀ v, p.HasNode v → p.Tracks up v (nodes v))
    (he : p.execute systemId c nodes = .ok nodes') :
    ∃ up', ∀ v, p.HasNode v → p.Tracks up' v (nodes' v) := by
  rcases execute_cases h he with rfl | ⟨l, b, ⟨hl, hranks⟩, rfl⟩ | ⟨u, i, level, weight, rfl⟩
  · exact ⟨up, h⟩
  · rw [execute_link systemId b hl hranks fun v hv =>
      ⟨congrArg List.length (h v hv).interfaces, (h v hv).runsWcmp⟩] at he
    obtain rfl := Except.ok.inj he
    exact ⟨Function.update up l b, fun v hv => (h v hv).effect hv hl b⟩
  · refine ⟨up, fun v hv => ?_⟩
    rw [Nodes.modify_apply]
    split
    · exact (h v hv).setInterfaceWeight i level weight
    · exact h v hv

theorem run_tracks (cs : List Command) (h : ∀ v, p.HasNode v → p.Tracks up v (nodes v))
    (he : p.run systemId cs nodes = .ok nodes') :
    ∃ up', ∀ v, p.HasNode v → p.Tracks up' v (nodes' v) := by
  induction cs generalizing up nodes with
  | nil =>
    obtain rfl := Except.ok.inj he
    exact ⟨up, h⟩
  | cons c cs ih =>
    obtain ⟨n, hc, he⟩ := bind_ok he
    obtain ⟨up', hn⟩ := execute_tracks h hc
    exact ih hn he

end Reachability

section Repair

def ifUpAt (i : ℕ) (s : NodeStack S) : Option Bool := s.wcmp.map (·.weights.isIfUp i)

structure SameForwarding (s s' : NodeStack S) : Prop where
  isUp (i : ℕ) : s'.isUp i = s.isUp i
  ifUpAt (i : ℕ) : ifUpAt i s' = ifUpAt i s
  routes (r : StaticRoute) : S.Has s'.staticRouting r ↔ S.Has s.staticRouting r
  weightAt (i level : ℕ) : weightAt i level s' = weightAt i level s

/-- What the repair of `l` is going to leave is there already. -/
structure Restorable (p : TopologyDescriptor) (l : Link) (nodes : Nodes S) : Prop where
  weight (v : Node) (i level : ℕ) : p.Rewrites l v (getLeveledIf level i) →
    weightAt i level (nodes v) = some 1
  route (v : Node) (r : StaticRoute) : p.Restores l v r → S.Has (nodes v).staticRouting r

lemma rewrites_runsWcmp {key : ℕ} (hl : p.HasLink l) (h : p.Rewrites l v key) :
    p.HasNode v ∧ v.runsWcmp = true := by
  unfold Rewrites at h
  split at h
  · exact ⟨⟨h.1.1, h.1.2.1⟩, rfl⟩
  · obtain ⟨⟨hq, -, rfl⟩, -⟩ := h
    exact ⟨⟨hq, hl.2.1⟩, rfl⟩
  · exact h.elim

lemma restores_hasNode {r : StaticRoute} (hl : p.HasLink l) (h : p.Restores l v r) : p.HasNode v := by
  cases l with
  | edgeAgg pod e a =>
    obtain ⟨rfl, -⟩ := h
    exact ⟨hl.1, hl.2.2⟩
  | aggCore pod a k =>
    obtain ⟨rfl, -⟩ := h
    exact mul_add_lt hl.2.2 hl.2.1

lemma address_of_isEnd {i : ℕ} (h : p.IsEnd l v i) : p.address v i = loopbackAddress := by
  cases l <;> rcases h with h | h <;> obtain ⟨rfl, -⟩ := Prod.mk.inj h <;> rfl

lemma repaired_weightAt (h : p.Tracks up v s) (hl : p.HasLink l) (hr : v.runsWcmp = true)
    (i level : ℕ) :
    (p.Rewrites l v (getLeveledIf level i) →
      weightAt i level (p.effect l true v (p.effect l false v s)) = some 1) ∧
    (¬ p.Rewrites l v (getLeveledIf level i) →
      weightAt i level (p.effect l true v (p.effect l false v s)) = weightAt i level s) := by
  have hsome := h.runsWcmp
  rw [hr] at hsome
  obtain ⟨r, hr⟩ := Option.isSome_iff_exists.mp hsome
  obtain ⟨r₁, hr₁, hdown⟩ := effect_wcmp (p := p) l false v hr
  obtain ⟨r₂, hr₂, hup⟩ := effect_wcmp (p := p) l true v hr₁
  have hreg : ∀ j, p.IsEnd l v j → (r.weights.states j).isSome :=
    fun j hj => ((h.wcmp r hr).tracked j).mpr (isEnd_lt hl hj).2
  rw [weightAt, weightAt, hr, hr₂, Option.map_some, Option.map_some]
  constructor
  · intro hw
    rw [hup.written i level hw, if_pos rfl]
  · intro hw
    rw [hup.kept i level (fun j hj => (hdown.states j).mpr (Or.inl hj)) hw,
      hdown.kept i level hreg hw]

lemma repaired_has (h : p.Tracks up v s) (hl : p.HasLink l) (hup : ∀ i, p.IsEnd l v i → s.isUp i = true)
    (hroute : ∀ r, p.Restores l v r → S.Has s.staticRouting r) (r : StaticRoute) :
    S.Has (p.effect l true v (p.effect l false v s)).staticRouting r ↔ S.Has s.staticRouting r := by
  have hnet : loopbackAddress.hasNetwork = true := by decide
  have haddr : ∀ i, p.IsEnd l v i → s.addresses i = [loopbackAddress] := by
    intro i hi
    rw [h.addresses i (isEnd_lt hl hi).2, address_of_isEnd hi]
  have hconnected : ∀ i, p.IsEnd l v i → S.Has s.staticRouting (loopbackAddress.connectedRoute i) := by
    intro i hi
    have hc := h.connected i (by rw [← h.isUp]; exact hup i hi)
    rw [address_of_isEnd hi] at hc
    exact hc hnet
  rw [effect_has_up, effect_has_down, (effect_frame l false v s).2.1]
  constructor
  · rintro (hr | ⟨hr, -⟩ | ⟨i, hi, a, ha, -, rfl⟩)
    · exact hroute r hr
    · exact hr
    · rw [haddr i hi, List.mem_singleton] at ha
      rw [ha]
      exact hconnected i hi
  · intro hr
    by_cases hend : p.IsEnd l v r.interface
    · rcases h.sound r hr with hroute | ⟨i, rfl⟩
      · exact Or.inl (restores_of_isEnd hroute hend)
      · refine Or.inr (Or.inr ⟨i, hend, loopbackAddress, ?_, hnet, ?_⟩)
        · rw [haddr i hend]
          exact List.mem_singleton_self _
        · have hi : p.IsEnd l v i := hend
          rw [address_of_isEnd hi]
    · exact Or.inr (Or.inl ⟨hr, hend⟩)

lemma effect_wcmp_none {b : Bool} (h : s.wcmp = none) : (p.effect l b v s).wcmp = none := by
  rw [← Option.isNone_iff_eq_none, ← Option.not_isSome, effect_wcmp_isSome, h]
  rfl

lemma repaired_same_iff (h : p.Tracks up v s) (hl : p.HasLink l)
    (hup : ∀ i, p.IsEnd l v i → s.isUp i = true) :
    SameForwarding s (p.effect l true v (p.effect l false v s)) ↔
      (∀ i level, p.Rewrites l v (getLeveledIf level i) → weightAt i level s = some 1) ∧
      ∀ r, p.Restores l v r → S.Has s.staticRouting r := by
  constructor
  · intro hsame
    refine ⟨fun i level hw => ?_, fun r hr => ?_⟩
    · rw [← hsame.weightAt]
      exact (repaired_weightAt h hl (rewrites_runsWcmp hl hw).2 i level).1 hw
    · rw [← hsame.routes, effect_has_up]
      exact Or.inl hr
  · rintro ⟨hweight, hroute⟩
    refine ⟨fun i => ?_, fun i => ?_, repaired_has h hl hup hroute, fun i level => ?_⟩
    · rw [effect_isUp, effect_isUp]
      split
      · rename_i hi
        exact (hup i hi).symm
      · rfl
    · cases hr : s.wcmp with
      | none => rw [ifUpAt, ifUpAt, effect_wcmp_none (effect_wcmp_none hr), hr]
      | some r =>
        obtain ⟨r₁, hr₁, hdown⟩ := effect_wcmp (p := p) l false v hr
        obtain ⟨r₂, hr₂, hupr⟩ := effect_wcmp (p := p) l true v hr₁
        rw [ifUpAt, ifUpAt, hr, hr₂, Option.map_some, Option.map_some, hupr.isIfUp, hdown.isIfUp]
        split
        · rename_i hi
          rw [(h.wcmp r hr).isIfUp, hup i hi]
        · rfl
    · cases hv : v.runsWcmp with
      | true =>
        obtain ⟨hrewritten, hkept⟩ := repaired_weightAt h hl hv i level
        by_cases hw : p.Rewrites l v (getLeveledIf level i)
        · rw [hrewritten hw, hweight i level hw]
        · exact hkept hw
      | false =>
        have hnone : s.wcmp = none := by
          rw [← Option.isNone_iff_eq_none, ← Option.not_isSome, h.runsWcmp, hv]
          rfl
        rw [weightAt, weightAt, effect_wcmp_none (effect_wcmp_none hnone), hnone]

lemma effect_outside (hl : p.HasLink l) (hv : ¬ p.HasNode v) (b : Bool) (s : NodeStack S) :
    p.effect l b v s = s := by
  have hreweigh : ∀ weight, p.reweigh weight l v s = s := by
    intro weight
    unfold reweigh
    split
    · rw [if_neg fun hq => hv ⟨hq.1, hq.2.1⟩]
    · rw [if_neg]
      rintro ⟨hq, -, rfl⟩
      exact hv ⟨hq, hl.2.1⟩
    · rfl
  have hrestore : p.restore l v s = s := by
    unfold restore
    split
    · rw [if_neg]
      rintro rfl
      exact hv ⟨hl.1, hl.2.2⟩
    · rw [if_neg]
      rintro rfl
      exact hv (mul_add_lt hl.2.2 hl.2.1)
  rw [effect, setEnds_away fun i hi => hv (isEnd_lt hl hi).1, hreweigh, hrestore, ite_self]

lemma SameForwarding.refl (s : NodeStack S) : SameForwarding s s :=
  ⟨fun _ => rfl, fun _ => rfl, fun _ => Iff.rfl, fun _ _ => rfl⟩

lemma isUp_of_srcEnd (h : ∀ v, p.HasNode v → p.Tracks up v (nodes v)) (hl : p.HasLink l)
    (hup : (nodes (p.srcEnd l).1).isUp (p.srcEnd l).2 = true) (i : ℕ) (hi : p.IsEnd l v i) :
    (nodes v).isUp i = true := by
  obtain ⟨hv, hlt⟩ := isEnd_lt hl hi
  have hsrc := (srcEnd_mem hl).1
  have hend : p.IsEnd l (p.srcEnd l).1 (p.srcEnd l).2 := Or.inl rfl
  rw [(h _ hsrc).isUp, portUp, (portLink_eq_some hsrc hl).mpr hend] at hup
  rw [(h v hv).isUp, portUp, (portLink_eq_some hv hl).mpr hi, decide_eq_true hlt]
  exact (Bool.and_eq_true_iff.mp hup).2

lemma repaired_everywhere_iff (h : ∀ v, p.HasNode v → p.Tracks up v (nodes v)) (hl : p.HasLink l)
    (hup : (nodes (p.srcEnd l).1).isUp (p.srcEnd l).2 = true) :
    (∀ v, SameForwarding (nodes v) (p.after [(l, false), (l, true)] v (nodes v))) ↔
      p.Restorable l nodes := by
  have hnode : ∀ v, p.HasNode v →
      (SameForwarding (nodes v) (p.after [(l, false), (l, true)] v (nodes v)) ↔ _) :=
    fun v hv => repaired_same_iff (h v hv) hl (isUp_of_srcEnd h hl hup)
  constructor
  · intro hsame
    refine ⟨fun v i level hw => ?_, fun v r hr => ?_⟩
    · exact ((hnode v (rewrites_runsWcmp hl hw).1).mp (hsame v)).1 i level hw
    · exact ((hnode v (restores_hasNode hl hr)).mp (hsame v)).2 r hr
  · intro hrestorable v
    by_cases hv : p.HasNode v
    · exact (hnode v hv).mpr ⟨hrestorable.weight v, hrestorable.route v⟩
    · have hsame : p.after [(l, false), (l, true)] v (nodes v) = nodes v :=
        (effect_outside hl hv true _).trans (effect_outside hl hv false _)
      rw [hsame]
      exact .refl _

/-- In every state that a script reaches, failing and repairing a link that is up gives the same
forwarding state back if and only if the weights that its mitigation writes are 1 and the static
routes that its repair restores are all there. -/
theorem repaired_link_iff (S : Ipv4StaticRouting) (systemId : Node → ℕ) (cs : List Command)
    (nodes : Nodes S) (l : Link) (hrun : p.run systemId cs (p.setupClosTopology S) = .ok nodes)
    (hl : p.HasLink l) (hranks : systemId (p.srcEnd l).1 = systemId (p.dstEnd l).1)
    (hup : (nodes (p.srcEnd l).1).isUp (p.srcEnd l).2 = true) :
    ∃ nodes', p.run systemId (p.commands [(l, false), (l, true)]) nodes = .ok nodes' ∧
      ((∀ v, SameForwarding (nodes v) (nodes' v)) ↔ p.Restorable l nodes) := by
  obtain ⟨up, htracks⟩ := run_tracks cs (fun v hv => setup_tracks (S := S) hv) hrun
  refine ⟨_, run_commands (fun v hv => ?_) ?_, repaired_everywhere_iff htracks hl hup⟩
  · exact ⟨congrArg List.length (htracks v hv).interfaces, (htracks v hv).runsWcmp⟩
  · simp [Names, hl, hranks]

theorem repaired_link_iff_again :
    let l : Link := .edgeAgg 0 0 0
    ∃ nodes nodes', twoPods.run (fun _ => 0) (twoPods.commands [(l, false), (l, true)])
        (twoPods.setupClosTopology listStaticRouting) = .ok nodes ∧
      twoPods.run (fun _ => 0) (twoPods.commands [(l, false), (l, true)]) nodes = .ok nodes' ∧
      ∀ v, SameForwarding (nodes v) (nodes' v) := by
  intro l
  have hl : twoPods.HasLink l := ⟨by decide, by decide, by decide⟩
  have hnames : ∀ c ∈ [(l, false), (l, true)], twoPods.Names (fun _ => 0) c := by simp [Names, hl]
  have hrun := run_setup listStaticRouting hnames
  have hup : ∀ s : NodeStack listStaticRouting,
      (twoPods.after [(l, false), (l, true)] (twoPods.srcEnd l).1 s).isUp (twoPods.srcEnd l).2 = true := by
    intro s
    rw [after, List.foldl_cons, List.foldl_cons, List.foldl_nil, effect_isUp]
    exact if_pos (Or.inl rfl)
  obtain ⟨nodes', hrun', hiff⟩ := repaired_link_iff listStaticRouting (fun _ => 0) _ _ l hrun hl rfl
    (hup _)
  refine ⟨_, nodes', hrun, hrun', hiff.mpr ⟨fun v i level hw => ?_, fun v r hr => ?_⟩⟩
  · obtain ⟨hv, hr⟩ := rewrites_runsWcmp hl hw
    exact (repaired_weightAt (setup_tracks hv) hl hr i level).1 hw
  · exact (effect_has_up l v _ r).mpr (Or.inl hr)

theorem repaired_link_lighter :
    let l : Link := .edgeAgg 0 0 0
    let nodes := twoPods.setupClosTopology listStaticRouting
    twoPods.HasLink l ∧ (nodes (twoPods.srcEnd l).1).isUp (twoPods.srcEnd l).2 = true ∧
    ∃ nodes', twoPods.run (fun _ => 0) (twoPods.commands [(l, false), (l, true)]) nodes = .ok nodes' ∧
      ¬ ∀ v, SameForwarding (nodes v) (nodes' v) := by
  intro l nodes
  have hl : twoPods.HasLink l := ⟨by decide, by decide, by decide⟩
  have hup : (nodes (twoPods.srcEnd l).1).isUp (twoPods.srcEnd l).2 = true := by
    rw [(setup_tracks (srcEnd_mem hl).1).isUp]
    decide
  refine ⟨hl, hup, _, run_setup listStaticRouting (by simp [Names, hl]), fun hsame => ?_⟩
  have hrestorable := (repaired_everywhere_iff (fun v hv => setup_tracks hv) hl hup).mp hsame
  have hone := hrestorable.weight (.edge 1 0) 2 0 ⟨by decide, by decide⟩
  have hundred := (fresh_setup listStaticRouting twoPods_fits (by decide)).weight (.edge 1 0) 2 0
    ⟨by decide, by decide⟩ rfl (by decide) (by decide)
  rw [hundred] at hone
  exact absurd hone (by decide)

end Repair

end TopologyDescriptor

end SwarmSim.Clos
