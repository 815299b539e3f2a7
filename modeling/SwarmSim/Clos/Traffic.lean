import SwarmSim.Clos.Script

/-! Packets one after the other through switches that remember what they chose for a hash. -/

namespace SwarmSim.Clos

open Machine Ns3 Wcmp

structure Consult where
  switch : Node
  hash : ℕ
  destination : Ipv4Address
  iif : ℕ
  deriving DecidableEq

def Discerned (cs : List Consult) : Prop :=
  ∀ c ∈ cs, ∀ c' ∈ cs, c.switch = c'.switch → c.hash = c'.hash →
    c.destination = c'.destination ∧ c.iif = c'.iif

instance (cs : List Consult) : Decidable (Discerned cs) :=
  inferInstanceAs (Decidable (∀ c ∈ cs, ∀ c' ∈ cs, c.switch = c'.switch → c.hash = c'.hash →
    c.destination = c'.destination ∧ c.iif = c'.iif))

namespace NodeStack

variable {S : Ipv4StaticRouting}

def consults (v : Node) (dest : Ipv4Address) (hash iif : ℕ) (s : NodeStack S) : List Consult :=
  if s.isDestinationAddress dest || (S.lookupStatic dest s.staticRouting).isSome || s.wcmp.isNone ||
    dest.isMulticast then []
  else [⟨v, hash, dest, iif⟩]

end NodeStack

namespace Nodes

variable {S : Ipv4StaticRouting}

/-- The packets go one after the other. An abort ends the program. -/
def traffic (useCache : Bool) : List SentPacket → Nodes S → List Trip
  | [], _ => []
  | k :: ks, nodes =>
    let r := nodes.sendWith useCache k
    match r.1.fate with
    | .aborted _ => [r.1]
    | _ => r.1 :: traffic useCache ks r.2

/-- What a packet that arrives at `v` asks of the switches of a trip with these hops. -/
def asked (dest : Ipv4Address) (hash : ℕ → ℕ) (nodes : Nodes S) :
    ℕ → Node → ℕ → List (Node × ℕ) → List Consult
  | ttl, v, iif, hops =>
    if !(nodes v).isUp iif then []
    else (nodes v).consults v dest (hash ttl) iif ++
      match hops with
      | [] => []
      | (_, i) :: hops =>
        match receiver v i nodes with
        | some (u, j) => asked dest hash nodes (ttl - 1) u j hops
        | none => []

def consulted (k : SentPacket) (nodes : Nodes S) : List Consult :=
  match (nodes.send k.destination k.hash k.source).hops with
  | [] => []
  | (v, i) :: hops =>
    match receiver v i nodes with
    | some (u, j) => nodes.asked k.destination k.hash (defaultTtl - 1) u j hops
    | none => []

def upToAbort : List Trip → List Trip
  | [] => []
  | t :: ts =>
    match t.fate with
    | .aborted _ => [t]
    | _ => t :: upToAbort ts

end Nodes

section Lookups

variable {L L' : List Consult} {v : Node} {r r' : WcmpStaticRouting} {dest : Ipv4Address}
  {hash iif : ℕ} {useCache : Bool} {cache : ℕ → Option (Option EntryPtr)}

lemma Discerned.sub (h : Discerned L') (hsub : L ⊆ L') : Discerned L :=
  fun c hc c' hc' => h c (hsub hc) c' (hsub hc')

def Explains (L : List Consult) (v : Node) (r : WcmpStaticRouting)
    (cache : ℕ → Option (Option EntryPtr)) : Prop :=
  ∀ hash x, cache hash = some x → ∃ e, x = some e ∧ ∃ c ∈ L, c.switch = v ∧ c.hash = hash ∧
    WcmpWeights.answer (r.contenders c.destination c.iif) hash = .ok (some e)

lemma Explains.mono (h : Explains L v r cache) (hsub : L ⊆ L') : Explains L' v r cache := by
  intro hash x hx
  obtain ⟨e, he, c, hc, hsame⟩ := h hash x hx
  exact ⟨e, he, c, hsub hc, hsame⟩

lemma Explains.store {e : EntryPtr} (h : Explains L v r r'.cache) (hnone : r'.cache hash = none)
    (hanswer : WcmpWeights.answer (r.contenders dest iif) hash = .ok (some e)) :
    Explains (⟨v, hash, dest, iif⟩ :: L) v r (r'.updateCache hash (some e)).cache := by
  intro hash' x hx
  rw [WcmpStaticRouting.updateCache_cache hnone] at hx
  by_cases hh : hash' = hash
  · subst hh
    rw [Function.update_self] at hx
    exact ⟨e, (Option.some.inj hx).symm, _, List.mem_cons_self, rfl, rfl, hanswer⟩
  · rw [Function.update_of_ne hh] at hx
    exact h.mono (List.subset_cons_self _ _) hash' x hx

lemma cache_none (h : Explains L v r r'.cache) (hc : r'.lookupCache hash = none) :
    r'.cache hash = none := by
  by_contra hne
  obtain ⟨x, hx⟩ := Option.ne_none_iff_exists'.mp hne
  obtain ⟨e, rfl, -⟩ := h hash x hx
  rw [WcmpStaticRouting.lookupCache, hx] at hc
  cases hc

lemma lookup_miss_explained (htwin : r'.Twin r) (hx : Explains L v r r'.cache)
    (hc : useCache = true → r'.lookupCache hash = none) :
    Explains (⟨v, hash, dest, iif⟩ :: L) v r (r'.lookupWcmp useCache dest hash iif).2.cache := by
  have hmore := hx.mono (List.subset_cons_self (⟨v, hash, dest, iif⟩ : Consult) L)
  by_cases hn : r'.candidates dest iif = []
  · rw [WcmpStaticRouting.lookupWcmp_none hc hn]
    exact hmore
  · rw [WcmpStaticRouting.lookupWcmp_miss hc hn]
    cases hanswer : WcmpWeights.answer (r'.contenders dest iif) hash with
    | error f => exact hmore
    | ok o =>
      cases o with
      | none => exact (WcmpWeights.answer_not_none _ _ hanswer).elim
      | some e =>
        rw [htwin.contenders] at hanswer
        dsimp only
        split
        · rename_i huse
          have hchose : Explains L v r (r'.chose dest hash iif).cache := hx
          exact hchose.store (cache_none hx (hc huse)) hanswer
        · exact hmore

lemma lookup_hit_eq {e : EntryPtr} (htwin : r'.Twin r)
    (hanswer : WcmpWeights.answer (r.contenders dest iif) hash = .ok (some e))
    (hc : r'.lookupCache hash = some e) :
    (r'.lookupWcmp true dest hash iif).1 = (r.lookupWcmp false dest hash iif).1 := by
  obtain ⟨w, hw⟩ := WcmpWeights.answer_mem hanswer
  have hmem := WcmpStaticRouting.contenders_mem hw
  have hlive : e ∈ r'.entries := by
    rw [WcmpStaticRouting.entries, htwin.networkRoutes]
    exact (WcmpStaticRouting.candidates_mem hmem).1
  have hfree : false = true → r.lookupCache hash = none := by simp
  rw [WcmpStaticRouting.lookupWcmp_hit hc, WcmpStaticRouting.outputRoute_live hlive,
    WcmpStaticRouting.lookupWcmp_miss hfree (List.ne_nil_of_mem hmem), hanswer]
  rfl

lemma lookup_explained (htwin : r'.Twin r) (hx : Explains L v r r'.cache)
    (hd : useCache = true → ∀ c ∈ L, c.switch = v → c.hash = hash → c.destination = dest ∧ c.iif = iif)
    (htracked : ∀ e ∈ r.candidates dest iif, (r.weights.states e.getInterface).isSome) :
    (r'.lookupWcmp useCache dest hash iif).1 = (r.lookupWcmp false dest hash iif).1 ∧
      (r'.lookupWcmp useCache dest hash iif).2.Twin r ∧
      Explains (⟨v, hash, dest, iif⟩ :: L) v r (r'.lookupWcmp useCache dest hash iif).2.cache := by
  by_cases hc : useCache = true → r'.lookupCache hash = none
  · obtain ⟨hanswer, hleft⟩ := htwin.lookup_miss dest iif hc
    have hplain : (r.lookupWcmp false dest hash iif).2.Twin r := lookup_twin fun _ => htracked
    exact ⟨hanswer, ⟨hleft.levelMapper.trans hplain.levelMapper,
      hleft.networkRoutes.trans hplain.networkRoutes, hleft.nextAddress.trans hplain.nextAddress,
      hleft.weights.trans hplain.weights⟩, lookup_miss_explained htwin hx hc⟩
  · obtain ⟨rfl, hne⟩ := Classical.not_imp.mp hc
    obtain ⟨e, he⟩ := Option.ne_none_iff_exists'.mp hne
    have hstored : r'.cache hash = some (some e) := by
      rw [WcmpStaticRouting.lookupCache] at he
      cases hcache : r'.cache hash with
      | none => rw [hcache] at he; cases he
      | some x => rw [hcache] at he; exact congrArg some he
    obtain ⟨_, hsame, c, hmem, hswitch, hhash, hanswer⟩ := hx hash _ hstored
    obtain rfl := Option.some.inj hsame
    obtain ⟨hdest, hiif⟩ := hd rfl c hmem hswitch hhash
    rw [hdest, hiif] at hanswer
    refine ⟨lookup_hit_eq htwin hanswer he, ?_⟩
    rw [WcmpStaticRouting.lookupWcmp_hit he]
    exact ⟨htwin, hx.mono (List.subset_cons_self _ _)⟩

lemma routeInput_explained (htwin : r'.Twin r) (hx : Explains L v r r'.cache)
    (hd : dest.isMulticast = false → useCache = true → ∀ c ∈ L, c.switch = v → c.hash = hash →
      c.destination = dest ∧ c.iif = iif)
    (htracked : ∀ e ∈ r.candidates dest iif, (r.weights.states e.getInterface).isSome) :
    (r'.routeInput useCache false true dest hash iif).1 = (r.routeInput false false true dest hash iif).1 ∧
      (r'.routeInput useCache false true dest hash iif).2.Twin r ∧
      Explains (L ++ if dest.isMulticast then [] else [⟨v, hash, dest, iif⟩]) v r
        (r'.routeInput useCache false true dest hash iif).2.cache := by
  rw [WcmpStaticRouting.routeInput, WcmpStaticRouting.routeInput]
  cases hm : dest.isMulticast with
  | true => exact ⟨rfl, htwin, hx.mono (List.subset_append_left _ _)⟩
  | false =>
    obtain ⟨hanswer, hleft, hcache⟩ := lookup_explained htwin hx (hd hm) htracked
    have hsub : ⟨v, hash, dest, iif⟩ :: L ⊆ L ++ [⟨v, hash, dest, iif⟩] := by
      intro c hc
      rw [List.mem_append, List.mem_singleton, or_comm]
      exact List.mem_cons.mp hc
    have hmore := hcache.mono hsub
    simp only [Bool.false_eq_true, if_false, Bool.not_true]
    generalize r'.lookupWcmp useCache dest hash iif = x at hanswer hleft hmore ⊢
    generalize r.lookupWcmp false dest hash iif = y at hanswer ⊢
    obtain ⟨a, x⟩ := x
    obtain ⟨b, y⟩ := y
    obtain rfl : a = b := hanswer
    rcases a with _ | _ | route <;> exact ⟨rfl, hleft, hmore⟩

end Lookups

namespace TopologyDescriptor

variable {p : TopologyDescriptor} {S : Ipv4StaticRouting} {up : Link → Bool} {v u : Node}
  {s t : NodeStack S} {nodes start : Nodes S} {L L' : List Consult} {dest : Ipv4Address}
  {hash iif i j : ℕ} {useCache : Bool}

/-- The stack is the one that the traffic began with, and its cache is explained by `L`. -/
inductive Remembers (L : List Consult) (v : Node) (s : NodeStack S) : NodeStack S → Prop
  | plain : s.wcmp = none → Remembers L v s s
  | wcmp (r r' : WcmpStaticRouting) : s.wcmp = some r → r'.Twin r → Explains L v r r'.cache →
    Remembers L v s { s with wcmp := some r' }

section Hops

lemma Remembers.mono (h : Remembers L v s t) (hsub : L ⊆ L') : Remembers L' v s t := by
  cases h with
  | plain hnone => exact .plain hnone
  | wcmp r r' hr htwin hx => exact .wcmp r r' hr htwin (hx.mono hsub)

lemma Remembers.isUp (h : Remembers L v s t) : t.isUp = s.isUp := by
  cases h <;> rfl

lemma Remembers.interfaces (h : Remembers L v s t) : t.interfaces = s.interfaces := by
  cases h <;> rfl

lemma Remembers.addresses (h : Remembers L v s t) : t.addresses = s.addresses := by
  cases h <;> rfl

lemma Remembers.staticRouting (h : Remembers L v s t) : t.staticRouting = s.staticRouting := by
  cases h <;> rfl

lemma tracked_candidates (hp : p.Valid) {r : WcmpStaticRouting} (h : p.Tracks up v s)
    (hr : s.wcmp = some r) : ∀ e ∈ r.candidates dest iif, (r.weights.states e.getInterface).isSome := by
  intro e he
  obtain ⟨⟨e', m⟩, hin, rfl⟩ := List.mem_map.mp (WcmpStaticRouting.candidates_mem he).1
  have hw := h.wcmp r hr
  rw [hw.tracked]
  exact isWcmpRoute_lt hp ((hw.routes _ _).mp (WcmpStaticRouting.hasRoute_of_mem hin))

lemma routeInput_remembers (hp : p.Valid) (htracks : p.Tracks up v s) (h : Remembers L v s t)
    (hd : useCache = true → Discerned (L ++ s.consults v dest hash iif)) :
    (t.routeInputWith useCache dest hash iif).1 = (s.routeInput dest hash iif).1 ∧
      Remembers (L ++ s.consults v dest hash iif) v s (t.routeInputWith useCache dest hash iif).2 := by
  have hkeep := h.mono (List.subset_append_left L (s.consults v dest hash iif))
  cases h with
  | plain hnone =>
    rw [NodeStack.routeInput, NodeStack.routeInputWith, NodeStack.routeInputWith]
    by_cases hdest : s.isDestinationAddress dest = true
    · rw [if_pos hdest, if_pos hdest]
      exact ⟨rfl, hkeep⟩
    · rw [if_neg hdest, if_neg hdest]
      cases S.lookupStatic dest s.staticRouting with
      | some i => exact ⟨rfl, hkeep⟩
      | none =>
        dsimp only
        rw [hnone]
        exact ⟨rfl, hkeep⟩
  | wcmp r r' hr htwin hx =>
    rw [NodeStack.routeInput, NodeStack.routeInputWith, NodeStack.routeInputWith]
    by_cases hdest : s.isDestinationAddress dest = true
    · have hdest' : ({ s with wcmp := some r' } : NodeStack S).isDestinationAddress dest = true := hdest
      rw [if_pos hdest, if_pos hdest']
      exact ⟨rfl, hkeep⟩
    · have hdest' : ¬({ s with wcmp := some r' } : NodeStack S).isDestinationAddress dest = true := hdest
      rw [if_neg hdest, if_neg hdest']
      cases hs : S.lookupStatic dest s.staticRouting with
      | some i => exact ⟨rfl, hkeep⟩
      | none =>
        have hconsults : s.consults v dest hash iif =
            if dest.isMulticast then [] else [⟨v, hash, dest, iif⟩] := by
          rw [NodeStack.consults, Bool.eq_false_iff.mpr hdest, hs, hr]
          rfl
        rw [hconsults] at hd ⊢
        have hasked : dest.isMulticast = false → useCache = true → ∀ c ∈ L, c.switch = v →
            c.hash = hash → c.destination = dest ∧ c.iif = iif := by
          intro hm huse c hc hswitch hhash
          rw [if_neg (by rw [hm]; decide)] at hd
          exact hd huse c (List.mem_append_left _ hc) _ (List.mem_append_right _ List.mem_cons_self)
            hswitch hhash
        obtain ⟨hanswer, hleft, hcache⟩ :=
          routeInput_explained htwin hx hasked (tracked_candidates hp htracks hr)
        dsimp only
        rw [hr]
        exact ⟨congrArg (Except.map verdict) hanswer, .wcmp r _ hr hleft hcache⟩

lemma hasNode_of_remotes (hv : p.HasNode v) (hu : u ∈ p.remotes v) : p.HasNode u := by
  cases v with
  | core c =>
    obtain ⟨q, hq, rfl⟩ := List.mem_map.mp hu
    have hpos : 0 < p.h := by
      rcases Nat.eq_zero_or_pos p.h with hzero | hpos
      · rw [HasNode, hzero] at hv
        omega
      · exact hpos
    exact ⟨List.mem_range.mp hq, Nat.mod_lt _ hpos⟩
  | aggregate q a =>
    rcases List.mem_append.mp hu with hu | hu
    · obtain ⟨e, he, rfl⟩ := List.mem_map.mp hu
      exact ⟨hv.1, List.mem_range.mp he⟩
    · obtain ⟨k, hk, rfl⟩ := List.mem_map.mp hu
      exact mul_add_lt (List.mem_range.mp hk) hv.2
  | edge q f =>
    rcases List.mem_append.mp hu with hu | hu
    · obtain ⟨k, hk, rfl⟩ := List.mem_map.mp hu
      exact ⟨mul_add_lt hv.1 hv.2, List.mem_range.mp hk⟩
    · obtain ⟨a, ha, rfl⟩ := List.mem_map.mp hu
      exact ⟨hv.1, List.mem_range.mp ha⟩
  | server tor k =>
    obtain rfl := List.mem_singleton.mp hu
    have hpos : 0 < p.h := by
      rcases Nat.eq_zero_or_pos p.h with hzero | hpos
      · have hlt := hv.1
        rw [hzero] at hlt
        omega
      · exact hpos
    exact ⟨Nat.div_lt_of_lt_mul (by rw [Nat.mul_comm]; exact hv.1), Nat.mod_lt _ hpos⟩

lemma receiver_hasNode (hn : ∀ v, p.HasNode v → p.Tracks up v (nodes v)) (hv : p.HasNode v)
    (h : nodes.receiver v i = some (u, j)) : p.HasNode u := by
  rw [Nodes.receiver, (hn v hv).interfaces] at h
  obtain ⟨d, hd, hu⟩ := Option.map_eq_some_iff.mp h
  cases d with
  | none =>
    obtain ⟨rfl, -⟩ := Prod.mk.inj hu
    exact hv
  | some d =>
    obtain ⟨rfl, -⟩ := Prod.mk.inj hu
    rcases List.mem_cons.mp (List.mem_of_getElem? hd) with hnone | hmem
    · cases hnone
    · obtain ⟨w, hw, hdev⟩ := List.mem_map.mp hmem
      obtain rfl := Option.some.inj hdev
      exact hasNode_of_remotes hv hw

/-- The nodes are those of `start`, which tracks the links of `up`, up to what they remember. -/
structure AllRemember (p : TopologyDescriptor) (up : Link → Bool) (L : List Consult)
    (start nodes : Nodes S) : Prop where
  tracks (v : Node) : p.HasNode v → p.Tracks up v (start v)
  remembers (v : Node) : p.HasNode v → Remembers L v (start v) (nodes v)

namespace AllRemember

lemma mono (h : p.AllRemember up L start nodes) (hsub : L ⊆ L') : p.AllRemember up L' start nodes :=
  ⟨h.tracks, fun v hv => (h.remembers v hv).mono hsub⟩

lemma update (h : p.AllRemember up L start nodes) (hsub : L ⊆ L')
    (hs : Remembers L' v (start v) s) :
    p.AllRemember up L' start (Function.update nodes v s) := by
  refine ⟨h.tracks, fun u hu => ?_⟩
  by_cases huv : u = v
  · subst huv
    rwa [Function.update_self]
  · rw [Function.update_of_ne huv]
    exact (h.remembers u hu).mono hsub

lemma receiver (h : p.AllRemember up L start nodes) (hv : p.HasNode v) :
    nodes.receiver v i = start.receiver v i := by
  rw [Nodes.receiver, Nodes.receiver, (h.remembers v hv).interfaces, (h.tracks v hv).interfaces]
  cases hd : (p.devices v)[i]? with
  | none => rfl
  | some d =>
    cases d with
    | none => rfl
    | some d =>
      have hreceiver : start.receiver v i =
          some (d.remote, (start d.remote).interfaces.idxOf (some d.peer)) := by
        rw [Nodes.receiver, (h.tracks v hv).interfaces, hd]
        rfl
      have hu := receiver_hasNode h.tracks hv hreceiver
      simp only [Option.map_some, (h.remembers _ hu).interfaces]

end AllRemember

end Hops

section Ways

variable {ttl : ℕ} {hashes : ℕ → ℕ} {ks : List SentPacket} {k : SentPacket} {plain : Nodes S}

lemma asked_nil (hup : (nodes v).isUp iif = true) :
    nodes.asked dest hashes ttl v iif [] = (nodes v).consults v dest (hashes ttl) iif := by
  rw [Nodes.asked, hup]
  exact List.append_nil _

lemma asked_cons {hops : List (Node × ℕ)} (hup : (nodes v).isUp iif = true)
    (hr : nodes.receiver v i = some (u, j)) :
    nodes.asked dest hashes (ttl + 1) v iif ((v, i) :: hops) =
      (nodes v).consults v dest (hashes (ttl + 1)) iif ++ nodes.asked dest hashes ttl u j hops := by
  rw [Nodes.asked, hup]
  simp only [Bool.not_true, Bool.false_eq_true, if_false, hr]
  rfl

lemma consults_subset (hup : (nodes v).isUp iif = true) (hops : List (Node × ℕ)) :
    (nodes v).consults v dest (hashes ttl) iif ⊆ nodes.asked dest hashes ttl v iif hops := by
  cases hops <;> rw [Nodes.asked, hup] <;> exact List.subset_append_left _ _

lemma AllRemember.forwardWith (hp : p.Valid) (h : p.AllRemember up L start nodes)
    (hplain : p.AllRemember up L' start plain) (hv : p.HasNode v)
    (hd : useCache = true →
      Discerned (L ++ start.asked dest hashes ttl v iif (plain.forward dest hashes ttl v iif).hops)) :
    (nodes.forwardWith useCache dest hashes ttl v iif).1 = plain.forward dest hashes ttl v iif ∧
      p.AllRemember up
        (L ++ start.asked dest hashes ttl v iif (plain.forward dest hashes ttl v iif).hops) start
        (nodes.forwardWith useCache dest hashes ttl v iif).2 := by
  induction ttl using Nat.strong_induction_on generalizing v iif nodes plain L L' with
  | _ ttl ih =>
    cases hup : (start v).isUp iif with
    | false =>
      rw [Nodes.forward, Nodes.forwardWith, Nodes.forwardWith, (h.remembers v hv).isUp,
        (hplain.remembers v hv).isUp, hup]
      exact ⟨rfl, h.mono (List.subset_append_left _ _)⟩
    | true =>
      have hfirst : useCache = true →
          Discerned (L ++ (start v).consults v dest (hashes ttl) iif) := fun huse =>
        (hd huse).sub (List.append_subset.mpr ⟨List.subset_append_left _ _,
          List.Subset.trans (consults_subset hup _) (List.subset_append_right _ _)⟩)
      obtain ⟨hanswer, hstack⟩ := routeInput_remembers hp (h.tracks v hv) (h.remembers v hv) hfirst
      obtain ⟨hsame, hstack'⟩ : ((plain v).routeInputWith false dest (hashes ttl) iif).1 =
            ((start v).routeInput dest (hashes ttl) iif).1 ∧
          Remembers (L' ++ (start v).consults v dest (hashes ttl) iif) v (start v)
            ((plain v).routeInputWith false dest (hashes ttl) iif).2 :=
        routeInput_remembers hp (h.tracks v hv) (hplain.remembers v hv) (by simp)
      have hnext := h.update (List.subset_append_left _ _) hstack
      have hnext' := hplain.update (List.subset_append_left _ _) hstack'
      have hisUp := hstack.isUp
      have hisUp' := hstack'.isUp
      rw [Nodes.forwardWith, (h.remembers v hv).isUp, hup]
      rw [Nodes.forward, Nodes.forwardWith, (hplain.remembers v hv).isUp, hup] at hd ⊢
      rw [← hsame] at hanswer
      generalize (nodes v).routeInputWith useCache dest (hashes ttl) iif = a at *
      generalize (plain v).routeInputWith false dest (hashes ttl) iif = b at *
      obtain ⟨x, s⟩ := a
      obtain ⟨y, s'⟩ := b
      obtain rfl : x = y := hanswer
      have hstop : p.AllRemember up (L ++ start.asked dest hashes ttl v iif []) start
          (Function.update nodes v s) := by
        rw [asked_nil hup]
        exact hnext
      simp only [Bool.not_true, Bool.false_eq_true, if_false] at hd ⊢
      obtain _ | _ | i | _ | _ := x
      case ok.forward =>
        dsimp only at hd hisUp hisUp' ⊢
        cases ttl with
        | zero => exact ⟨rfl, hstop⟩
        | succ ttl =>
          dsimp only at hd ⊢
          rw [hisUp', hplain.receiver hv] at hd ⊢
          rw [hisUp, h.receiver hv]
          cases hout : (start v).isUp i with
          | false => exact ⟨rfl, hstop⟩
          | true =>
            simp only [hout, Bool.not_true, Bool.false_eq_true, if_false] at hd ⊢
            cases hr : start.receiver v i with
            | none => exact ⟨rfl, hstop⟩
            | some w =>
              obtain ⟨u, j⟩ := w
              simp only [hr, Trip.cons] at hd ⊢
              rw [asked_cons hup hr, ← List.append_assoc] at hd ⊢
              obtain ⟨htrip, hall⟩ :=
                ih ttl (Nat.lt_succ_self ttl) hnext hnext' (receiver_hasNode h.tracks hv hr) hd
              exact ⟨congrArg (Trip.cons (v, i)) htrip, hall⟩
      all_goals exact ⟨rfl, hstop⟩

lemma AllRemember.sendWith (hp : p.Valid) (h : p.AllRemember up L start nodes)
    (hstart : p.AllRemember up [] start start) (hk : p.HasNode k.source)
    (hd : useCache = true → Discerned (L ++ start.consulted k)) :
    (nodes.sendWith useCache k).1 = start.send k.destination k.hash k.source ∧
      p.AllRemember up (L ++ start.consulted k) start (nodes.sendWith useCache k).2 := by
  have hkeep : ∀ L' : List Consult, p.AllRemember up (L ++ L') start nodes :=
    fun _ => h.mono (List.subset_append_left _ _)
  have hs := h.remembers _ hk
  rw [Nodes.consulted] at hd ⊢
  rw [Nodes.sendWith, hs.staticRouting]
  rw [Nodes.send, Nodes.sendWith] at hd ⊢
  cases hroute : S.lookupStatic k.destination (start k.source).staticRouting with
  | none => exact ⟨rfl, hkeep _⟩
  | some i =>
    simp only [hroute] at hd ⊢
    rw [hs.isUp, hs.addresses, h.receiver hk]
    by_cases hdown : (!(start k.source).isUp i) = true
    · simp only [if_pos hdown]
      exact ⟨trivial, hkeep _⟩
    · simp only [if_neg hdown] at hd ⊢
      by_cases hown : (((start k.source).addresses i).any fun a => k.destination = a.localAddress) = true
      · simp only [if_pos hown]
        exact ⟨trivial, hkeep _⟩
      · simp only [if_neg hown] at hd ⊢
        cases hr : start.receiver k.source i with
        | none => exact ⟨rfl, hkeep _⟩
        | some w =>
          obtain ⟨u, j⟩ := w
          simp only [hr, Trip.cons] at hd ⊢
          obtain ⟨htrip, hall⟩ :=
            h.forwardWith hp hstart (receiver_hasNode h.tracks hk hr) hd
          exact ⟨congrArg (Trip.cons (k.source, i)) htrip, hall⟩

lemma AllRemember.traffic (hp : p.Valid) (h : p.AllRemember up L start nodes)
    (hstart : p.AllRemember up [] start start) (hks : ∀ k ∈ ks, p.HasNode k.source)
    (hd : useCache = true → Discerned (L ++ ks.flatMap fun k => start.consulted k)) :
    nodes.traffic useCache ks =
      Nodes.upToAbort (ks.map fun k => start.send k.destination k.hash k.source) := by
  induction ks generalizing nodes L with
  | nil => rfl
  | cons k ks ih =>
    rw [List.flatMap_cons, ← List.append_assoc] at hd
    obtain ⟨htrip, hall⟩ := h.sendWith hp hstart (hks k List.mem_cons_self)
      fun huse => (hd huse).sub (List.subset_append_left _ _)
    have hrest := ih hall (fun k' hk' => hks k' (List.mem_cons_of_mem k hk')) hd
    rw [Nodes.traffic, List.map_cons, Nodes.upToAbort, hrest, htrip]

end Ways

section SetUp

variable {r : WcmpStaticRouting} {f : WcmpStaticRouting → WcmpStaticRouting} {systemId : Node → ℕ}
  {cs : List Command} {l : Link} {q a : ℕ}

def CacheFree (s : NodeStack S) : Prop := ∀ r ∈ s.wcmp, ∀ hash, r.cache hash = none

lemma CacheFree.map (hf : ∀ r, (f r).cache = r.cache) (h : CacheFree s)
    (ht : t.wcmp = s.wcmp.map f) : CacheFree t := by
  intro r hr hash
  rw [ht] at hr
  obtain ⟨r', hr', rfl⟩ := Option.map_eq_some_iff.mp hr
  rw [hf]
  exact h r' hr' hash

lemma CacheFree.modifyWcmp (hf : ∀ r, (f r).cache = r.cache) (h : CacheFree s) :
    CacheFree (s.modifyWcmp f) := h.map hf rfl

lemma CacheFree.plug (h : CacheFree s) (v u : Node) : CacheFree (plug v u s) := by
  have hadded : CacheFree ((s.addInterface (some ⟨v, u⟩)).addAddress s.interfaces.length loopbackAddress) :=
    CacheFree.map (f := (·.notifyAddAddress s.interfaces.length (s.isUp s.interfaces.length)))
      (fun _ => rfl) h rfl
  exact hadded.map (f := (·.notifyInterfaceUp s.interfaces.length true)) (fun _ => rfl) rfl

lemma CacheFree.addStaticRoute (h : CacheFree s) (r : StaticRoute) : CacheFree (s.addStaticRoute r) := h

lemma cacheFree_installWcmp (levels : ℕ) (mapper : Ipv4Address → ℕ) :
    CacheFree (NodeStack.installWcmp S levels mapper) := by
  intro r hr hash
  obtain rfl := Option.some.inj hr
  rfl

lemma addNetworkRouteTo_cache (network : Ipv4Address) (mask : Ipv4Mask) (i metric : ℕ)
    (r : WcmpStaticRouting) : (r.addNetworkRouteTo network mask i metric).cache = r.cache :=
  (addNetworkRouteTo_frame r network mask i metric).1

lemma cacheFree_setup (hv : p.HasNode v) : CacheFree (p.setupClosTopology S v) := by
  cases v with
  | core c =>
    intro r hr
    have hnone := (setup_tracks (S := S) hv).runsWcmp
    rw [hr] at hnone
    cases hnone
  | server tor k =>
    intro r hr
    have hnone := (setup_tracks (S := S) hv).runsWcmp
    rw [hr] at hnone
    cases hnone
  | edge q f =>
    rw [setupClosTopology_edge hv.1 hv.2]
    apply forRange_preserves _ fun k s _ hs => hs.modifyWcmp (addNetworkRouteTo_cache 0 0 _ _)
    apply forRange_preserves _ fun i s _ hs => hs.addStaticRoute _
    apply forRange_preserves _ fun a s _ hs => hs.plug _ _
    apply forRange_preserves _ fun i s _ hs => hs.plug _ _
    exact cacheFree_installWcmp _ _
  | aggregate q a =>
    rw [setupClosTopology_aggregate hv.1 hv.2]
    have hbase : CacheFree (forRange (fun k (s : NodeStack S) =>
        s.modifyWcmp (·.addWildcardRoute (p.h + 1 + k) 1)) (p.switchRadix - p.h)
        (forRange (fun i s => s.addStaticRoute (torRoute q i)) p.h
          (forRange (fun i s => TopologyDescriptor.plug (.aggregate q a) (.core (i * p.h + a)) s) p.h
            (forRange (fun e s => TopologyDescriptor.plug (.aggregate q a) (.edge q e) s) p.h
              (.installWcmp S p.numLevels p.torLevelMapper))))) := by
      apply forRange_preserves _ fun k s _ hs => hs.modifyWcmp (addNetworkRouteTo_cache 0 0 _ _)
      apply forRange_preserves _ fun i s _ hs => hs.addStaticRoute _
      apply forRange_preserves _ fun i s _ hs => hs.plug _ _
      apply forRange_preserves _ fun e s _ hs => hs.plug _ _
      exact cacheFree_installWcmp _ _
    dsimp only
    split
    · apply forRange_preserves hbase
      intro k s _ hs
      split
      · exact hs
      · exact hs.modifyWcmp (addNetworkRouteTo_cache _ _ _ _)
    · exact hbase

lemma CacheFree.setEnds (h : CacheFree s) (l : Link) (b : Bool) (v : Node) :
    CacheFree (p.setEnds b l v s) := by
  have hset : ∀ i (s : NodeStack S), CacheFree s → CacheFree (if b then s.setUp i else s.setDown i) := by
    intro i s hs
    split
    · exact hs.map (f := (·.notifyInterfaceUp i true)) (fun _ => rfl) rfl
    · exact hs.map (f := (·.notifyInterfaceDown i)) (fun _ => rfl) rfl
  rw [TopologyDescriptor.setEnds]
  dsimp only
  split
  · apply hset
    split
    · exact hset _ _ h
    · exact h
  · split
    · exact hset _ _ h
    · exact h

lemma CacheFree.effect (h : CacheFree s) (l : Link) (b : Bool) (v : Node) :
    CacheFree (p.effect l b v s) := by
  have hends := h.setEnds (p := p) l b v
  have hweighed : ∀ weight, CacheFree (p.reweigh weight l v (p.setEnds b l v s)) := by
    intro weight
    cases l <;> cases v <;> try exact hends
    all_goals
      rw [reweigh]
      split
    · exact hends.modifyWcmp fun _ => rfl
    · exact hends
    · exact forRange_preserves hends fun m s _ hs => hs.modifyWcmp fun _ => rfl
    · exact hends
  cases b with
  | false => exact hweighed 0
  | true =>
    rw [TopologyDescriptor.effect, if_pos rfl]
    cases l
    all_goals
      rw [restore]
      split
      · exact forRange_preserves (hweighed 1) fun _ _ _ hs => hs.addStaticRoute _
      · exact hweighed 1

lemma run_cacheFree (hn : ∀ v, p.HasNode v → p.Tracks up v (start v) ∧ CacheFree (start v))
    (he : p.run systemId cs start = .ok nodes) :
    ∃ up', ∀ v, p.HasNode v → p.Tracks up' v (nodes v) ∧ CacheFree (nodes v) := by
  induction cs generalizing up start with
  | nil =>
    obtain rfl := Except.ok.inj he
    exact ⟨up, hn⟩
  | cons c cs ih =>
    obtain ⟨n, hc, hrest⟩ := bind_ok he
    have htracks := fun v (hv : p.HasNode v) => (hn v hv).1
    have hlink : ∀ l b, p.Names systemId (l, b) → c = p.command l b →
        ∀ v, p.HasNode v → p.Tracks (Function.update up l b) v (n v) ∧ CacheFree (n v) := by
      rintro l b ⟨hl, hranks⟩ rfl v hv
      rw [execute_link systemId b hl hranks fun v hv => (htracks v hv).ready.shape] at hc
      obtain rfl := Except.ok.inj hc
      exact ⟨(htracks v hv).effect hv hl b, (hn v hv).2.effect l b v⟩
    cases c with
    | linkDown srcLevel srcIdx dstLevel dstIdx =>
      obtain ⟨l, hl, hcmd⟩ := linkDown_ok htracks hc
      exact ih (hlink l false hl hcmd) hrest
    | linkUp srcLevel srcIdx dstLevel dstIdx =>
      obtain ⟨l, hl, hcmd⟩ := linkUp_ok htracks hc
      exact ih (hlink l true hl hcmd) hrest
    | setAttribute srcLevel srcIdx dstLevel dstIdx =>
      obtain ⟨props, -, rfl⟩ := map_ok hc
      exact ih hn hrest
    | setWcmp level idx i wcmpLevel weight =>
      obtain rfl := setWcmp_ok hc
      apply ih _ hrest
      · exact up
      · intro v hv
        rw [Nodes.modify_apply]
        split
        · exact ⟨(htracks v hv).setInterfaceWeight _ _ _, (hn v hv).2.modifyWcmp fun _ => rfl⟩
        · exact hn v hv
    | migrate source destination percent =>
      rw [execute] at hc
      split at hc
      · obtain rfl := Except.ok.inj hc
        exact ih hn hrest
      · cases hc

lemma CacheFree.remembers (h : CacheFree s) : Remembers [] v s s := by
  cases hr : s.wcmp with
  | none => exact .plain hr
  | some r =>
    have hwcmp : Remembers [] v s { s with wcmp := some r } :=
      .wcmp r r hr ⟨rfl, rfl, rfl, .refl _⟩ fun hash x hx => by
        rw [h r hr] at hx
        cases hx
    rwa [← hr] at hwcmp

/-- Packets that share a hash at a switch only if they come the same way to one destination all make
the trips that they make alone, in fabrics after any script, with the caches in use. -/
theorem traffic_useCache (S : Ipv4StaticRouting) (systemId : Node → ℕ) (cs : List Command)
    (nodes : Nodes S) (hp : p.Valid) (hrun : p.run systemId cs (p.setupClosTopology S) = .ok nodes)
    (ks : List SentPacket) (hks : ∀ k ∈ ks, p.HasNode k.source)
    (hd : Discerned (ks.flatMap fun k => nodes.consulted k)) :
    nodes.traffic true ks =
      Nodes.upToAbort (ks.map fun k => nodes.send k.destination k.hash k.source) := by
  have hsetup : ∀ v, p.HasNode v → p.Tracks (fun _ => true) v (p.setupClosTopology S v) ∧
      CacheFree (p.setupClosTopology S v) := fun v hv => ⟨setup_tracks hv, cacheFree_setup hv⟩
  obtain ⟨up, hn⟩ := run_cacheFree hsetup hrun
  have hstart : p.AllRemember up [] nodes nodes :=
    ⟨fun v hv => (hn v hv).1, fun v hv => (hn v hv).2.remembers⟩
  exact hstart.traffic hp hstart hks fun _ => hd

def threePackets : List SentPacket :=
  [⟨.server 0 0, hostAddress 1 0 0, fun _ => 7⟩, ⟨.server 1 0, hostAddress 0 0 0, fun _ => 7⟩,
    ⟨.server 0 0, hostAddress 1 0 0, fun _ => 7⟩]

theorem traffic_useCache_three_packets :
    (twoPods.setupClosTopology listStaticRouting).traffic true threePackets =
      Nodes.upToAbort (threePackets.map fun k =>
        (twoPods.setupClosTopology listStaticRouting).send k.destination k.hash k.source) :=
  traffic_useCache listStaticRouting (fun _ => 0) [] _ twoPods_valid rfl threePackets
    (by simp [threePackets, HasNode, twoPods, TopologyDescriptor.h]) (by decide +kernel)

end SetUp

end TopologyDescriptor

end SwarmSim.Clos
