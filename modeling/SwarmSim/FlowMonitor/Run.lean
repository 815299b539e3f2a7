import SwarmSim.FlowMonitor.Tally

namespace SwarmSim.FlowMonitor

open Ns3 Machine

section FlowIds

variable {cfg : Config} {place : Placement} {r : Fin 64} {es : List Event} {e : Event}
  {tuple : FiveTuple}

lemma mem_flowsFrom : tuple ∈ flowsFrom cfg place r es ↔
    tuple ∈ sentFlows cfg es ∧ place tuple.sourceAddress = r := by
  rw [flowsFrom, mem_firstSeen, List.mem_filter, decide_eq_true_eq]

lemma flowsFrom_concat_other
    (h : ∀ tuple, e.sentFlow cfg = some tuple → place tuple.sourceAddress = r →
      tuple ∈ flowsFrom cfg place r es) :
    flowsFrom cfg place r (es ++ [e]) = flowsFrom cfg place r es := by
  unfold flowsFrom
  rw [sentFlows_concat, List.filter_append]
  cases he : e.sentFlow cfg with
  | none => rw [Option.toList_none, List.filter_nil, List.append_nil]
  | some tuple =>
    rw [Option.toList_some, List.filter_singleton]
    by_cases hr : place tuple.sourceAddress = r
    · rw [decide_eq_true hr, cond_true, firstSeen_concat]
      exact if_pos (h tuple he hr)
    · rw [decide_eq_false hr, cond_false, List.append_nil]

lemma flowsFrom_concat_new (he : e.sentFlow cfg = some tuple)
    (hr : place tuple.sourceAddress = r) (hn : tuple ∉ flowsFrom cfg place r es) :
    flowsFrom cfg place r (es ++ [e]) = flowsFrom cfg place r es ++ [tuple] := by
  unfold flowsFrom at hn ⊢
  rw [sentFlows_concat, List.filter_append, he, Option.toList_some, List.filter_singleton,
    decide_eq_true hr, cond_true, firstSeen_concat, if_neg hn]

lemma flowId_append (h : tuple ∈ sentFlows cfg es) (es' : List Event) :
    flowId cfg place (es ++ es') tuple = flowId cfg place es tuple := by
  have hmem : tuple ∈ (sentFlows cfg es).filter fun t =>
      place t.sourceAddress = place tuple.sourceAddress :=
    List.mem_filter.mpr ⟨h, decide_eq_true rfl⟩
  have happend : sentFlows cfg (es ++ es') = sentFlows cfg es ++ sentFlows cfg es' :=
    List.filterMap_append
  unfold flowId flowsFrom
  rw [happend, List.filter_append, idxOf_firstSeen_append hmem]

lemma flowId_new (he : e.sentFlow cfg = some tuple)
    (hn : tuple ∉ flowsFrom cfg place (place tuple.sourceAddress) es) :
    flowId cfg place (es ++ [e]) tuple =
      BitVec.ofNat 32 (2 ^ 26 * place tuple.sourceAddress +
        (flowsFrom cfg place (place tuple.sourceAddress) es).length) + 1 := by
  unfold flowId
  rw [flowsFrom_concat_new he rfl hn, List.idxOf_append_of_notMem hn, List.idxOf_cons_self,
    Nat.add_zero, BitVec.ofNat_add _ 1]
  rfl

end FlowIds

variable {cfg : Config}

def sentHere (place : Placement) (T : Trace cfg) (r : Fin 64) (x : FlowId) (tuple : FiveTuple) :
    Bool :=
  place tuple.sourceAddress = r ∧ flowId cfg place T.events tuple = x

def deliveredHere (place : Placement) (T : Trace cfg) (r : Fin 64) (x : FlowId)
    (tuple : FiveTuple) : Bool :=
  place tuple.destinationAddress = r ∧ flowId cfg place T.events tuple = x

structure RankFollows (place : Placement) (T : Trace cfg) (r : Fin 64) (es : List Event)
    (rank : Rank) : Prop where
  enabled : rank.monitor.enabled = true
  lastNewFlowId : rank.classifier.lastNewFlowId =
    BitVec.ofNat 32 (2 ^ 26 * r + (flowsFrom cfg place r es).length)
  flowMap : ∀ tuple, rank.classifier.flowMap.lookup tuple =
    if tuple ∈ flowsFrom cfg place r es then some (flowId cfg place T.events tuple) else none
  tallies : ∀ x, Tallies T.events (sendsOf cfg (sentHere place T r x) es)
    (deliveriesOf cfg (deliveredHere place T r x) es) (rank.monitor.getStatsForFlow x)

namespace Trace

variable {T : Trace cfg} {es post : List Event} {e : Event} {p : Packet} {now t : ℕ}

lemma sendTime_append_none (hT : T.events = es ++ .send now p :: post) : sendTime es p = none :=
  sendTime_eq_none fun t ht => T.sent_once es now p post hT _ ht t rfl

lemma sendTime_sent (hT : T.events = es ++ .send now p :: post) :
    sendTime T.events p = some now := by
  rw [hT, sendTime_append, sendTime_append_none hT, Option.none_or]
  simp [sendTime]

lemma sendTime_delivered (hT : T.events = es ++ .deliver now p :: post) :
    ∃ t, sendTime es p = some t := by
  obtain ⟨t, ht⟩ := T.follows_send es now p post hT
  exact sendTime_isSome ht

lemma sendTime_events (hT : T.events = es ++ post) (h : sendTime es p = some t) :
    sendTime T.events p = some t := by
  rw [hT, sendTime_append, h, Option.some_or]

lemma sendTime_pos (h : sendTime T.events p = some t) : t ≠ 0 :=
  (T.time_pos _ (sendTime_mem h)).ne'

lemma sendTime_of_mem (he : e ∈ T.events)
    (h : (e.sentFlow cfg).isSome ∨ (e.deliveredFlow cfg).isSome) :
    ∃ t, t ≠ 0 ∧ sendTime T.events e.packet = some t := by
  obtain ⟨es, post, hT⟩ := List.append_of_mem he
  cases e with
  | send now p => exact ⟨now, sendTime_pos (sendTime_sent hT), sendTime_sent hT⟩
  | deliver now p =>
    obtain ⟨t, ht⟩ := sendTime_delivered hT
    exact ⟨t, sendTime_pos (sendTime_events hT ht), sendTime_events hT ht⟩
  | _ => exact absurd h (by simp [Event.sentFlow, Event.deliveredFlow])

lemma headSendTime_ne_zero {l : List Event} (hl : l ≠ [])
    (h : ∀ e ∈ l, e ∈ T.events ∧ ((e.sentFlow cfg).isSome ∨ (e.deliveredFlow cfg).isSome)) :
    headSendTime T.events l ≠ 0 := by
  obtain ⟨e, l, rfl⟩ := List.exists_cons_of_ne_nil hl
  obtain ⟨he, hf⟩ := h e List.mem_cons_self
  obtain ⟨t, ht, hs⟩ := sendTime_of_mem he hf
  rw [headSendTime_cons, hs]
  exact ht

end Trace

namespace RankFollows

variable {place : Placement} {T : Trace cfg} {r : Fin 64} {es post : List Event} {e : Event}
  {rank : Rank} {tuple : FiveTuple} {p : Packet} {now : ℕ}

lemma other (h : RankFollows place T r es rank)
    (hs : ∀ tuple, e.sentFlow cfg = some tuple → place tuple.sourceAddress ≠ r)
    (hd : ∀ tuple, e.deliveredFlow cfg = some tuple → place tuple.destinationAddress ≠ r) :
    RankFollows place T r (es ++ [e]) rank := by
  have hflows : flowsFrom cfg place r (es ++ [e]) = flowsFrom cfg place r es :=
    flowsFrom_concat_other fun tuple he hr => absurd hr (hs tuple he)
  refine ⟨h.enabled, hflows ▸ h.lastNewFlowId, hflows ▸ h.flowMap, fun x => ?_⟩
  have hsend : (e.sentFlow cfg).any (sentHere place T r x) = false := by
    cases he : e.sentFlow cfg with
    | none => rfl
    | some tuple => simp [sentHere, hs tuple he]
  have hdeliver : (e.deliveredFlow cfg).any (deliveredHere place T r x) = false := by
    cases he : e.deliveredFlow cfg with
    | none => rfl
    | some tuple => simp [deliveredHere, hd tuple he]
  simpa [sendsOf_concat, deliveriesOf_concat, hsend, hdeliver] using h.tallies x

lemma classify_sent_known (h : RankFollows place T r es rank) (now : ℕ)
    (hm : monitored cfg p = some tuple) (hmem : tuple ∈ flowsFrom cfg place r es) :
    ∃ packetId c, rank.classifier.classify cfg now p =
        (some (flowId cfg place T.events tuple, packetId), c) ∧
      c.lastNewFlowId = BitVec.ofNat 32 (2 ^ 26 * r + (flowsFrom cfg place r es).length) ∧
      ∀ t, c.flowMap.lookup t =
        if t ∈ flowsFrom cfg place r es then some (flowId cfg place T.events t) else none := by
  exact ⟨_, _, classify_known now hm ((h.flowMap tuple).trans (if_pos hmem)), h.lastNewFlowId,
    h.flowMap⟩

lemma flowId_sent_new (h : RankFollows place T r es rank)
    (hT : T.events = es ++ .send now p :: post) (hm : monitored cfg p = some tuple)
    (hr : place tuple.sourceAddress = r) (hmem : tuple ∉ flowsFrom cfg place r es) :
    flowId cfg place T.events tuple = rank.classifier.lastNewFlowId + 1 := by
  have hT' : T.events = (es ++ [.send now p]) ++ post := by
    rw [hT, List.append_assoc, List.singleton_append]
  have hsent : tuple ∈ sentFlows cfg (es ++ [.send now p]) := by
    rw [sentFlows_concat]
    exact List.mem_append_right _ (by simp [Event.sentFlow, hm])
  rw [hT', flowId_append hsent, flowId_new (e := .send now p) hm (hr ▸ hmem), hr, h.lastNewFlowId]

lemma classify_sent_new (h : RankFollows place T r es rank)
    (hT : T.events = es ++ .send now p :: post) (hm : monitored cfg p = some tuple)
    (hr : place tuple.sourceAddress = r) (hnow : now ≤ cfg.monitorUntil)
    (hmem : tuple ∉ flowsFrom cfg place r es) :
    ∃ packetId c, rank.classifier.classify cfg now p =
        (some (flowId cfg place T.events tuple, packetId), c) ∧
      c.lastNewFlowId =
        BitVec.ofNat 32 (2 ^ 26 * r + (flowsFrom cfg place r es ++ [tuple]).length) ∧
      ∀ t, c.flowMap.lookup t = if t ∈ flowsFrom cfg place r es ++ [tuple] then
        some (flowId cfg place T.events t) else none := by
  have hid := h.flowId_sent_new hT hm hr hmem
  have hc := classify_new hm ((h.flowMap tuple).trans (if_neg hmem)) hnow
  rw [← hid] at hc
  refine ⟨_, _, hc, ?_, lookup_insert_concat h.flowMap fun _ _ => rfl⟩
  rw [hid, List.length_append, List.length_singleton, ← Nat.add_assoc, BitVec.ofNat_add,
    ← h.lastNewFlowId]
  rfl

lemma classify_sent (h : RankFollows place T r es rank)
    (hT : T.events = es ++ .send now p :: post) (hm : monitored cfg p = some tuple)
    (hr : place tuple.sourceAddress = r) (hnow : now ≤ cfg.monitorUntil) :
    ∃ packetId c, rank.classifier.classify cfg now p =
        (some (flowId cfg place T.events tuple, packetId), c) ∧
      c.lastNewFlowId =
        BitVec.ofNat 32 (2 ^ 26 * r + (flowsFrom cfg place r (es ++ [.send now p])).length) ∧
      ∀ t, c.flowMap.lookup t = if t ∈ flowsFrom cfg place r (es ++ [.send now p]) then
        some (flowId cfg place T.events t) else none := by
  by_cases hmem : tuple ∈ flowsFrom cfg place r es
  · have hflows : flowsFrom cfg place r (es ++ [.send now p]) = flowsFrom cfg place r es := by
      apply flowsFrom_concat_other
      intro t he _
      obtain rfl : tuple = t := Option.some.inj (hm.symm.trans he)
      exact hmem
    rw [hflows]
    exact h.classify_sent_known now hm hmem
  · rw [flowsFrom_concat_new (e := .send now p) hm hr hmem]
    exact h.classify_sent_new hT hm hr hnow hmem

lemma headSendTime_ne_zero (hT : T.events = es ++ post) (x : FlowId)
    (hne : sendsOf cfg (sentHere place T r x) es ++ deliveriesOf cfg (deliveredHere place T r x) es ≠ []) :
    headSendTime T.events (sendsOf cfg (sentHere place T r x) es ++
      deliveriesOf cfg (deliveredHere place T r x) es) ≠ 0 := by
  apply Trace.headSendTime_ne_zero hne
  intro e he
  rcases List.mem_append.mp he with he | he
  · obtain ⟨hmem, tuple, ht, -⟩ := mem_sendsOf.mp he
    exact ⟨hT ▸ List.mem_append_left _ hmem, .inl (ht ▸ rfl)⟩
  · obtain ⟨hmem, tuple, ht, -⟩ := mem_deliveriesOf.mp he
    exact ⟨hT ▸ List.mem_append_left _ hmem, .inr (ht ▸ rfl)⟩

lemma sent (h : RankFollows place T r es rank) (hfits : T.Fits)
    (hT : T.events = es ++ .send now p :: post) (hm : monitored cfg p = some tuple)
    (hr : place tuple.sourceAddress = r) :
    ∃ packetId rank', rank.sendOutgoingLogger cfg now p none = .ok (rank',
        some ⟨flowId cfg place T.events tuple, packetId, p.size, p.ipHeader.source,
          p.ipHeader.destination, now, now⟩) ∧
      RankFollows place T r (es ++ [.send now p]) rank' := by
  have hmem : .send now p ∈ T.events := hT ▸ List.mem_append_right _ List.mem_cons_self
  have hunicast : cfg.isUnicast p.ipHeader.source p.ipHeader.destination = true :=
    T.accepted _ hmem
  obtain ⟨packetId, c, hc, hlast, hmap⟩ := h.classify_sent hT hm hr (T.time_le _ hmem)
  let id := flowId cfg place T.events tuple
  have hok : rank.sendOutgoingLogger cfg now p none =
      .ok (⟨c, rank.monitor.reportFirstTx now id packetId p.size⟩,
        some ⟨id, packetId, p.size, p.ipHeader.source, p.ipHeader.destination, now, now⟩) := by
    simp only [Rank.sendOutgoingLogger, hunicast, hc]
    rfl
  refine ⟨packetId, _, hok, by simpa using h.enabled, hlast, hmap, fun x => ?_⟩
  have hb : bytes (sendsOf cfg (sentHere place T r x) es) < 2 ^ 64 :=
    (bytes_le (hT ▸ sendsOf_sublist _ _ _)).trans_lt hfits.sent
  have hd : (Event.deliveredFlow cfg (.send now p)).any (deliveredHere place T r x) = false := rfl
  have hs : (Event.sentFlow cfg (.send now p)).any (sentHere place T r x) = decide (x = id) := by
    simp [Event.sentFlow, hm, sentHere, hr, id, eq_comm]
  rw [sendsOf_concat, deliveriesOf_concat, MpiFlowMonitor.reportFirstTx_getStatsForFlow h.enabled,
    hd, hs, if_neg Bool.false_ne_true, List.append_nil]
  by_cases hx : x = id
  · rw [if_pos (decide_eq_true hx), if_pos hx]
    exact (h.tallies x).firstTx hb (Trace.sendTime_sent hT)
  · rw [if_neg (by simpa using hx), if_neg hx, List.append_nil]
    exact h.tallies x

lemma delivered (h : RankFollows place T r es rank) {fTag : Ipv4MpiFlowProbeTag} {tStart : ℕ}
    (hT : T.events = es ++ .deliver now p :: post) (hm : monitored cfg p = some tuple)
    (hr : place tuple.destinationAddress = r) (hsent : sendTime es p = some tStart)
    (hid : fTag.flowId = flowId cfg place T.events tuple) (ht : fTag.tStart = tStart)
    (hvalid : fTag.isSrcDstValid p.ipHeader.source p.ipHeader.destination = true) :
    ∃ rank', rank.forwardUpLogger cfg now p (some fTag) = .ok rank' ∧
      RankFollows place T r (es ++ [.deliver now p]) rank' := by
  have hflows : flowsFrom cfg place r (es ++ [.deliver now p]) = flowsFrom cfg place r es :=
    flowsFrom_concat_other fun t he => by cases he
  have hok : rank.forwardUpLogger cfg now p (some fTag) = .ok { rank with
      monitor := rank.monitor.reportLastRx now fTag.flowId fTag.packetId p.size fTag.tStart } := by
    simp only [Rank.forwardUpLogger, if_neg (monitored_tcpSourcePort hm), hvalid]
    rfl
  refine ⟨_, hok, by simpa using h.enabled, hflows ▸ h.lastNewFlowId, hflows ▸ h.flowMap,
    fun x => ?_⟩
  have hs : (Event.sentFlow cfg (.deliver now p)).any (sentHere place T r x) = false := rfl
  have hd : (Event.deliveredFlow cfg (.deliver now p)).any (deliveredHere place T r x) =
      decide (x = fTag.flowId) := by
    simp [Event.deliveredFlow, hm, deliveredHere, hr, hid, eq_comm]
  rw [sendsOf_concat, deliveriesOf_concat, MpiFlowMonitor.reportLastRx_getStatsForFlow h.enabled,
    hs, hd, if_neg Bool.false_ne_true, List.append_nil, ht]
  by_cases hx : x = fTag.flowId
  · rw [if_pos (decide_eq_true hx), if_pos hx]
    exact (h.tallies x).lastRx (headSendTime_ne_zero hT x) (Trace.sendTime_events hT hsent)
  · rw [if_neg (by simpa using hx), if_neg hx, List.append_nil]
    exact h.tallies x

lemma reportDrop (h : RankFollows place T r es rank) (id : FlowId) (packetId : FlowPacketId)
    (packetSize reasonCode : ℕ) :
    RankFollows place T r es
      { rank with monitor := rank.monitor.reportDrop id packetId packetSize reasonCode } := by
  refine ⟨by simpa using h.enabled, h.lastNewFlowId, h.flowMap, fun x => ?_⟩
  rw [MpiFlowMonitor.reportDrop_getStatsForFlow h.enabled]
  split_ifs
  · exact (h.tallies x).drop packetSize reasonCode
  · exact h.tallies x

end RankFollows

def tagAfter (place : Placement) (T : Trace cfg) (es : List Event) (packetId : FlowPacketId)
    (p : Packet) : Option Ipv4MpiFlowProbeTag :=
  (sendTime es p).bind fun now => (monitored cfg p).map fun tuple =>
    ⟨flowId cfg place T.events tuple, packetId, p.size, p.ipHeader.source, p.ipHeader.destination,
      now, now⟩

structure Follows (place : Placement) (T : Trace cfg) (es : List Event) (s : System) : Prop where
  ranks : ∀ r, RankFollows place T r es (s.ranks r)
  tags : ∀ p, ∃ packetId, s.tags p = tagAfter place T es packetId p

namespace Event

variable {e : Event} {tuple : FiveTuple}

lemma sentFlow_host (h : e.sentFlow cfg = some tuple) : tuple.sourceAddress = e.host := by
  cases e with
  | send now p => exact (monitored_sourceAddress h).1
  | _ => cases h

lemma deliveredFlow_host (h : e.deliveredFlow cfg = some tuple) :
    tuple.destinationAddress = e.host := by
  cases e with
  | deliver now p => exact (monitored_sourceAddress h).2
  | _ => cases h

end Event

section Tags

variable {place : Placement} {T : Trace cfg} {es post : List Event} {e : Event} {p q : Packet}
  {now : ℕ} {packetId : FlowPacketId}

lemma tagAfter_concat (h : ∀ now, e ≠ .send now p) :
    tagAfter place T (es ++ [e]) packetId p = tagAfter place T es packetId p := by
  have hnone : sendTime [e] p = none :=
    sendTime_eq_none fun now he => h now (List.mem_singleton.mp he).symm
  rw [tagAfter, sendTime_append, hnone, Option.or_none]
  rfl

lemma tagAfter_unmonitored (h : monitored cfg p = none) : tagAfter place T es packetId p = none := by
  unfold tagAfter
  rw [h]
  cases sendTime es p <;> rfl

lemma tagAfter_unsent (hT : T.events = es ++ .send now p :: post) :
    tagAfter place T es packetId p = none := by
  rw [tagAfter, Trace.sendTime_append_none hT]
  rfl

lemma tagAfter_sent (hT : T.events = es ++ .send now p :: post) {tuple : FiveTuple}
    (hm : monitored cfg p = some tuple) :
    tagAfter place T (es ++ [.send now p]) packetId p =
      some ⟨flowId cfg place T.events tuple, packetId, p.size, p.ipHeader.source,
        p.ipHeader.destination, now, now⟩ := by
  have hnow : sendTime [.send now p] p = some now := by simp [sendTime]
  rw [tagAfter, sendTime_append, Trace.sendTime_append_none hT, hnow, hm]
  rfl

end Tags

namespace Follows

variable {place : Placement} {T : Trace cfg} {es post : List Event} {e : Event} {s : System}
  {rank : Rank} {p : Packet} {now : ℕ}

lemma setRank (h : Follows place T es s)
    (hr : RankFollows place T (place e.host) (es ++ [e]) rank) (r : Fin 64) :
    RankFollows place T r (es ++ [e]) ((s.setRank (place e.host) rank).ranks r) := by
  by_cases hr' : r = place e.host
  · subst hr'
    rw [Fleet.setRank_self]
    exact hr
  · rw [Fleet.setRank_of_ne hr']
    apply (h.ranks r).other
    · intro tuple he
      rw [Event.sentFlow_host he]
      exact Ne.symm hr'
    · intro tuple he
      rw [Event.deliveredFlow_host he]
      exact Ne.symm hr'

lemma setRank_tags (h : Follows place T es s)
    (hr : RankFollows place T (place e.host) (es ++ [e]) rank) (he : ∀ now p, e ≠ .send now p) :
    Follows place T (es ++ [e]) (s.setRank (place e.host) rank) := by
  refine ⟨h.setRank hr, fun p => ?_⟩
  obtain ⟨packetId, hp⟩ := h.tags p
  exact ⟨packetId, hp.trans (tagAfter_concat fun now => he now p).symm⟩

lemma silent (h : Follows place T es s) (r : Fin 64) (hs : e.sentFlow cfg = none)
    (hd : e.deliveredFlow cfg = none) : RankFollows place T r (es ++ [e]) (s.ranks r) := by
  apply (h.ranks r).other
  · intro tuple he
    cases hs.symm.trans he
  · intro tuple he
    cases hd.symm.trans he

lemma step_send (h : Follows place T es s) (hfits : T.Fits)
    (hT : T.events = es ++ .send now p :: post) :
    ∃ s', Fleet.step cfg place s (.send now p) = .ok s' ∧
      Follows place T (es ++ [.send now p]) s' := by
  have htag : s.tags p = none := by
    obtain ⟨packetId, hp⟩ := h.tags p
    exact hp.trans (tagAfter_unsent hT)
  have hrank : ∃ packetId rank', (s.ranks (place p.ipHeader.source)).sendOutgoingLogger cfg now p none =
        .ok (rank', tagAfter place T (es ++ [.send now p]) packetId p) ∧
      RankFollows place T (place p.ipHeader.source) (es ++ [.send now p]) rank' := by
    cases hm : monitored cfg p with
    | none =>
      have hunicast : cfg.isUnicast p.ipHeader.source p.ipHeader.destination = true :=
        T.accepted (.send now p) (hT ▸ List.mem_append_right _ List.mem_cons_self)
      refine ⟨0, s.ranks (place p.ipHeader.source), ?_, h.silent _ hm rfl⟩
      simp only [Rank.sendOutgoingLogger, hunicast, classify_unmonitored hm, tagAfter_unmonitored hm]
      rfl
    | some tuple =>
      obtain ⟨packetId, rank', hok, hr⟩ := (h.ranks (place p.ipHeader.source)).sent hfits hT hm
        (by rw [(monitored_sourceAddress hm).1])
      exact ⟨packetId, rank', (tagAfter_sent hT hm) ▸ hok, hr⟩
  obtain ⟨packetId, rank', hok, hr⟩ := hrank
  refine ⟨{ s.setRank (place p.ipHeader.source) rank' with
    tags := Function.update s.tags p (tagAfter place T (es ++ [.send now p]) packetId p) }, ?_,
    h.setRank (e := .send now p) hr, fun q => ?_⟩
  · simp only [Fleet.step, Event.host, Event.packet, htag, hok]
    rfl
  · by_cases hq : q = p
    · subst hq
      exact ⟨packetId, Function.update_self _ _ _⟩
    · obtain ⟨packetId', hp⟩ := h.tags q
      refine ⟨packetId', (Function.update_of_ne hq _ _).trans (hp.trans ?_)⟩
      exact (tagAfter_concat fun t he => hq (Event.send.inj he).2.symm).symm

lemma step_deliver (h : Follows place T es s) (hT : T.events = es ++ .deliver now p :: post) :
    ∃ s', Fleet.step cfg place s (.deliver now p) = .ok s' ∧
      Follows place T (es ++ [.deliver now p]) s' := by
  have hrank : ∃ rank', (s.ranks (place p.ipHeader.destination)).forwardUpLogger cfg now p (s.tags p) =
        .ok rank' ∧
      RankFollows place T (place p.ipHeader.destination) (es ++ [.deliver now p]) rank' := by
    cases hm : monitored cfg p with
    | none =>
      have hport : p.tcpSourcePort = cfg.sourcePortToFilter := by
        rcases T.accepted (.deliver now p) (hT ▸ List.mem_append_right _ List.mem_cons_self)
          with hport | hsome
        · exact hport
        · rw [hm] at hsome
          cases hsome
      exact ⟨_, if_pos hport, h.silent _ rfl hm⟩
    | some tuple =>
      obtain ⟨t, ht⟩ := Trace.sendTime_delivered hT
      obtain ⟨packetId, hp⟩ := h.tags p
      rw [tagAfter, ht, hm] at hp
      rw [hp]
      exact (h.ranks _).delivered hT hm (by rw [(monitored_sourceAddress hm).2]) ht rfl rfl
        (by simp [Ipv4MpiFlowProbeTag.isSrcDstValid])
  obtain ⟨rank', hok, hr⟩ := hrank
  refine ⟨s.setRank (place p.ipHeader.destination) rank', ?_,
    h.setRank_tags (e := .deliver now p) hr fun _ _ he => by cases he⟩
  simp only [Fleet.step, Event.host, Event.packet, hok]
  rfl

lemma tagDrop {r : Fin 64} (h : RankFollows place T r es rank) (reason : DropReason)
    (fTag : Option Ipv4MpiFlowProbeTag) :
    RankFollows place T r es (rank.tagDropLogger reason fTag) := by
  cases fTag with
  | none => exact h
  | some fTag => exact h.reportDrop _ _ _ _

lemma step (h : Follows place T es s) (hfits : T.Fits) (hT : T.events = es ++ e :: post) :
    ∃ s', Fleet.step cfg place s e = .ok s' ∧ Follows place T (es ++ [e]) s' := by
  cases e with
  | send now p => exact h.step_send hfits hT
  | deliver now p => exact h.step_deliver hT
  | drop now host p reason =>
    have hr := h.silent (e := .drop now host p reason) (place host) rfl rfl
    have hreason : reason ≠ .duplicate :=
      T.accepted (.drop now host p reason) (hT ▸ List.mem_append_right _ List.mem_cons_self)
    have hok : ∃ rank', (s.ranks (place host)).dropLogger p (s.tags p) reason = .ok rank' ∧
        RankFollows place T (place host) (es ++ [.drop now host p reason]) rank' := by
      cases s.tags p with
      | none => exact ⟨_, rfl, hr⟩
      | some fTag =>
        cases reason with
        | duplicate => exact absurd rfl hreason
        | _ => exact ⟨_, rfl, hr.reportDrop _ _ _ _⟩
    obtain ⟨rank', hok, hr'⟩ := hok
    refine ⟨_, ?_, h.setRank_tags (e := .drop now host p reason) hr' fun _ _ he => by cases he⟩
    simp only [Fleet.step, Event.host, Event.packet, hok]
    rfl
  | queueDrop now host p =>
    have hr := h.silent (e := .queueDrop now host p) (place host) rfl rfl
    exact ⟨_, rfl, h.setRank_tags (e := .queueDrop now host p) (tagDrop hr .queue (s.tags p))
      fun _ _ he => by cases he⟩
  | queueDiscDrop now host p =>
    have hr := h.silent (e := .queueDiscDrop now host p) (place host) rfl rfl
    exact ⟨_, rfl, h.setRank_tags (e := .queueDiscDrop now host p)
      (tagDrop hr .queueDisc (s.tags p)) fun _ _ he => by cases he⟩

lemma install (place : Placement) (T : Trace cfg) : Follows place T [] System.install where
  ranks r := by
    have hlast : (BitVec.ofNat 32 r <<< 26 : FlowId) = BitVec.ofNat 32 (2 ^ 26 * r) := by
      apply BitVec.eq_of_toNat_eq
      have hr := r.isLt
      simp only [BitVec.toNat_shiftLeft, BitVec.toNat_ofNat, Nat.shiftLeft_eq]
      omega
    exact ⟨rfl, hlast, fun tuple => rfl, fun x => Tallies.empty⟩
  tags p := ⟨0, rfl⟩

end Follows

theorem run_follows (place : Placement) (T : Trace cfg) (hfits : T.Fits) :
    ∃ s, System.run cfg place T.events = .ok s ∧ Follows place T T.events s :=
  foldlM_invariant (Follows.install place T) fun _ _ _ _ hT h => h.step hfits hT

end SwarmSim.FlowMonitor
