import SwarmSim.FlowMonitor.Trace

/-! The state that a trace leads to: the flow ids of each rank, the tags of the packets and the
statistics that a rank keeps under an id, all told from the events so far. -/

namespace SwarmSim.FlowMonitor

open Ns3 Machine

section Lists

variable {cfg : Config} {sel sel' : FiveTuple → Bool} {es es' l : List Event} {e : Event}
  {p q : Packet} {now t : ℕ}

lemma sentFlows_concat (es : List Event) (e : Event) :
    sentFlows cfg (es ++ [e]) = sentFlows cfg es ++ (e.sentFlow cfg).toList := by
  unfold sentFlows
  rw [List.filterMap_append]
  cases h : e.sentFlow cfg <;> simp [h]

lemma sendsOf_concat (sel : FiveTuple → Bool) (es : List Event) (e : Event) :
    sendsOf cfg sel (es ++ [e]) =
      sendsOf cfg sel es ++ if (e.sentFlow cfg).any sel then [e] else [] := by
  unfold sendsOf
  rw [List.filter_append, List.filter_singleton]
  cases (e.sentFlow cfg).any sel <;> rfl

lemma deliveriesOf_concat (sel : FiveTuple → Bool) (es : List Event) (e : Event) :
    deliveriesOf cfg sel (es ++ [e]) =
      deliveriesOf cfg sel es ++ if (e.deliveredFlow cfg).any sel then [e] else [] := by
  unfold deliveriesOf
  rw [List.filter_append, List.filter_singleton]
  cases (e.deliveredFlow cfg).any sel <;> rfl

lemma mem_sendsOf : e ∈ sendsOf cfg sel es ↔
    e ∈ es ∧ ∃ tuple, e.sentFlow cfg = some tuple ∧ sel tuple = true := by
  rw [sendsOf, List.mem_filter, Option.any_eq_true]

lemma mem_deliveriesOf : e ∈ deliveriesOf cfg sel es ↔
    e ∈ es ∧ ∃ tuple, e.deliveredFlow cfg = some tuple ∧ sel tuple = true := by
  rw [deliveriesOf, List.mem_filter, Option.any_eq_true]

@[simp] lemma bytes_nil : bytes [] = 0 := rfl

@[simp] lemma bytes_append (l l' : List Event) : bytes (l ++ l') = bytes l + bytes l' := by
  simp [bytes]

@[simp] lemma bytes_singleton (e : Event) : bytes [e] = e.packet.size := by simp [bytes]

lemma bytes_le (h : l.Sublist es) : bytes l ≤ bytes es := by
  induction h with
  | slnil => rfl
  | cons e _ ih => exact ih.trans (by simp [bytes])
  | cons_cons e _ ih => simpa [bytes] using ih

lemma bytes_pos (h : l ≠ []) : 0 < bytes l := by
  obtain ⟨e, l, rfl⟩ := List.exists_cons_of_ne_nil h
  simpa [bytes] using Or.inl e.packet.size_pos

lemma sendsOf_sublist (sel : FiveTuple → Bool) (es es' : List Event) :
    (sendsOf cfg sel es).Sublist (sendsOf cfg (fun _ => true) (es ++ es')) := by
  unfold sendsOf
  rw [List.filter_append]
  exact (List.monotone_filter_right _ fun e he => by
    obtain ⟨tuple, ht, -⟩ := (Option.any_eq_true _ _).mp he
    simp [ht]).trans (List.sublist_append_left _ _)

lemma sendTime_append (es es' : List Event) (p : Packet) :
    sendTime (es ++ es') p = (sendTime es p).or (sendTime es' p) := List.findSome?_append

lemma sendTime_mem (h : sendTime es p = some t) : .send t p ∈ es := by
  obtain ⟨e, he, ht⟩ := List.exists_of_findSome?_eq_some h
  cases e with
  | send now q =>
    simp only [Option.ite_none_right_eq_some, Option.some.injEq] at ht
    obtain ⟨rfl, rfl⟩ := ht
    exact he
  | _ => cases ht

lemma sendTime_eq_none (h : ∀ t, .send t p ∉ es) : sendTime es p = none := by
  cases hs : sendTime es p with
  | none => rfl
  | some t => exact absurd (sendTime_mem hs) (h t)

lemma sendTime_isSome (h : .send t p ∈ es) : ∃ t', sendTime es p = some t' := by
  apply Option.isSome_iff_exists.mp
  exact List.findSome?_isSome_iff.mpr ⟨_, h, by simp⟩

lemma headSendTime_cons (es : List Event) (e : Event) (l : List Event) :
    headSendTime es (e :: l) = (sendTime es e.packet).getD 0 := rfl

lemma headSendTime_append (h : l ≠ []) (es l' : List Event) :
    headSendTime es (l ++ l') = headSendTime es l := by
  obtain ⟨e, l, rfl⟩ := List.exists_cons_of_ne_nil h
  rfl

@[simp] lemma lastTime_concat (l : List Event) (e : Event) : lastTime (l ++ [e]) = e.time := by
  simp [lastTime]

end Lists

structure Tallies (events sent delivered : List Event) (stats : FlowStats) : Prop where
  txBytes : stats.txBytes = BitVec.ofNat 64 (bytes sent)
  rxBytes : stats.rxBytes = BitVec.ofNat 64 (bytes delivered)
  timeLastRxPacket : stats.timeLastRxPacket = lastTime delivered
  timeFirstTxPacket : stats.timeFirstTxPacket = headSendTime events (sent ++ delivered)

namespace Tallies

variable {events sent delivered : List Event} {stats : FlowStats} {p : Packet} {now tStart : ℕ}

lemma empty : Tallies events [] [] {} := ⟨rfl, rfl, rfl, rfl⟩

lemma firstTx (h : Tallies events sent delivered stats) (hb : bytes sent < 2 ^ 64)
    (hp : sendTime events p = some now) :
    Tallies events (sent ++ [.send now p]) delivered (stats.firstTx now p.size) where
  txBytes := by
    rw [FlowStats.firstTx_txBytes, h.txBytes, bytes_append, bytes_singleton, BitVec.ofNat_add]
    rfl
  rxBytes := by rw [FlowStats.firstTx_rxBytes, h.rxBytes]
  timeLastRxPacket := by rw [FlowStats.firstTx_timeLastRxPacket, h.timeLastRxPacket]
  timeFirstTxPacket := by
    rw [FlowStats.firstTx_timeFirstTxPacket, h.txBytes, h.timeFirstTxPacket]
    by_cases hs : sent = []
    · subst hs
      simp [headSendTime_cons, Event.packet, hp]
    · have hne : BitVec.ofNat 64 (bytes sent) ≠ 0 := by
        intro hz
        have hz := congrArg BitVec.toNat hz
        rw [BitVec.toNat_ofNat, Nat.mod_eq_of_lt hb] at hz
        exact (bytes_pos hs).ne' hz
      rw [if_neg hne, List.append_assoc, headSendTime_append hs, headSendTime_append hs]

lemma lastRx (h : Tallies events sent delivered stats)
    (hpos : sent ++ delivered ≠ [] → headSendTime events (sent ++ delivered) ≠ 0)
    (hp : sendTime events p = some tStart) :
    Tallies events sent (delivered ++ [.deliver now p]) (stats.lastRx now p.size tStart) where
  txBytes := by rw [FlowStats.lastRx_txBytes, h.txBytes]
  rxBytes := by
    rw [FlowStats.lastRx_rxBytes, h.rxBytes, bytes_append, bytes_singleton, BitVec.ofNat_add]
    rfl
  timeLastRxPacket := by rw [FlowStats.lastRx_timeLastRxPacket, lastTime_concat]; rfl
  timeFirstTxPacket := by
    rw [FlowStats.lastRx_timeFirstTxPacket, h.timeFirstTxPacket, ← List.append_assoc]
    by_cases hs : sent ++ delivered = []
    · rw [hs]
      simp [headSendTime, Event.packet, hp]
    · rw [if_neg (hpos hs), headSendTime_append hs]

lemma drop (h : Tallies events sent delivered stats) (packetSize reasonCode : ℕ) :
    Tallies events sent delivered (stats.drop packetSize reasonCode) where
  txBytes := by rw [FlowStats.drop_txBytes, h.txBytes]
  rxBytes := by rw [FlowStats.drop_rxBytes, h.rxBytes]
  timeLastRxPacket := by rw [FlowStats.drop_timeLastRxPacket, h.timeLastRxPacket]
  timeFirstTxPacket := by rw [FlowStats.drop_timeFirstTxPacket, h.timeFirstTxPacket]

end Tallies

end SwarmSim.FlowMonitor
