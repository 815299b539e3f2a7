import SwarmSim.FlowMonitor.Probe
import SwarmSim.Machine.Fold

/-! Traces of packet events, the rows that the ranks write for one, and what the flow monitor is
for: the first transmission, the last reception and the received bytes of every flow. -/

namespace SwarmSim.FlowMonitor

open Ns3 Machine

/-- A `Flow` element of `FlowStats` with the five-tuple that its id stands for. -/
structure FlowRow where
  tuple : FiveTuple
  timeFirstTxPacket : ℕ
  timeLastRxPacket : ℕ
  rxBytes : BitVec 64
  deriving DecidableEq

namespace System

def flowIds (s : System) : List (FiveTuple × FlowId) :=
  (List.finRange 64).flatMap fun r =>
    (s.ranks r).classifier.flowMap.entries.map fun flow => (flow.1, flow.2)

/-- The `FlowStats` of one rank, joined with the classifiers' output by flow id. -/
def rankRows (r : Fin 64) (s : System) : List FlowRow :=
  (s.ranks r).monitor.shownFlows.flatMap fun (flowId, stats) =>
    (s.flowIds.filter fun flow => flow.2 = flowId).map fun flow =>
      ⟨flow.1, stats.timeFirstTxPacket, stats.timeLastRxPacket, stats.rxBytes⟩

def rows (s : System) : List FlowRow := (List.finRange 64).flatMap fun r => s.rankRows r

end System

namespace Event

def sentFlow (cfg : Config) : Event → Option FiveTuple
  | send _ p => monitored cfg p
  | _ => none

def deliveredFlow (cfg : Config) : Event → Option FiveTuple
  | deliver _ p => monitored cfg p
  | _ => none

def Accepted (cfg : Config) : Event → Prop
  | send _ p => cfg.isUnicast p.ipHeader.source p.ipHeader.destination = true
  | deliver _ p => p.tcpSourcePort = cfg.sourcePortToFilter ∨ (monitored cfg p).isSome
  | drop _ _ _ reason => reason ≠ .duplicate
  | _ => True

end Event

/-- The packets of a trace are sent once, and delivered after they were sent; they may be lost and
may overtake each other. -/
structure Trace (cfg : Config) where
  events : List Event
  sent_once : ∀ pre now p post, events = pre ++ .send now p :: post → ∀ e ∈ pre, ∀ t, e ≠ .send t p
  follows_send : ∀ pre now p post, events = pre ++ .deliver now p :: post →
    ∃ t, .send t p ∈ pre
  accepted : ∀ e ∈ events, e.Accepted cfg
  time_pos : ∀ e ∈ events, 0 < e.time
  time_le : ∀ e ∈ events, e.time ≤ cfg.monitorUntil

section

variable (cfg : Config) (place : Placement)

def sentFlows (es : List Event) : List FiveTuple := es.filterMap (Event.sentFlow cfg)

def flowsFrom (r : Fin 64) (es : List Event) : List FiveTuple :=
  firstSeen ((sentFlows cfg es).filter fun tuple => place tuple.sourceAddress = r)

/-- A flow's number: `2 ^ 26` for each rank below the sender's, and its position on that rank. -/
def flowId (es : List Event) (tuple : FiveTuple) : FlowId :=
  BitVec.ofNat 32 (2 ^ 26 * place tuple.sourceAddress +
    (flowsFrom cfg place (place tuple.sourceAddress) es).idxOf tuple + 1)

def sendsOf (sel : FiveTuple → Bool) (es : List Event) : List Event :=
  es.filter fun e => (e.sentFlow cfg).any sel

def deliveriesOf (sel : FiveTuple → Bool) (es : List Event) : List Event :=
  es.filter fun e => (e.deliveredFlow cfg).any sel

end

def sendTime (es : List Event) (p : Packet) : Option ℕ :=
  es.findSome? fun
    | .send now q => if q = p then some now else none
    | _ => none

def headSendTime (es l : List Event) : ℕ :=
  (l.head?.bind fun e => sendTime es e.packet).getD 0

def lastTime (l : List Event) : ℕ := (l.getLast?.map Event.time).getD 0

def bytes (l : List Event) : ℕ := (l.map fun e => e.packet.size).sum

namespace Trace

variable {cfg : Config} (T : Trace cfg)

def sends (tuple : FiveTuple) : List Event := sendsOf cfg (· = tuple) T.events
def deliveries (tuple : FiveTuple) : List Event := deliveriesOf cfg (· = tuple) T.events

def flowRow (tuple : FiveTuple) : FlowRow where
  tuple := tuple
  timeFirstTxPacket := headSendTime T.events (T.sends tuple)
  timeLastRxPacket := lastTime (T.deliveries tuple)
  rxBytes := BitVec.ofNat 64 (bytes (T.deliveries tuple))

structure Fits : Prop where
  flows : (firstSeen (sentFlows cfg T.events)).length ≤ 2 ^ 32
  sent : bytes (sendsOf cfg (fun _ => true) T.events) < 2 ^ 64
  delivered : bytes (deliveriesOf cfg (fun _ => true) T.events) < 2 ^ 64

def PlacementInvisible (place : Placement) : Prop :=
  ∃ s s₁, System.run cfg place T.events = .ok s ∧ System.run cfg oneRank T.events = .ok s₁ ∧
    s.rows.Perm s₁.rows ∧
    ∀ r r', ∀ row ∈ s.rankRows r, ∀ row' ∈ s.rankRows r', row.tuple = row'.tuple → r = r'

end Trace

end SwarmSim.FlowMonitor
