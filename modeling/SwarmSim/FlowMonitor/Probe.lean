import Mathlib.Logic.Function.Basic
import SwarmSim.FlowMonitor.Monitor

/-! The probes of the hosts, the ranks that the hosts are spread over and the run of a trace of
packet events. A packet that is on its way keeps the byte tag of its sender's probe, whichever
ranks it crosses. -/

namespace SwarmSim.FlowMonitor

open Ns3

structure Ipv4MpiFlowProbeTag where
  flowId : FlowId
  packetId : FlowPacketId
  packetSize : ℕ
  src : Ipv4Address
  dst : Ipv4Address
  tStart : ℕ
  tLastRx : ℕ
  deriving DecidableEq

def Ipv4MpiFlowProbeTag.isSrcDstValid (src dst : Ipv4Address) (fTag : Ipv4MpiFlowProbeTag) : Bool :=
  fTag.src = src && fTag.dst = dst

inductive Ipv4DropReason
  | ttlExpired
  | noRoute
  | badChecksum
  | interfaceDown
  | routeError
  | fragmentTimeout
  | duplicate
  deriving DecidableEq

inductive DropReason
  | noRoute
  | ttlExpire
  | badChecksum
  | queue
  | queueDisc
  | interfaceDown
  | routeError
  | fragmentTimeout
  | invalidReason
  deriving DecidableEq

def DropReason.toNat (reason : DropReason) : ℕ := reason.ctorIdx

def DropReason.ofIpv4 : Ipv4DropReason → Option DropReason
  | .ttlExpired => some .ttlExpire
  | .noRoute => some .noRoute
  | .badChecksum => some .badChecksum
  | .interfaceDown => some .interfaceDown
  | .routeError => some .routeError
  | .fragmentTimeout => some .fragmentTimeout
  | .duplicate => none

structure Rank where
  classifier : Ipv4MpiFlowClassifier
  monitor : MpiFlowMonitor

namespace Rank

/-- What `MpiFlowMonitorHelper` installs, once the start event at time zero has passed. -/
def install (systemId : BitVec 32) : Rank where
  classifier := Ipv4MpiFlowClassifier.create.setSystemId systemId
  monitor := MpiFlowMonitor.startRightNow {}

/-- The rank after the call and the tag that the packet leaves with. -/
def sendOutgoingLogger (cfg : Config) (now : ℕ) (p : Packet) (fTag : Option Ipv4MpiFlowProbeTag)
    (r : Rank) : Except Fault (Rank × Option Ipv4MpiFlowProbeTag) :=
  if !cfg.isUnicast p.ipHeader.source p.ipHeader.destination then
    .error (.abort "we are not prepared to handle broadcast yet")
  else if fTag.isSome then .error (.abort "Found in sendOutgoing")
  else
    match r.classifier.classify cfg now p with
    | (none, classifier) => .ok ({ r with classifier }, none)
    | (some (flowId, packetId), classifier) =>
      .ok (⟨classifier, r.monitor.reportFirstTx now flowId packetId p.size⟩,
        some ⟨flowId, packetId, p.size, p.ipHeader.source, p.ipHeader.destination, now, now⟩)

def forwardUpLogger (cfg : Config) (now : ℕ) (p : Packet) (fTag : Option Ipv4MpiFlowProbeTag)
    (r : Rank) : Except Fault Rank :=
  if p.tcpSourcePort = cfg.sourcePortToFilter then .ok r
  else
    match fTag with
    | some fTag =>
      if !fTag.isSrcDstValid p.ipHeader.source p.ipHeader.destination then .ok r
      else
        .ok { r with
          monitor := r.monitor.reportLastRx now fTag.flowId fTag.packetId p.size fTag.tStart }
    | none =>
      if now > cfg.monitorUntil then .ok r
      else .error (.abort "This should not happen!")

def dropLogger (p : Packet) (fTag : Option Ipv4MpiFlowProbeTag) (reason : Ipv4DropReason)
    (r : Rank) : Except Fault Rank :=
  match fTag with
  | none => .ok r
  | some fTag =>
    match DropReason.ofIpv4 reason with
    | some myReason =>
      .ok { r with
        monitor := r.monitor.reportDrop fTag.flowId fTag.packetId p.size myReason.toNat }
    | none => .error (.abort "Unexpected drop reason code 7")

/-- `QueueDropLogger` and `QueueDiscDropLogger`, which differ in the reason. -/
def tagDropLogger (reason : DropReason) (fTag : Option Ipv4MpiFlowProbeTag) (r : Rank) : Rank :=
  match fTag with
  | none => r
  | some fTag =>
    { r with
      monitor := r.monitor.reportDrop fTag.flowId fTag.packetId fTag.packetSize reason.toNat }

def queueDropLogger : Option Ipv4MpiFlowProbeTag → Rank → Rank := tagDropLogger .queue
def queueDiscDropLogger : Option Ipv4MpiFlowProbeTag → Rank → Rank := tagDropLogger .queueDisc

end Rank

inductive Event
  | send (now : ℕ) (p : Packet)
  | deliver (now : ℕ) (p : Packet)
  | drop (now : ℕ) (host : Ipv4Address) (p : Packet) (reason : Ipv4DropReason)
  | queueDrop (now : ℕ) (host : Ipv4Address) (p : Packet)
  | queueDiscDrop (now : ℕ) (host : Ipv4Address) (p : Packet)
  deriving DecidableEq

namespace Event

def time : Event → ℕ
  | send now _ | deliver now _ | drop now _ _ _ | queueDrop now _ _ | queueDiscDrop now _ _ => now

def packet : Event → Packet
  | send _ p | deliver _ p | drop _ _ p _ | queueDrop _ _ p | queueDiscDrop _ _ p => p

def host : Event → Ipv4Address
  | send _ p => p.ipHeader.source
  | deliver _ p => p.ipHeader.destination
  | drop _ host _ _ | queueDrop _ host _ | queueDiscDrop _ host _ => host

end Event

section

variable {R : Type} [DecidableEq R]

structure Fleet (R : Type) where
  ranks : R → Rank
  tags : Packet → Option Ipv4MpiFlowProbeTag

namespace Fleet

def install (systemId : R → BitVec 32) : Fleet R where
  ranks r := Rank.install (systemId r)
  tags _ := none

def setRank (r : R) (rank : Rank) (s : Fleet R) : Fleet R :=
  { s with ranks := Function.update s.ranks r rank }

lemma setRank_self {s : Fleet R} {r : R} {rank : Rank} : (s.setRank r rank).ranks r = rank :=
  Function.update_self _ _ _

lemma setRank_of_ne {s : Fleet R} {r r' : R} {rank : Rank} (h : r ≠ r') :
    (s.setRank r' rank).ranks r = s.ranks r := Function.update_of_ne h _ _

def step (cfg : Config) (place : Ipv4Address → R) (s : Fleet R) (e : Event) :
    Except Fault (Fleet R) :=
  let r := place e.host
  let rank := s.ranks r
  let fTag := s.tags e.packet
  match e with
  | .send now p => do
    let (rank, fTag) ← rank.sendOutgoingLogger cfg now p fTag
    .ok { s.setRank r rank with tags := Function.update s.tags p fTag }
  | .deliver now p => do
    let rank ← rank.forwardUpLogger cfg now p fTag
    .ok (s.setRank r rank)
  | .drop _ _ p reason => do
    let rank ← rank.dropLogger p fTag reason
    .ok (s.setRank r rank)
  | .queueDrop _ _ _ => .ok (s.setRank r (rank.queueDropLogger fTag))
  | .queueDiscDrop _ _ _ => .ok (s.setRank r (rank.queueDiscDropLogger fTag))

def run (cfg : Config) (place : Ipv4Address → R) (systemId : R → BitVec 32) (events : List Event) :
    Except Fault (Fleet R) :=
  events.foldlM (step cfg place) (install systemId)

end Fleet

end

abbrev Placement := Ipv4Address → Fin 64

def oneRank : Placement := fun _ => 0

/-- As many ranks as a flow id tells apart. -/
abbrev System := Fleet (Fin 64)

namespace System

abbrev install : System := Fleet.install fun r => BitVec.ofNat 32 r

abbrev run (cfg : Config) (place : Placement) (events : List Event) : Except Fault System :=
  Fleet.run cfg place (fun r => BitVec.ofNat 32 r) events

end System

end SwarmSim.FlowMonitor
