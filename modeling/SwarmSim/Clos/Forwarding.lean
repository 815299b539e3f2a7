import SwarmSim.Clos.Topology

/-! The way of one packet: what the IPv4 stack of each node does with it, hop by hop. -/

namespace SwarmSim.Ns3

def Ipv4InterfaceAddress.getBroadcast (a : Ipv4InterfaceAddress) : Ipv4Address :=
  a.localAddress ||| ~~~a.mask

end SwarmSim.Ns3

namespace SwarmSim.Clos

open Machine Ns3 Wcmp

inductive Verdict
  | localDeliver
  | forward (i : ℕ)
  | error
  | unhandled
  deriving DecidableEq

def verdict : InputAnswer → Verdict
  | .localDeliver => .localDeliver
  | .error => .error
  | .forward route => .forward route.outputInterface
  | .unhandled => .unhandled

namespace NodeStack

variable {S : Ipv4StaticRouting}

def isDestinationAddress (dest : Ipv4Address) (s : NodeStack S) : Bool :=
  (List.range s.interfaces.length).any fun i =>
    (s.addresses i).any fun a => dest = a.localAddress || dest = a.getBroadcast

/-- `Ipv4ListRouting::RouteInput`: local delivery, then static routing, then WCMP. No interface
has its `IsForwarding` flag cleared. -/
def routeInputWith (useCache : Bool) (dest : Ipv4Address) (hash iif : ℕ) (s : NodeStack S) :
    Except Fault Verdict × NodeStack S :=
  if s.isDestinationAddress dest then (.ok .localDeliver, s)
  else match S.lookupStatic dest s.staticRouting with
    | some i => (.ok (.forward i), s)
    | none =>
      match s.wcmp with
      | none => (.ok .unhandled, s)
      | some r =>
        let a := r.routeInput useCache false true dest hash iif
        (a.1.map verdict, { s with wcmp := some a.2 })

def routeInput (dest : Ipv4Address) (hash iif : ℕ) (s : NodeStack S) :
    Except Fault Verdict × NodeStack S :=
  s.routeInputWith false dest hash iif

end NodeStack

def Node.isSwitch : Node → Bool
  | .server _ _ => false
  | _ => true

def Node.pod : Node → Option ℕ
  | .edge q _ | .aggregate q _ => some q
  | .core _ | .server _ _ => none

inductive Fate
  | delivered
  | dropped
  | aborted (f : Fault)
  deriving DecidableEq

structure Trip where
  hops : List (Node × ℕ)
  last : Node
  fate : Fate
  deriving DecidableEq

namespace Trip

def cons (hop : Node × ℕ) (t : Trip) : Trip := { t with hops := hop :: t.hops }

def visited (t : Trip) : List Node := t.hops.map Prod.fst ++ [t.last]

def switches (t : Trip) : List Node := t.visited.filter Node.isSwitch

end Trip

structure SentPacket where
  source : Node
  destination : Ipv4Address
  /-- The hash at a hop, by the TTL that is left. -/
  hash : ℕ → ℕ

namespace Nodes

variable {S : Ipv4StaticRouting}

def receiver (v : Node) (i : ℕ) (nodes : Nodes S) : Option (Node × ℕ) :=
  (nodes v).interfaces[i]?.map fun
    | some d => (d.remote, (nodes d.remote).interfaces.idxOf (some d.peer))
    | none => (v, i)

/-- The packet arrives at `v` by interface `iif`; `ttl` is its TTL minus one. A node that takes
the TTL to 0 drops the packet. -/
def forwardWith (useCache : Bool) (dest : Ipv4Address) (hash : ℕ → ℕ) :
    ℕ → Node → ℕ → Nodes S → Trip × Nodes S
  | ttl, v, iif, nodes =>
    if !(nodes v).isUp iif then (⟨[], v, .dropped⟩, nodes)
    else match (nodes v).routeInputWith useCache dest (hash ttl) iif with
      | (.error f, s) => (⟨[], v, .aborted f⟩, Function.update nodes v s)
      | (.ok .localDeliver, s) => (⟨[], v, .delivered⟩, Function.update nodes v s)
      | (.ok (.forward i), s) =>
        match ttl with
        | 0 => (⟨[], v, .dropped⟩, Function.update nodes v s)
        | ttl + 1 =>
          if !s.isUp i then (⟨[], v, .dropped⟩, Function.update nodes v s)
          else match receiver v i nodes with
            | some (u, j) =>
              let r := forwardWith useCache dest hash ttl u j (Function.update nodes v s)
              (r.1.cons (v, i), r.2)
            | none => (⟨[], v, .dropped⟩, Function.update nodes v s)
      | (.ok _, s) => (⟨[], v, .dropped⟩, Function.update nodes v s)

def forward (dest : Ipv4Address) (hash : ℕ → ℕ) (ttl : ℕ) (v : Node) (iif : ℕ) (nodes : Nodes S) :
    Trip :=
  (nodes.forwardWith false dest hash ttl v iif).1

def defaultTtl : ℕ := 64

/-- An interface gives a packet for its own address straight back. -/
def sendWith (useCache : Bool) (k : SentPacket) (nodes : Nodes S) : Trip × Nodes S :=
  match S.lookupStatic k.destination (nodes k.source).staticRouting with
  | none => (⟨[], k.source, .dropped⟩, nodes)
  | some i =>
    if !(nodes k.source).isUp i then (⟨[], k.source, .dropped⟩, nodes)
    else if ((nodes k.source).addresses i).any fun a => k.destination = a.localAddress then
      (⟨[], k.source, .delivered⟩, nodes)
    else match receiver k.source i nodes with
      | some (u, j) =>
        let r := forwardWith useCache k.destination k.hash (defaultTtl - 1) u j nodes
        (r.1.cons (k.source, i), r.2)
      | none => (⟨[], k.source, .dropped⟩, nodes)

def send (dest : Ipv4Address) (hash : ℕ → ℕ) (v : Node) (nodes : Nodes S) : Trip :=
  (nodes.sendWith false ⟨v, dest, hash⟩).1

end Nodes

end SwarmSim.Clos
