import SwarmSim.Ns3.StaticRouting
import SwarmSim.Wcmp.StaticRouting

namespace SwarmSim.Clos

open Machine Ns3 Wcmp

structure TopologyDescriptor where
  switchRadix : ℕ
  numServers : ℕ
  numPods : ℕ
  enableEdgeBounceBackup : Bool
  deriving DecidableEq

namespace TopologyDescriptor

variable (p : TopologyDescriptor)

def h : ℕ := p.switchRadix / 2

def numCores : ℕ := p.switchRadix * p.switchRadix / 4

-- The `uint16_t` that the WCMP stacks are created with.
def numLevels : ℕ := p.numPods * p.switchRadix / 2 % 2 ^ 16

def getPodNum (fullIdx : ℕ) : ℕ := fullIdx / p.h

def getPodAndIndex (fullIdx : ℕ) : ℕ × ℕ :=
  (fullIdx / p.h, fullIdx % p.h)

def torLevelMapper (dest : Ipv4Address) : ℕ :=
  (dest.toNat / 2 ^ 16 % 256 * p.switchRadix / 2 + dest.toNat / 2 ^ 8 % 256) % 2 ^ 16

end TopologyDescriptor

inductive TopologyLevel
  | edge
  | aggregate
  | core
  deriving DecidableEq

inductive Node
  | core (idx : ℕ)
  | aggregate (pod idx : ℕ)
  | edge (pod idx : ℕ)
  | server (tor idx : ℕ)
  deriving DecidableEq

/-- A point-to-point device, named by the two nodes of its link: no two nodes have two links. -/
structure NetDevice where
  node : Node
  remote : Node
  deriving DecidableEq

def NetDevice.peer (d : NetDevice) : NetDevice := ⟨d.remote, d.node⟩

/-- `PointToPointHelper::Install` of a container of two nodes. -/
def pointToPoint (a b : Node) : NetDevice × NetDevice := (⟨a, b⟩, ⟨b, a⟩)

def loopbackAddress : Ipv4InterfaceAddress := ⟨.ofOctets 127 0 0 1, .ofPrefix 8⟩

/-- The IPv4 stack of a node. Interface 0 is the loopback; its device is on no link. -/
structure NodeStack (S : Ipv4StaticRouting) where
  interfaces : List (Option NetDevice)
  isUp : ℕ → Bool
  addresses : ℕ → List Ipv4InterfaceAddress
  staticRouting : S.Table
  wcmp : Option WcmpStaticRouting

namespace NodeStack

variable {S : Ipv4StaticRouting}

/-- `InternetStackHelper::Install` with the default routing. -/
def install (S : Ipv4StaticRouting) : NodeStack S where
  interfaces := [none]
  isUp i := i = 0
  addresses i := if i = 0 then [loopbackAddress] else []
  staticRouting := S.notifyInterfaceUp 0 [loopbackAddress] S.empty
  wcmp := none

def installWcmp (S : Ipv4StaticRouting) (levels : ℕ) (mapper : Ipv4Address → ℕ) : NodeStack S :=
  { install S with wcmp := some ((WcmpStaticRouting.new levels (some mapper)).setIpv4 1 (· = 0)) }

def addInterface (device : Option NetDevice) (s : NodeStack S) : NodeStack S :=
  { s with interfaces := s.interfaces ++ [device] }

-- Notifications reach static routing first, then WCMP, through `Ipv4ListRouting`.
def addAddress (i : ℕ) (a : Ipv4InterfaceAddress) (s : NodeStack S) : NodeStack S :=
  { s with
    addresses := Function.update s.addresses i (s.addresses i ++ [a])
    staticRouting := S.notifyAddAddress (s.isUp i) i a s.staticRouting
    wcmp := s.wcmp.map (·.notifyAddAddress i (s.isUp i)) }

def setUp (i : ℕ) (s : NodeStack S) : NodeStack S :=
  { s with
    isUp := Function.update s.isUp i true
    staticRouting := S.notifyInterfaceUp i (s.addresses i) s.staticRouting
    wcmp := s.wcmp.map (·.notifyInterfaceUp i true) }

def setDown (i : ℕ) (s : NodeStack S) : NodeStack S :=
  { s with
    isUp := Function.update s.isUp i false
    staticRouting := S.notifyInterfaceDown i s.staticRouting
    wcmp := s.wcmp.map (·.notifyInterfaceDown i) }

def addStaticRoute (r : StaticRoute) (s : NodeStack S) : NodeStack S :=
  { s with staticRouting := S.addNetworkRouteTo r s.staticRouting }

def modifyWcmp (f : WcmpStaticRouting → WcmpStaticRouting) (s : NodeStack S) : NodeStack S :=
  { s with wcmp := s.wcmp.map f }

def connect (device : Option NetDevice) (a : Ipv4InterfaceAddress) (s : NodeStack S) : NodeStack S :=
  ((s.addInterface device).addAddress s.interfaces.length a).setUp s.interfaces.length

end NodeStack

abbrev Nodes (S : Ipv4StaticRouting) := Node → NodeStack S

namespace Nodes

variable {S : Ipv4StaticRouting}

def modify (v : Node) (f : NodeStack S → NodeStack S) (nodes : Nodes S) : Nodes S :=
  Function.update nodes v (f (nodes v))

lemma modify_apply (v u : Node) (f : NodeStack S → NodeStack S) (nodes : Nodes S) :
    nodes.modify v f u = if u = v then f (nodes u) else nodes u := by
  by_cases h : u = v
  · subst h
    rw [modify, Function.update_self, if_pos rfl]
  · rw [modify, Function.update_of_ne h, if_neg h]

end Nodes

end SwarmSim.Clos
