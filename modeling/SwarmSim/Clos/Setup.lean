import SwarmSim.Clos.Topology

namespace SwarmSim.Clos

open Machine Ns3 Wcmp

structure Links where
  edgeToAggLinks : ℕ × ℕ → Option (NetDevice × NetDevice)
  aggToCoreLinks : ℕ × ℕ → Option (NetDevice × NetDevice)
  serverToEdgeLinks : ℕ × ℕ → Option (NetDevice × NetDevice)
  serverDevices : ℕ → List NetDevice

namespace Links

def empty : Links := ⟨fun _ => none, fun _ => none, fun _ => none, fun _ => []⟩

def setEdgeToAgg (k : ℕ × ℕ) (d : NetDevice × NetDevice) (ls : Links) : Links :=
  { ls with edgeToAggLinks := Function.update ls.edgeToAggLinks k (some d) }

def setAggToCore (k : ℕ × ℕ) (d : NetDevice × NetDevice) (ls : Links) : Links :=
  { ls with aggToCoreLinks := Function.update ls.aggToCoreLinks k (some d) }

def setServerToEdge (k : ℕ × ℕ) (d : NetDevice × NetDevice) (ls : Links) : Links :=
  { ls with serverToEdgeLinks := Function.update ls.serverToEdgeLinks k (some d) }

def setServerDevices (tor : ℕ) (ds : List NetDevice) (ls : Links) : Links :=
  { ls with serverDevices := Function.update ls.serverDevices tor ds }

end Links

namespace TopologyDescriptor

variable (p : TopologyDescriptor)

/-- The loop of `connectServers` over the servers of one ToR; the second component of its state
is `currentEdgeServerDevices`. -/
def connectTor (pod edge : ℕ) (ls : Links) : Links :=
  let tor := pod * p.h + edge
  let r := forRange (fun i r =>
    let devices := pointToPoint (.server tor i) (.edge pod edge)
    (r.1.setServerToEdge (tor, i + p.numServers * tor) devices, r.2 ++ [devices.1]))
    p.numServers (ls, [])
  r.1.setServerDevices tor r.2

def connectServers (ls : Links) : Links :=
  forRange (fun pod ls => forRange (fun edge ls => p.connectTor pod edge ls) p.h ls) p.numPods ls

def createLinks : Links :=
  let ls := forRange (fun pod ls => forRange (fun i ls => forRange (fun j ls =>
    ls.setEdgeToAgg (pod * p.h + i, pod * p.h + j) (pointToPoint (.edge pod i) (.aggregate pod j)))
    p.h ls) p.h ls) p.numPods .empty
  let ls := forRange (fun pod ls => forRange (fun i ls => forRange (fun j ls =>
    ls.setAggToCore (pod * p.h + i, i + p.h * j)
      (pointToPoint (.aggregate pod i) (.core (i + p.h * j))))
    p.h ls) p.h ls) p.numPods ls
  p.connectServers ls

variable {S : Ipv4StaticRouting}

def createTopology (S : Ipv4StaticRouting) : Nodes S
  | .core _ => .install S
  | .server _ _ => .install S
  | .edge _ _ => .installWcmp S p.numLevels p.torLevelMapper
  | .aggregate _ _ => .installWcmp S p.numLevels p.torLevelMapper

def serverNetwork (pod edge host : ℕ) : Ipv4InterfaceAddress :=
  ⟨.ofOctets 10 (pod % 2 ^ 16) (edge % 2 ^ 16) host, .ofPrefix 24⟩

/-- `Ipv4AddressHelper::Assign`: the devices of one ToR get host numbers from 1 on. -/
def assign (pod edge : ℕ) (devices : List NetDevice) (nodes : Nodes S) : Nodes S :=
  forRange (fun i nodes =>
    match devices[i]? with
    | some d => nodes.modify d.node (·.connect (some d) (serverNetwork pod edge (i + 1)))
    | none => nodes) devices.length nodes

def assignServerIps (ls : Links) (nodes : Nodes S) : Nodes S :=
  forRange (fun pod nodes => forRange (fun i nodes =>
    assign pod i (ls.serverDevices (pod * p.h + i)) nodes) p.h nodes) p.numPods nodes

/-! The three loops of `createFabricInterfaces`. -/

def edgeServerInterfaces (ls : Links) (nodes : Nodes S) : Nodes S :=
  forRange (fun pod nodes => forRange (fun edge nodes => forRange (fun i nodes =>
    let tor := pod * p.h + edge
    nodes.modify (.edge pod edge)
      (·.connect ((ls.serverToEdgeLinks (tor, p.numServers * tor + i)).map Prod.snd) loopbackAddress))
    p.numServers nodes) p.h nodes) p.numPods nodes

def aggEdgeInterfaces (ls : Links) (nodes : Nodes S) : Nodes S :=
  forRange (fun pod nodes => forRange (fun agg nodes => forRange (fun edge nodes =>
    let link := ls.edgeToAggLinks (pod * p.h + edge, pod * p.h + agg)
    let nodes := nodes.modify (.edge pod edge) (·.connect (link.map Prod.fst) loopbackAddress)
    nodes.modify (.aggregate pod agg) (·.connect (link.map Prod.snd) loopbackAddress))
    p.h nodes) p.h nodes) p.numPods nodes

def aggCoreInterfaces (ls : Links) (nodes : Nodes S) : Nodes S :=
  forRange (fun pod nodes => forRange (fun agg nodes => forRange (fun i nodes =>
    let link := ls.aggToCoreLinks (pod * p.h + agg, i * p.h + agg)
    let nodes := nodes.modify (.aggregate pod agg) (·.connect (link.map Prod.fst) loopbackAddress)
    nodes.modify (.core (i * p.h + agg)) (·.connect (link.map Prod.snd) loopbackAddress))
    p.h nodes) p.h nodes) p.numPods nodes

def createFabricInterfaces (ls : Links) (nodes : Nodes S) : Nodes S :=
  p.aggCoreInterfaces ls (p.aggEdgeInterfaces ls (p.edgeServerInterfaces ls nodes))

def defaultRoute : StaticRoute := ⟨0, 0, 1, 0⟩

def podRoute (pod : ℕ) : StaticRoute := ⟨.ofOctets 10 (pod % 2 ^ 8) 0 0, .ofPrefix 16, pod + 1, 0⟩

def directPathMetric : ℕ := 1

def backupPathMetric : ℕ := 10

def hostRoute (pod edge i : ℕ) : StaticRoute :=
  ⟨.ofOctets 10 (pod % 2 ^ 8) (edge % 2 ^ 8) (i % 2 ^ 8 + 1), BitVec.allOnes 32, i + 1,
    directPathMetric⟩

def torRoute (pod i : ℕ) : StaticRoute :=
  ⟨.ofOctets 10 (pod % 2 ^ 8) (i % 2 ^ 8) 0, .ofPrefix 24, i + 1, directPathMetric⟩

def setupServerRouting (nodes : Nodes S) : Nodes S :=
  forRange (fun pod nodes => forRange (fun edge nodes => forRange (fun i nodes =>
    nodes.modify (.server (p.h * pod + edge) i) (·.addStaticRoute defaultRoute))
    p.numServers nodes) p.h nodes) p.numPods nodes

def setupCoreRouting (nodes : Nodes S) : Nodes S :=
  forRange (fun core nodes => forRange (fun pod nodes =>
    nodes.modify (.core core) (·.addStaticRoute (podRoute pod))) p.numPods nodes) p.numCores nodes

/-! The two loops of `doEcmp`. -/

def ecmpEdges (nodes : Nodes S) : Nodes S :=
  forRange (fun pod nodes => forRange (fun edge nodes =>
    let nodes := forRange (fun i nodes =>
      nodes.modify (.edge pod edge) (·.addStaticRoute (hostRoute pod edge i))) p.numServers nodes
    forRange (fun k nodes =>
      nodes.modify (.edge pod edge) (·.modifyWcmp (·.addWildcardRoute (p.numServers + 1 + k) 1)))
      p.h nodes) p.h nodes) p.numPods nodes

def ecmpAggregates (nodes : Nodes S) : Nodes S :=
  forRange (fun pod nodes => forRange (fun agg nodes =>
    let nodes := forRange (fun i nodes =>
      nodes.modify (.aggregate pod agg) (·.addStaticRoute (torRoute pod i))) p.h nodes
    forRange (fun k nodes =>
      nodes.modify (.aggregate pod agg) (·.modifyWcmp (·.addWildcardRoute (p.h + 1 + k) 1)))
      (p.switchRadix - p.h) nodes) p.h nodes) p.numPods nodes

def doEcmp (nodes : Nodes S) : Nodes S := p.ecmpAggregates (p.ecmpEdges nodes)

def enableAggregateBackupPaths (nodes : Nodes S) : Nodes S :=
  forRange (fun pod nodes => forRange (fun agg nodes => forRange (fun k nodes =>
    if k + 1 = pod + 1 then nodes
    else nodes.modify (.aggregate pod agg) (·.modifyWcmp (·.addNetworkRouteTo
      (.ofOctets 10 (pod % 2 ^ 8) 0 0) (.ofPrefix 16) (k + 1) backupPathMetric)))
    p.h nodes) p.h nodes) p.numPods nodes

def setupClosTopology (S : Ipv4StaticRouting) : Nodes S :=
  let nodes := p.createTopology S
  let ls := p.createLinks
  let nodes := p.createFabricInterfaces ls (p.assignServerIps ls nodes)
  let nodes := p.doEcmp (p.setupCoreRouting (p.setupServerRouting nodes))
  if p.enableEdgeBounceBackup then p.enableAggregateBackupPaths nodes else nodes

def getServerAddress (nodes : Nodes S) (tor host : ℕ) : Option Ipv4Address :=
  ((nodes (.server tor host)).addresses 1).head?.map (·.localAddress)

end TopologyDescriptor

end SwarmSim.Clos
