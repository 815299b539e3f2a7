import SwarmSim.Clos.Setup

namespace SwarmSim.Clos

open Machine Ns3 Wcmp

structure LinkInterfaces where
  src : Node
  srcIf : ℕ
  dst : Node
  dstIf : ℕ

inductive Command
  | linkDown (srcLevel : TopologyLevel) (srcIdx : ℕ) (dstLevel : TopologyLevel) (dstIdx : ℕ)
  | linkUp (srcLevel : TopologyLevel) (srcIdx : ℕ) (dstLevel : TopologyLevel) (dstIdx : ℕ)
  /-- `SET_BW`, `SET_DELAY` and `SET_LOSS` set attributes that forwarding never reads. -/
  | setAttribute (srcLevel : TopologyLevel) (srcIdx : ℕ) (dstLevel : TopologyLevel) (dstIdx : ℕ)
  | setWcmp (level : TopologyLevel) (idx interface wcmpLevel weight : ℕ)
  | migrate (source destination : ℕ) (percent : ℤ)

namespace Nodes

variable {S : Ipv4StaticRouting}

def setUp (v : Node) (i : ℕ) (nodes : Nodes S) : Except Fault (Nodes S) :=
  if i < (nodes v).interfaces.length then .ok (nodes.modify v (·.setUp i)) else .error .nullPointer

def setDown (v : Node) (i : ℕ) (nodes : Nodes S) : Except Fault (Nodes S) :=
  if i < (nodes v).interfaces.length then .ok (nodes.modify v (·.setDown i)) else .error .nullPointer

/-- `GetWcmpStaticRouting(ipv4)->SetInterfaceWeight`. -/
def setInterfaceWeight (v : Node) (i level weight : ℕ) (nodes : Nodes S) : Except Fault (Nodes S) :=
  match (nodes v).wcmp with
  | none => .error .nullPointer
  | some _ => .ok (nodes.modify v (·.modifyWcmp (·.setInterfaceWeight i level weight)))

end Nodes

namespace TopologyDescriptor

variable (p : TopologyDescriptor) {S : Ipv4StaticRouting} (systemId : Node → ℕ)

def getEdge (fullIdx : ℕ) : Except Fault Node :=
  if fullIdx / p.h < p.numPods ∧ fullIdx % p.h < p.h then .ok (.edge (fullIdx / p.h) (fullIdx % p.h))
  else .error .outOfRange

def getAggregate (fullIdx : ℕ) : Except Fault Node :=
  if fullIdx / p.h < p.numPods ∧ fullIdx % p.h < p.h then
    .ok (.aggregate (fullIdx / p.h) (fullIdx % p.h))
  else .error .outOfRange

def getCore (idx : ℕ) : Except Fault Node :=
  if idx < p.numCores then .ok (.core idx) else .error .outOfRange

def getLinkInterfaceIndices :
    TopologyLevel → ℕ → TopologyLevel → ℕ → Except Fault LinkInterfaces
  | .edge, srcIdx, .aggregate, dstIdx =>
    if p.getPodNum srcIdx ≠ p.getPodNum dstIdx then .error .assertion
    else (p.getEdge srcIdx).bind fun src => (p.getAggregate dstIdx).map fun dst =>
      ⟨src, p.numServers + (p.getPodAndIndex dstIdx).2 + 1, dst, (p.getPodAndIndex srcIdx).2 + 1⟩
  | .aggregate, srcIdx, .core, dstIdx =>
    if srcIdx % p.h ≠ dstIdx % p.h then .error .assertion
    else (p.getAggregate srcIdx).bind fun src => (p.getCore dstIdx).map fun dst =>
      ⟨src, dstIdx / p.h + p.h + 1, dst, (p.getPodAndIndex srcIdx).1 + 1⟩
  | _, _, _, _ => .error .assertion

-- `level` and `weight` are `uint16_t` parameters.
def doUpdateWcmp (nodeLevel : TopologyLevel) (nodeIdx i level weight : ℕ) (nodes : Nodes S) :
    Except Fault (Nodes S) :=
  (match nodeLevel with
    | .edge => p.getEdge nodeIdx
    | .aggregate => p.getAggregate nodeIdx
    | .core => p.getCore nodeIdx).bind fun v =>
      nodes.setInterfaceWeight v i (level % 2 ^ 16) (weight % 2 ^ 16)

def mitigateEdgeToAggregateLink (ei aj weight : ℕ) (nodes : Nodes S) : Except Fault (Nodes S) :=
  let eiPod := p.getPodNum ei
  if eiPod ≠ p.getPodNum aj then .error .assertion
  else
    -- The edges in the same pod, then the edges in other pods.
    (forRangeM (fun k nodes =>
      let ek := eiPod * p.h + k
      if ek = ei then .ok nodes
      else (p.getLinkInterfaceIndices .edge ek .aggregate aj).bind fun props =>
        p.doUpdateWcmp .edge ek props.srcIf ei weight nodes) p.h nodes).bind fun nodes =>
    forRangeM (fun pod nodes =>
      if pod = eiPod then .ok nodes
      else forRangeM (fun edge nodes =>
        let nodeIdxEdge := pod * p.h + edge
        forRangeM (fun agg nodes =>
          if agg ≠ aj % p.h then .ok nodes
          else
            (p.getLinkInterfaceIndices .edge nodeIdxEdge .aggregate (pod * p.h + agg)).bind
              fun props => p.doUpdateWcmp .edge nodeIdxEdge props.srcIf ei weight nodes)
          p.h nodes) p.h nodes) p.numPods nodes

def mitigateEdgeToAggregateLinkDown (ei aj : ℕ) (nodes : Nodes S) : Except Fault (Nodes S) :=
  p.mitigateEdgeToAggregateLink ei aj 0 nodes

def mitigateEdgeToAggregateLinkUp (ei aj : ℕ) (nodes : Nodes S) : Except Fault (Nodes S) :=
  p.mitigateEdgeToAggregateLink ei aj 1 nodes

def mitigateAggregateToCoreLink (ai cj weight : ℕ) (nodes : Nodes S) : Except Fault (Nodes S) :=
  let aiPod := p.getPodNum ai
  forRangeM (fun pod nodes =>
    if pod = aiPod then .ok nodes
    else forRangeM (fun agg nodes =>
      let nodeIdx := pod * p.h + agg
      if agg % p.h ≠ ai % p.h then .ok nodes
      else (p.getLinkInterfaceIndices .aggregate nodeIdx .core cj).bind fun props =>
        forRangeM (fun k nodes =>
          p.doUpdateWcmp .aggregate nodeIdx props.srcIf (p.h * aiPod + k) weight nodes) p.h nodes)
      p.h nodes) p.numPods nodes

def mitigateAggregateToCoreLinkDown (ai cj : ℕ) (nodes : Nodes S) : Except Fault (Nodes S) :=
  p.mitigateAggregateToCoreLink ai cj 0 nodes

def mitigateAggregateToCoreLinkUp (ai cj : ℕ) (nodes : Nodes S) : Except Fault (Nodes S) :=
  p.mitigateAggregateToCoreLink ai cj 1 nodes

def restoreStaticRoutesAggregate (aggIdx : ℕ) (nodes : Nodes S) : Except Fault (Nodes S) :=
  (p.getAggregate aggIdx).map fun v =>
    forRange (fun i nodes => nodes.modify v (·.addStaticRoute (torRoute (p.getPodNum aggIdx) i)))
      p.h nodes

def restoreStaticRoutesCore (coreIdx : ℕ) (nodes : Nodes S) : Except Fault (Nodes S) :=
  (p.getCore coreIdx).map fun v =>
    forRange (fun pod nodes => nodes.modify v (·.addStaticRoute (podRoute pod))) p.numPods nodes

def mitigateLinkDown : TopologyLevel → ℕ → TopologyLevel → ℕ → Nodes S → Except Fault (Nodes S)
  | .edge, srcIdx, .aggregate, dstIdx, nodes => p.mitigateEdgeToAggregateLinkDown srcIdx dstIdx nodes
  | .aggregate, srcIdx, .core, dstIdx, nodes => p.mitigateAggregateToCoreLinkDown srcIdx dstIdx nodes
  | _, _, _, _, _ => .error .assertion

def mitigateLinkUp : TopologyLevel → ℕ → TopologyLevel → ℕ → Nodes S → Except Fault (Nodes S)
  | .edge, srcIdx, .aggregate, dstIdx, nodes =>
    (p.mitigateEdgeToAggregateLinkUp srcIdx dstIdx nodes).bind
      (p.restoreStaticRoutesAggregate dstIdx)
  | .aggregate, srcIdx, .core, dstIdx, nodes =>
    (p.mitigateAggregateToCoreLinkUp srcIdx dstIdx nodes).bind (p.restoreStaticRoutesCore dstIdx)
  | .core, _, _, _, nodes => .ok nodes
  | _, _, _, _, _ => .error .assertion

def localLink (srcLevel : TopologyLevel) (srcIdx : ℕ) (dstLevel : TopologyLevel) (dstIdx : ℕ) :
    Except Fault LinkInterfaces :=
  (p.getLinkInterfaceIndices srcLevel srcIdx dstLevel dstIdx).bind fun props =>
    if systemId props.src = systemId props.dst then .ok props else .error .assertion

def doDisableLink (srcLevel : TopologyLevel) (srcIdx : ℕ) (dstLevel : TopologyLevel) (dstIdx : ℕ)
    (autoMitigate : Bool) (nodes : Nodes S) : Except Fault (Nodes S) :=
  (p.localLink systemId srcLevel srcIdx dstLevel dstIdx).bind fun props =>
  (nodes.setDown props.src props.srcIf).bind fun nodes =>
  (nodes.setDown props.dst props.dstIf).bind fun nodes =>
  if autoMitigate then p.mitigateLinkDown srcLevel srcIdx dstLevel dstIdx nodes else .ok nodes

def doEnableLink (srcLevel : TopologyLevel) (srcIdx : ℕ) (dstLevel : TopologyLevel) (dstIdx : ℕ)
    (autoMitigate : Bool) (nodes : Nodes S) : Except Fault (Nodes S) :=
  (p.localLink systemId srcLevel srcIdx dstLevel dstIdx).bind fun props =>
  (nodes.setUp props.src props.srcIf).bind fun nodes =>
  (nodes.setUp props.dst props.dstIf).bind fun nodes =>
  if autoMitigate then p.mitigateLinkUp srcLevel srcIdx dstLevel dstIdx nodes else .ok nodes

def execute : Command → Nodes S → Except Fault (Nodes S)
  | .linkDown l i l' j, nodes => p.doDisableLink systemId l i l' j true nodes
  | .linkUp l i l' j, nodes => p.doEnableLink systemId l i l' j true nodes
  | .setAttribute l i l' j, nodes => (p.localLink systemId l i l' j).map fun _ => nodes
  | .setWcmp l idx i level weight, nodes => p.doUpdateWcmp l idx i level weight nodes
  | .migrate _ _ percent, nodes => if |percent| ≤ 100 then .ok nodes else .error .assertion

def run : List Command → Nodes S → Except Fault (Nodes S)
  | [], nodes => .ok nodes
  | c :: cs, nodes => (p.execute systemId c nodes).bind (run cs)

end TopologyDescriptor

end SwarmSim.Clos
