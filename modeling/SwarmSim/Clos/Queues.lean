import Mathlib.Data.List.AList
import SwarmSim.Clos.Wiring

namespace SwarmSim.Clos

open Machine

abbrev LinkMap := AList fun _ : ℕ × ℕ => NetDevice × NetDevice

structure RedQueueDisc where
  linkBandwidth : String
  linkDelay : String
  minTh : ℕ
  maxTh : ℕ
  deriving DecidableEq

def redQueueDisc (linkRate linkDelay : ℕ) : RedQueueDisc where
  linkBandwidth := toString linkRate ++ "Gbps"
  linkDelay := toString linkDelay ++ "us"
  minTh := 50 * linkRate % 2 ^ 32 / 10
  maxTh := 150 * linkRate % 2 ^ 32 / 10

structure LinkState where
  edgeToAggLinks : LinkMap
  aggToCoreLinks : LinkMap
  serverToEdgeLinks : LinkMap
  serverDevices : ℕ → List NetDevice
  rootQueueDiscs : NetDevice → Option RedQueueDisc

def Links.HasDevice (ls : Links) (d : NetDevice) : Prop :=
  ∃ k ds, (ls.serverToEdgeLinks k = some ds ∨ ls.edgeToAggLinks k = some ds ∨
    ls.aggToCoreLinks k = some ds) ∧ (d = ds.1 ∨ d = ds.2)

namespace LinkState

def empty : LinkState := ⟨∅, ∅, ∅, fun _ => [], fun _ => none⟩

def setEdgeToAgg (k : ℕ × ℕ) (d : NetDevice × NetDevice) (t : LinkState) : LinkState :=
  { t with edgeToAggLinks := t.edgeToAggLinks.insert k d }

def setAggToCore (k : ℕ × ℕ) (d : NetDevice × NetDevice) (t : LinkState) : LinkState :=
  { t with aggToCoreLinks := t.aggToCoreLinks.insert k d }

def setServerToEdge (k : ℕ × ℕ) (d : NetDevice × NetDevice) (t : LinkState) : LinkState :=
  { t with serverToEdgeLinks := t.serverToEdgeLinks.insert k d }

def setServerDevices (tor : ℕ) (ds : List NetDevice) (t : LinkState) : LinkState :=
  { t with serverDevices := Function.update t.serverDevices tor ds }

def links (t : LinkState) : Links where
  edgeToAggLinks k := t.edgeToAggLinks.lookup k
  aggToCoreLinks k := t.aggToCoreLinks.lookup k
  serverToEdgeLinks k := t.serverToEdgeLinks.lookup k
  serverDevices := t.serverDevices

/-- `TrafficControlHelper::Install` of the two devices of a link. -/
def install (red : RedQueueDisc) (discs : NetDevice → Option RedQueueDisc)
    (ds : NetDevice × NetDevice) : NetDevice → Option RedQueueDisc :=
  Function.update (Function.update discs ds.1 (some red)) ds.2 (some red)

-- A `std::map` is walked in the order of its keys, which makes no difference here.
def installAll (red : RedQueueDisc) (m : LinkMap) (discs : NetDevice → Option RedQueueDisc) :
    NetDevice → Option RedQueueDisc :=
  m.entries.foldl (fun discs elem => install red discs elem.2) discs

def installRedQueueDisc (linkRate linkDelay : ℕ) (t : LinkState) : LinkState :=
  let red := redQueueDisc linkRate linkDelay
  { t with rootQueueDiscs := installAll red t.aggToCoreLinks (installAll red t.edgeToAggLinks
      (installAll red t.serverToEdgeLinks t.rootQueueDiscs)) }

end LinkState

namespace TopologyDescriptor

variable (p : TopologyDescriptor)

def connectTorLinks (pod edge : ℕ) (t : LinkState) : LinkState :=
  let tor := pod * p.h + edge
  let r := forRange (fun i r =>
    let devices := pointToPoint (.server tor i) (.edge pod edge)
    (r.1.setServerToEdge (tor, i + p.numServers * tor) devices, r.2 ++ [devices.1]))
    p.numServers (t, [])
  r.1.setServerDevices tor r.2

def connectServersLinks (t : LinkState) : LinkState :=
  forRange (fun pod t => forRange (fun edge t => p.connectTorLinks pod edge t) p.h t) p.numPods t

def fillLinks (t : LinkState) : LinkState :=
  let t := forRange (fun pod t => forRange (fun i t => forRange (fun j t =>
    t.setEdgeToAgg (pod * p.h + i, pod * p.h + j) (pointToPoint (.edge pod i) (.aggregate pod j)))
    p.h t) p.h t) p.numPods t
  let t := forRange (fun pod t => forRange (fun i t => forRange (fun j t =>
    t.setAggToCore (pod * p.h + i, i + p.h * j)
      (pointToPoint (.aggregate pod i) (.core (i + p.h * j))))
    p.h t) p.h t) p.numPods t
  p.connectServersLinks t

/-- The last call of `createTopology`; the calls before it make the nodes and their stacks. -/
def finishTopology (linkRate linkDelay : ℕ) (t : LinkState) : LinkState :=
  t.installRedQueueDisc linkRate linkDelay

/-- `createTopology` and then `createLinks`; the rest of `setupClosTopology` only reads the maps. -/
def setupLinks (linkRate linkDelay : ℕ) : LinkState :=
  p.fillLinks (finishTopology linkRate linkDelay .empty)

end TopologyDescriptor

namespace LinkState

variable {red : RedQueueDisc} {discs : NetDevice → Option RedQueueDisc} {m : LinkMap}
  {k : ℕ × ℕ} {d : NetDevice} {ds : NetDevice × NetDevice} {t : LinkState}

lemma lookup_insert_fun (m : LinkMap) (k : ℕ × ℕ) (ds : NetDevice × NetDevice) :
    (fun k' => (m.insert k ds).lookup k') = Function.update (fun k' => m.lookup k') k (some ds) := by
  funext k'
  by_cases hk : k' = k
  · subst hk
    rw [AList.lookup_insert, Function.update_self]
  · rw [AList.lookup_insert_ne hk, Function.update_of_ne hk]

@[simp] lemma links_setEdgeToAgg : (t.setEdgeToAgg k ds).links = t.links.setEdgeToAgg k ds := by
  simp only [links, setEdgeToAgg, Links.setEdgeToAgg, lookup_insert_fun]

@[simp] lemma links_setAggToCore : (t.setAggToCore k ds).links = t.links.setAggToCore k ds := by
  simp only [links, setAggToCore, Links.setAggToCore, lookup_insert_fun]

@[simp] lemma links_setServerToEdge :
    (t.setServerToEdge k ds).links = t.links.setServerToEdge k ds := by
  simp only [links, setServerToEdge, Links.setServerToEdge, lookup_insert_fun]

end LinkState

namespace TopologyDescriptor

variable {p : TopologyDescriptor} {linkRate linkDelay : ℕ}

lemma nested_links {f : ℕ → ℕ → ℕ → LinkState → LinkState} {g : ℕ → ℕ → ℕ → Links → Links}
    {a b c : ℕ} {t : LinkState} {ls : Links} (ht : t.links = ls)
    (hf : ∀ i j k t, (f i j k t).links = g i j k t.links) :
    (forRange (fun i t => forRange (fun j t => forRange (fun k t => f i j k t) c t) b t) a t).links =
      forRange (fun i ls => forRange (fun j ls => forRange (fun k ls => g i j k ls) c ls) b ls) a
        ls := by
  subst ht
  apply forRange_map LinkState.links
  intro i t _
  apply forRange_map LinkState.links
  intro j t _
  apply forRange_map LinkState.links
  intro k t _
  exact hf i j k t

lemma connectTorLinks_links (pod edge : ℕ) (t : LinkState) :
    (p.connectTorLinks pod edge t).links = p.connectTor pod edge t.links := by
  have hloop := forRange_map (n := p.numServers) (s := (t, []))
    (fun r : LinkState × List NetDevice => (r.1.links, r.2))
    (f := fun i r => (r.1.setServerToEdge (pod * p.h + edge, i + p.numServers * (pod * p.h + edge))
      (pointToPoint (.server (pod * p.h + edge) i) (.edge pod edge)),
      r.2 ++ [(pointToPoint (.server (pod * p.h + edge) i) (.edge pod edge)).1]))
    (g := fun i r => (r.1.setServerToEdge (pod * p.h + edge, i + p.numServers * (pod * p.h + edge))
      (pointToPoint (.server (pod * p.h + edge) i) (.edge pod edge)),
      r.2 ++ [(pointToPoint (.server (pod * p.h + edge) i) (.edge pod edge)).1]))
    fun i r _ => by simp only [LinkState.links_setServerToEdge]
  rw [connectTor, ← hloop]
  rfl

lemma fillLinks_links (t : LinkState) (ht : t.links = .empty) : (p.fillLinks t).links = p.createLinks := by
  have hservers : ∀ t : LinkState, (p.connectServersLinks t).links = p.connectServers t.links := by
    intro t
    apply forRange_map LinkState.links
    intro pod t _
    apply forRange_map LinkState.links
    intro edge t _
    exact connectTorLinks_links pod edge t
  rw [fillLinks, hservers, createLinks]
  congr 1
  apply nested_links
  · apply nested_links ht
    intro _ _ _ _
    exact LinkState.links_setEdgeToAgg
  · intro _ _ _ _
    exact LinkState.links_setAggToCore

theorem setupLinks_links : (p.setupLinks linkRate linkDelay).links = p.createLinks :=
  fillLinks_links _ rfl

lemma fillLinks_rootQueueDiscs (t : LinkState) :
    (p.fillLinks t).rootQueueDiscs = t.rootQueueDiscs := by
  let P (u : LinkState) := u.rootQueueDiscs = t.rootQueueDiscs
  have hservers : ∀ u, P u → P (p.connectServersLinks u) := by
    intro u hu
    apply forRange_preserves (P := P) hu
    intro pod u _ hu
    apply forRange_preserves (P := P) hu
    intro edge u _ hu
    exact forRange_preserves (P := fun r : LinkState × List NetDevice => P r.1) hu fun _ _ _ hr => hr
  apply hservers
  apply nested_preserves (P := P)
  · apply nested_preserves (P := P) rfl
    exact fun _ _ _ _ _ _ _ hu => hu
  · exact fun _ _ _ _ _ _ _ hu => hu

theorem setupLinks_rootQueueDiscs (p : TopologyDescriptor) (linkRate linkDelay : ℕ) (d : NetDevice) :
    (p.setupLinks linkRate linkDelay).rootQueueDiscs d = none := by
  rw [setupLinks, fillLinks_rootQueueDiscs]
  rfl

lemma createLinks_of_no_pods (h : p.numPods = 0 ∨ p.h = 0) : p.createLinks = .empty := by
  rw [createLinks, connectServers]
  rcases h with h | h
  · simp only [h, forRange_zero]
  · simp only [h, forRange_zero, forRange_id]

/-- The devices of all links have their queue only where there is no link. -/
theorem setupLinks_queued_iff (p : TopologyDescriptor) (linkRate linkDelay : ℕ) :
    (∀ d, (p.setupLinks linkRate linkDelay).links.HasDevice d →
      (p.setupLinks linkRate linkDelay).rootQueueDiscs d = some (redQueueDisc linkRate linkDelay)) ↔
      p.numPods = 0 ∨ p.switchRadix < 2 := by
  have hh : p.h = 0 ↔ p.switchRadix < 2 := by
    rw [h]
    omega
  rw [← hh]
  simp only [setupLinks_links, setupLinks_rootQueueDiscs, reduceCtorEq, imp_false]
  constructor
  · intro hnone
    by_contra hlink
    rw [not_or] at hlink
    have hedge : p.createLinks.edgeToAggLinks (0 * p.h + 0, 0 * p.h + 0) =
        some (pointToPoint (.edge 0 0) (.aggregate 0 0)) :=
      edgeToAggLinks_eq (by omega) (by omega) (by omega)
    exact hnone ⟨.edge 0 0, .aggregate 0 0⟩ ⟨_, _, Or.inr (Or.inl hedge), Or.inl rfl⟩
  · intro hempty d
    rw [createLinks_of_no_pods hempty]
    rintro ⟨k, ds, hlink, -⟩
    simp [Links.empty] at hlink

theorem setupLinks_not_queued :
    let p : TopologyDescriptor := ⟨4, 2, 2, true⟩
    (p.setupLinks 10 50).links.HasDevice ⟨.edge 0 0, .aggregate 0 1⟩ ∧
      (p.setupLinks 10 50).rootQueueDiscs ⟨.edge 0 0, .aggregate 0 1⟩ = none := by
  intro p
  refine ⟨?_, setupLinks_rootQueueDiscs p 10 50 _⟩
  have hedge : p.createLinks.edgeToAggLinks (0, 1) =
      some (pointToPoint (.edge 0 0) (.aggregate 0 1)) := by decide
  rw [setupLinks_links]
  exact ⟨_, _, Or.inr (Or.inl hedge), Or.inl rfl⟩

end TopologyDescriptor

end SwarmSim.Clos
