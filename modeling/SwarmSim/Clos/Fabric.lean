import SwarmSim.Clos.Setup
import SwarmSim.Wcmp.Lookup

/-! What the fabric is meant to be: its links, and what each node has on each interface while a
given set of links is up. -/

namespace SwarmSim.Clos

open Machine Ns3 Wcmp

inductive Link
  | edgeAgg (pod e a : ℕ)
  | aggCore (pod a k : ℕ)
  deriving DecidableEq

def Node.runsWcmp : Node → Bool
  | .aggregate _ _ | .edge _ _ => true
  | .core _ | .server _ _ => false

namespace TopologyDescriptor

variable (p : TopologyDescriptor)

def HasLink : Link → Prop
  | .edgeAgg pod e a => pod < p.numPods ∧ e < p.h ∧ a < p.h
  | .aggCore pod a k => pod < p.numPods ∧ a < p.h ∧ k < p.h

def HasNode : Node → Prop
  | .core c => c < p.h * p.h
  | .aggregate q a | .edge q a => q < p.numPods ∧ a < p.h
  | .server t k => t < p.numPods * p.h ∧ k < p.numServers

def remotes : Node → List Node
  | .edge q f => (List.range p.numServers).map (.server (q * p.h + f)) ++
      (List.range p.h).map (.aggregate q)
  | .aggregate q a => (List.range p.h).map (.edge q) ++
      (List.range p.h).map (fun k => .core (k * p.h + a))
  | .core c => (List.range p.numPods).map (fun q => .aggregate q (c % p.h))
  | .server t _ => [.edge (t / p.h) (t % p.h)]

def devices (v : Node) : List (Option NetDevice) := none :: (p.remotes v).map fun u => some ⟨v, u⟩

section Devices

variable {p : TopologyDescriptor} {v u : Node} {q f a c t k i : ℕ}

lemma devices_eq_some : (p.devices v)[i]? = some (some ⟨v, u⟩) ↔ 0 < i ∧ (p.remotes v)[i - 1]? = some u := by
  cases i with
  | zero => simp [devices]
  | succ i => simp [devices]

lemma getElem?_map_range {n : ℕ} (g : ℕ → Node) :
    ((List.range n).map g)[i]? = if i < n then some (g i) else none := by
  rw [List.getElem?_map]
  split
  · rename_i hi
    rw [List.getElem?_range hi, Option.map_some]
  · rename_i hi
    rw [List.getElem?_eq_none (by rwa [List.length_range, ← Nat.not_lt]), Option.map_none]

lemma getElem?_append_ranges {m n : ℕ} (g g' : ℕ → Node) :
    ((List.range m).map g ++ (List.range n).map g')[i]? =
      if i < m then some (g i) else if i < m + n then some (g' (i - m)) else none := by
  rw [List.getElem?_append, List.length_map, List.length_range, getElem?_map_range,
    getElem?_map_range]
  split
  · rfl
  · rename_i hi
    simp only [Nat.sub_lt_iff_lt_add (Nat.not_lt.mp hi), Nat.add_comm n]

lemma remotes_edge : (p.remotes (.edge q f))[i]? =
    if i < p.numServers then some (.server (q * p.h + f) i)
    else if i < p.numServers + p.h then some (.aggregate q (i - p.numServers)) else none :=
  getElem?_append_ranges _ _

lemma remotes_aggregate : (p.remotes (.aggregate q a))[i]? =
    if i < p.h then some (.edge q i)
    else if i < p.h + p.h then some (.core ((i - p.h) * p.h + a)) else none :=
  getElem?_append_ranges _ _

lemma remotes_core : (p.remotes (.core c))[i]? =
    if i < p.numPods then some (.aggregate i (c % p.h)) else none :=
  getElem?_map_range _

lemma remotes_server : (p.remotes (.server t k))[i]? =
    if i = 0 then some (.edge (t / p.h) (t % p.h)) else none := by
  cases i <;> simp [remotes]

end Devices

/-- The link at an interface, if it is one that a command can name. -/
def portLink : Node → ℕ → Option Link
  | .edge q f, i =>
    if p.numServers < i ∧ i ≤ p.numServers + p.h then some (.edgeAgg q f (i - p.numServers - 1))
    else none
  | .aggregate q a, i =>
    if 0 < i ∧ i ≤ p.h then some (.edgeAgg q (i - 1) a)
    else if p.h < i ∧ i ≤ p.h + p.h then some (.aggCore q a (i - p.h - 1))
    else none
  | .core c, i =>
    if 0 < i ∧ i ≤ p.numPods then some (.aggCore (i - 1) (c % p.h) (c / p.h)) else none
  | .server _ _, _ => none

def portUp (up : Link → Bool) (v : Node) (i : ℕ) : Bool :=
  i < (p.devices v).length && (p.portLink v i).all up

def address : Node → ℕ → Ipv4InterfaceAddress
  | .server t k, 1 => serverNetwork (t / p.h) (t % p.h) (k + 1)
  | _, _ => loopbackAddress

def IsRoute : Node → StaticRoute → Prop
  | .edge q f, r => ∃ i < p.numServers, r = hostRoute q f i
  | .aggregate q _, r => ∃ e < p.h, r = torRoute q e
  | .core _, r => ∃ q < p.numPods, r = podRoute q
  | .server _ _, r => r = defaultRoute

def IsWcmpRoute : Node → Ipv4RoutingTableEntry → ℕ → Prop
  | .edge _ _, e, m => ∃ a < p.h, e = .createNetworkRouteTo 0 0 (p.numServers + 1 + a) ∧ m = 1
  | .aggregate q _, e, m =>
    (∃ k < p.switchRadix - p.h, e = .createNetworkRouteTo 0 0 (p.h + 1 + k) ∧ m = 1) ∨
    (p.enableEdgeBounceBackup = true ∧ ∃ k < p.h, k ≠ q ∧ m = backupPathMetric ∧
      e = .createNetworkRouteTo (.ofOctets 10 (q % 2 ^ 8) 0 0) (.ofPrefix 16) (k + 1))
  | _, _, _ => False

variable {S : Ipv4StaticRouting}

structure WcmpTracks (v : Node) (isUp : ℕ → Bool) (r : WcmpStaticRouting) : Prop where
  levels : r.weights.levels = p.numLevels
  levelMapper : r.levelMapper = some p.torLevelMapper
  tracked (i : ℕ) : (r.weights.states i).isSome ↔ i < (p.devices v).length
  isIfUp (i : ℕ) : r.weights.isIfUp i = isUp i
  routes (e : Ipv4RoutingTableEntry) (m : ℕ) :
    r.HasRoute e m ↔ p.IsWcmpRoute v e m
  length : r.networkRoutes.length ≤ p.switchRadix + p.switchRadix

/-- The stack of node `v` as it is when exactly the links of `up` are up. -/
structure Tracks (up : Link → Bool) (v : Node) (s : NodeStack S) : Prop where
  interfaces : s.interfaces = p.devices v
  isUp (i : ℕ) : s.isUp i = p.portUp up v i
  addresses (i : ℕ) : i < (p.devices v).length → s.addresses i = [p.address v i]
  connected (i : ℕ) : p.portUp up v i = true → (p.address v i).hasNetwork = true →
    S.Has s.staticRouting ((p.address v i).connectedRoute i)
  routes (r : StaticRoute) : p.IsRoute v r → p.portUp up v r.interface = true →
    S.Has s.staticRouting r
  sound (r : StaticRoute) : S.Has s.staticRouting r →
    p.IsRoute v r ∨ ∃ i, r = (p.address v i).connectedRoute i
  runsWcmp : s.wcmp.isSome = v.runsWcmp
  wcmp (r : WcmpStaticRouting) : s.wcmp = some r → p.WcmpTracks v s.isUp r

end TopologyDescriptor

end SwarmSim.Clos
