import SwarmSim.Machine.Run
import SwarmSim.Wcmp.Weights

/-! `WcmpStaticRouting`: the route table of a WCMP switch, its flow cache, the
notifications it receives and the lookup. -/

namespace SwarmSim.Wcmp

open Machine Ns3

/-- The parts of a `Ptr<Ipv4Route>` that the chosen entry fixes. -/
structure Ipv4Route where
  destination : Ipv4Address
  gateway : Ipv4Address
  outputInterface : ℕ
  deriving DecidableEq

def EntryPtr.route (p : EntryPtr) : Ipv4Route := ⟨p.entry.dest, p.entry.gateway, p.entry.interface⟩

structure WcmpStaticRouting where
  levelMapper : Option (Ipv4Address → ℕ)
  weights : WcmpWeights
  cache : ℕ → Option (Option EntryPtr)
  networkRoutes : List (EntryPtr × ℕ)
  nextAddress : ℕ

structure LpmScan where
  longestMask : ℕ
  shortestMetric : ℕ
  entries : List EntryPtr

def LpmScan.visit (dest : Ipv4Address) (s : LpmScan) (i : EntryPtr × ℕ) : LpmScan :=
  let mask := i.1.entry.destNetworkMask
  let masklen := mask.getPrefixLength
  if mask.isMatch dest i.1.entry.dest then
    if masklen < s.longestMask then s
    else
      let shortest := if s.longestMask < masklen then 0xffffffff else s.shortestMetric
      if shortest < i.2 then ⟨masklen, shortest, s.entries⟩
      else ⟨masklen, i.2, (if i.2 < shortest then [] else s.entries) ++ [i.1]⟩
  else s

/-- `delete (it->first); erase(it)` at the first entry that matches; the loop goes on to read
the iterator it has just erased. -/
def removalLoop (p : Ipv4RoutingTableEntry → Bool) :
    List (EntryPtr × ℕ) → Except Fault Unit × List (EntryPtr × ℕ)
  | [] => (.ok (), [])
  | e :: es =>
    if p e.1.entry then (.error .erasedIterator, es)
    else ((removalLoop p es).1, e :: (removalLoop p es).2)

def boundTo (i : ℕ) (a : Ipv4InterfaceAddress) (e : Ipv4RoutingTableEntry) : Bool :=
  e.interface = i && e.isNetwork && e.dest = a.localAddress.combineMask a.mask &&
    e.destNetworkMask = a.mask

inductive InputAnswer
  | localDeliver
  | error
  | forward (route : Ipv4Route)
  | unhandled
  deriving DecidableEq

namespace WcmpStaticRouting

def new (levels : ℕ) (mapper : Option (Ipv4Address → ℕ)) : WcmpStaticRouting :=
  ⟨mapper, .new levels, fun _ => none, [], 0⟩

def multiLpm (dest : Ipv4Address) (r : WcmpStaticRouting) : List EntryPtr :=
  (r.networkRoutes.foldl (LpmScan.visit dest) ⟨0, 0xffffffff, []⟩).entries

def lookupCache (hash : ℕ) (r : WcmpStaticRouting) : Option EntryPtr := (r.cache hash).getD none

def updateCache (hash : ℕ) (p : Option EntryPtr) (r : WcmpStaticRouting) : WcmpStaticRouting :=
  match r.cache hash with
  | none => { r with cache := Function.update r.cache hash (some p) }
  | some _ => r

def entries (r : WcmpStaticRouting) : List EntryPtr := r.networkRoutes.map Prod.fst

/-- The route built from `*chosen`. An entry is allocated exactly as long as the table has it. -/
def outputRoute (chosen : EntryPtr) (r : WcmpStaticRouting) : Except Fault (Option Ipv4Route) :=
  if chosen ∈ r.entries then .ok (some chosen.route) else .error .useAfterFree

def level (dest : Ipv4Address) (r : WcmpStaticRouting) : ℕ :=
  match r.levelMapper with
  | some f => f dest
  | none => 0

def candidates (dest : Ipv4Address) (iif : ℕ) (r : WcmpStaticRouting) : List EntryPtr :=
  (r.multiLpm dest).filter (fun e => e.getInterface ≠ iif)

/-- The overload that `RouteOutput` calls. -/
def lookupWcmpOutput (_dest : Ipv4Address) (_hash : ℕ) (r : WcmpStaticRouting) :
    Except Fault (Option Ipv4Route) × WcmpStaticRouting :=
  (.error (.abort "This function should not be used!"), r)

def lookupWcmp (useCache : Bool) (dest : Ipv4Address) (hash iif : ℕ) (r : WcmpStaticRouting) :
    Except Fault (Option Ipv4Route) × WcmpStaticRouting :=
  match (if useCache then r.lookupCache hash else none) with
  | some chosen => (r.outputRoute chosen, r)
  | none =>
    if r.multiLpm dest = [] then (.ok none, r)
    else if r.candidates dest iif = [] then (.ok none, r)
    else match r.weights.choose (r.candidates dest iif) hash (r.level dest) with
      | (.error f, w) => (.error f, { r with weights := w })
      | (.ok chosen, w) =>
        let r := { r with weights := w }
        let r := if useCache then r.updateCache hash chosen else r
        match chosen with
        -- `chosen->GetInterface()` is read before `chosen` is compared with null.
        | none => (.error .nullPointer, r)
        | some e => if e.getInterface = iif then (.ok none, r) else (r.outputRoute e, r)

/-- `isDestination` and `isForwarding` are the answers of the IPv4 stack for `iif`. -/
def routeInput (useCache isDestination isForwarding : Bool) (dest : Ipv4Address) (hash iif : ℕ)
    (r : WcmpStaticRouting) : Except Fault InputAnswer × WcmpStaticRouting :=
  if dest.isMulticast then (.error (.abort "Multicast not implemented yet"), r)
  else if isDestination then (.ok .localDeliver, r)
  else if !isForwarding then (.ok .error, r)
  else match r.lookupWcmp useCache dest hash iif with
    | (.error f, r) => (.error f, r)
    | (.ok (some route), r) => (.ok (.forward route), r)
    | (.ok none, r) => (.ok .unhandled, r)

def lookupRoute (route : Ipv4RoutingTableEntry) (metric : ℕ) (r : WcmpStaticRouting) : Bool :=
  r.networkRoutes.any (fun j => j.1.entry = route && j.2 = metric)

def addNetworkRouteTo (network : Ipv4Address) (mask : Ipv4Mask) (i metric : ℕ)
    (r : WcmpStaticRouting) : WcmpStaticRouting :=
  let route := Ipv4RoutingTableEntry.createNetworkRouteTo network mask i
  if r.lookupRoute route metric then r
  else { r with
    networkRoutes := r.networkRoutes ++ [(⟨r.nextAddress, route⟩, metric)]
    nextAddress := r.nextAddress + 1 }

def addWildcardRoute (i metric : ℕ) (r : WcmpStaticRouting) : WcmpStaticRouting :=
  r.addNetworkRouteTo 0 0 i metric

def setInterfaceWeight (i level weight : ℕ) (r : WcmpStaticRouting) : WcmpStaticRouting :=
  { r with weights := r.weights.setWeight i level weight }

-- `isUp` is the answer of `m_ipv4->IsUp(i)`. The up and down handlers are never set.
def notifyInterfaceUp (i : ℕ) (isUp : Bool) (r : WcmpStaticRouting) : WcmpStaticRouting :=
  { r with weights := (r.weights.addInterface i isUp).setState i true }

def notifyInterfaceDown (i : ℕ) (r : WcmpStaticRouting) : WcmpStaticRouting :=
  { r with weights := r.weights.setState i false }

def notifyAddAddress (i : ℕ) (isUp : Bool) (r : WcmpStaticRouting) : WcmpStaticRouting :=
  { r with weights := r.weights.addInterface i isUp }

def notifyRemoveAddress (i : ℕ) (isUp : Bool) (a : Ipv4InterfaceAddress) (r : WcmpStaticRouting) :
    Except Fault Unit × WcmpStaticRouting :=
  if !isUp then (.ok (), r)
  else
    let loop := removalLoop (boundTo i a) r.networkRoutes
    (loop.1, { r with networkRoutes := loop.2 })

/-- `SetIpv4`, for a stack of `n` interfaces. -/
def setIpv4 (n : ℕ) (isUp : ℕ → Bool) (r : WcmpStaticRouting) : WcmpStaticRouting :=
  forRange (fun i r => if isUp i then r.notifyInterfaceUp i true else r.notifyInterfaceDown i) n
    { r with weights := r.weights.reset n isUp }

end WcmpStaticRouting

inductive Call
  | addNetworkRouteTo (network : Ipv4Address) (mask : Ipv4Mask) (i metric : ℕ)
  | addWildcardRoute (i metric : ℕ)
  | notifyRemoveAddress (i : ℕ) (isUp : Bool) (a : Ipv4InterfaceAddress)
  | notifyAddAddress (i : ℕ) (isUp : Bool)
  | setInterfaceWeight (i level weight : ℕ)
  | notifyInterfaceUp (i : ℕ) (isUp : Bool)
  | notifyInterfaceDown (i : ℕ)
  | lookupWcmp (dest : Ipv4Address) (hash iif : ℕ)

inductive Answer
  | done
  | route (r : Option Ipv4Route)
  deriving DecidableEq

def step (useCache : Bool) : Step WcmpStaticRouting Call Answer Fault
  | .addNetworkRouteTo network mask i metric, r => (.ok .done, r.addNetworkRouteTo network mask i metric)
  | .addWildcardRoute i metric, r => (.ok .done, r.addWildcardRoute i metric)
  | .notifyRemoveAddress i isUp a, r =>
    ((r.notifyRemoveAddress i isUp a).1.map fun _ => .done, (r.notifyRemoveAddress i isUp a).2)
  | .notifyAddAddress i isUp, r => (.ok .done, r.notifyAddAddress i isUp)
  | .setInterfaceWeight i level weight, r => (.ok .done, r.setInterfaceWeight i level weight)
  | .notifyInterfaceUp i isUp, r => (.ok .done, r.notifyInterfaceUp i isUp)
  | .notifyInterfaceDown i, r => (.ok .done, r.notifyInterfaceDown i)
  | .lookupWcmp dest hash iif, r =>
    ((r.lookupWcmp useCache dest hash iif).1.map .route, (r.lookupWcmp useCache dest hash iif).2)

end SwarmSim.Wcmp
