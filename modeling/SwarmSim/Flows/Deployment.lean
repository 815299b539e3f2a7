import SwarmSim.Clos.Delivery
import SwarmSim.Clos.Ownership
import SwarmSim.Clos.Ports
import SwarmSim.Flows.Scheduler
import SwarmSim.FlowMonitor.HostIndex
import SwarmSim.Machine.Pairs

/-! The applications that each rank installs on its own hosts, and how those of all the ranks fit
together. -/

namespace SwarmSim.Flows

open Machine Ns3 Clos TopologyDescriptor FlowMonitor

inductive Application
  | packetSink (address : Ipv4Address) (port : ℕ)
  | onOff (remote : Ipv4Address) (port : ℕ) (dataRate : List Char) (packetSize maxBytes : ℕ)
  | udpEchoServer (port : ℕ)
  | udpEchoClient (remote : Ipv4Address) (port maxPackets : ℕ) (interval : ℚ) (packetSize : ℕ)
  | singleFlow (remote : Ipv4Address) (port : ℕ) (address : Ipv4Address) (localPort : ℕ)
      (dataRate : List Char) (packetSize flowSize : ℕ)
  deriving DecidableEq

structure Installed where
  application : Application
  startTime : ℚ
  stopTime : ℚ
  deriving DecidableEq

structure Deployment where
  portMap : PortMap
  echoPort : ℕ
  serverApplications : ℕ → List Installed
  flowApplications : ℕ → List Installed

def udpDiscardPort : ℕ := 9

def tcpDiscardPort : ℕ := 10

def tcpPacketSize : ℕ := 1400

def applicationStartTime : ℚ := 1

structure Setting where
  mpi : Bool
  podProcs : ℕ
  systemId : ℕ
  linkRate : ℕ
  paramEnd : ℚ
  screamRate : List Char
  pingall : Bool
  /-- The flows of the flow file, if there is one, as they are dispatched. -/
  flows : Option (List HostFlow)

def Setting.onRank (c : Setting) (rank : ℕ) : Setting := { c with mpi := true, systemId := rank }

def Setting.alone (c : Setting) : Setting := { c with mpi := false, systemId := 0 }

namespace Deployment

variable {S : Ipv4StaticRouting} (p : TopologyDescriptor) (nodes : Nodes S) (c : Setting)

def serverAddress (host : ℕ) : Except Fault Ipv4Address :=
  match getHostAddress p nodes host with
  | none => .error .outOfRange
  | some a => .ok a

def isLocal (host : ℕ) : Bool := (p.getLocalHost c.mpi c.podProcs c.systemId host).isSome

def install (host : ℕ) (a : Application) (d : Deployment) : Deployment :=
  { d with
    serverApplications :=
      Function.update d.serverApplications host (d.serverApplications host ++ [⟨a, 0, 0⟩]) }

/-- The body of the loop of `installTcpPacketSinks`. -/
def installTcpPacketSink (idx : ℕ) (d : Deployment) : Except Fault Deployment :=
  if isLocal p c idx then
    (serverAddress p nodes idx).map fun a =>
      let d := d.install idx (.packetSink a tcpDiscardPort)
      { d with
        serverApplications := Function.update d.serverApplications idx
          ((d.serverApplications idx).map fun x => { x with startTime := 0 }) }
  else .ok d

def installTcpPacketSinks : Deployment → Except Fault Deployment :=
  forRangeM (installTcpPacketSink p nodes c) p.tcpPacketSinks

def unidirectionalCbrBetweenHosts (clientHost serverHost : ℕ) (d : Deployment) :
    Except Fault Deployment := do
  let (port, portMap) := getNextPort serverHost d.portMap
  let d := { d with portMap }
  let d ← if isLocal p c serverHost then
      (serverAddress p nodes serverHost).map fun a => d.install serverHost (.packetSink a port)
    else .ok d
  if isLocal p c clientHost then
    (serverAddress p nodes serverHost).map fun a =>
      d.install clientHost (.onOff a port c.screamRate tcpPacketSize 0)
  else .ok d

-- The helpers take the port as a `uint16_t`.
def echoBetweenHosts (clientHost serverHost : ℕ) (d : Deployment) : Except Fault Deployment := do
  let port := d.echoPort
  let d := if isLocal p c serverHost then d.install serverHost (.udpEchoServer (port % 2 ^ 16)) else d
  let d ← if isLocal p c clientHost then
      (serverAddress p nodes serverHost).map fun a =>
        d.install clientHost (.udpEchoClient a (port % 2 ^ 16) 1 (1 / 10) 64)
    else .ok d
  return { d with echoPort := (port + 1) % 2 ^ 32 }

def doAllToAllTcp : ℕ → Deployment → Except Fault Deployment :=
  forPairsM (unidirectionalCbrBetweenHosts p nodes c)

def doAllToAllPing : ℕ → Deployment → Except Fault Deployment :=
  forPairsM (echoBetweenHosts p nodes c)

def startApplications (tStart tFinish : ℚ) (d : Deployment) : Deployment :=
  { d with serverApplications := fun host =>
      (d.serverApplications host).map fun x => { x with startTime := tStart, stopTime := tFinish } }

def closHostFlowDispatcher (flow : HostFlow) (d : Deployment) : Except Fault Deployment :=
  if isLocal p c flow.src then do
    let remote ← serverAddress p nodes flow.dst
    let (port, portMap) := getNextPort flow.src d.portMap
    let address ← serverAddress p nodes flow.src
    let a := Application.singleFlow remote tcpDiscardPort address port
      (digits c.linkRate ++ "Gbps".toList) 6000 flow.size
    return { d with
      portMap
      flowApplications :=
        Function.update d.flowApplications flow.src (d.flowApplications flow.src ++ [⟨a, 0, 0⟩]) }
  else .ok d

/-- `setupMonitoringAndBeingExperiment` up to the start of the simulation, and what the scheduler
dispatches in it. -/
def beginExperiment (servers : Servers) : Except Fault Deployment :=
  let d : Deployment := ⟨servers.portMap, udpDiscardPort, fun _ => [], fun _ => []⟩
  (if c.flows.isSome then installTcpPacketSinks p nodes c d else .ok d).bind fun d =>
  (if c.screamRate ≠ [] then doAllToAllTcp p nodes c p.totalNumberOfServers d else .ok d).bind fun d =>
  (if c.pingall then doAllToAllPing p nodes c p.totalNumberOfServers d else .ok d).bind fun d =>
  (c.flows.getD []).foldlM (fun d flow => closHostFlowDispatcher p nodes c flow d)
    (d.startApplications applicationStartTime c.paramEnd)

section Addresses

variable {p c} {host other n : ℕ}

def hostCount (p : TopologyDescriptor) : ℕ := p.numPods * p.h * p.numServers

def addressOf (p : TopologyDescriptor) (host : ℕ) : Ipv4Address :=
  hostAddress (host / p.numServers / p.h) (host / p.numServers % p.h) (host % p.numServers)

lemma totalNumberOfServers_eq (heven : 2 ∣ p.switchRadix) : p.totalNumberOfServers = hostCount p := by
  obtain ⟨r, hr⟩ := heven
  rw [totalNumberOfServers, hostCount, TopologyDescriptor.h, hr, Nat.mul_div_cancel_left r (by norm_num)]
  have hmul : p.numPods * (2 * r) * p.numServers = 2 * (p.numPods * r * p.numServers) := by ring
  rw [hmul, Nat.mul_div_cancel_left _ (by norm_num)]

lemma tcpPacketSinks_eq (heven : 2 ∣ p.switchRadix) : p.tcpPacketSinks = hostCount p := by
  rw [← totalNumberOfServers_eq heven, tcpPacketSinks, totalNumberOfServers]
  congr 1
  ring

lemma host_isHost (h : host < hostCount p) :
    p.HasNode (.server (host / p.numServers) (host % p.numServers)) := by
  have hpos : 0 < p.numServers := Nat.pos_of_mul_pos_left (Nat.zero_lt_of_lt h)
  refine ⟨Nat.div_lt_of_lt_mul ?_, Nat.mod_lt _ hpos⟩
  rwa [hostCount, Nat.mul_comm] at h

lemma serverAddress_setup (h : host < hostCount p) :
    serverAddress p (p.setupClosTopology S) host = .ok (addressOf p host) := by
  rw [serverAddress, getHostAddress, getServerAddress_setup S (host_isHost h)]
  rfl

lemma addressOf_inj (hp : p.Valid) (h : host < hostCount p) (h' : other < hostCount p)
    (heq : addressOf p host = addressOf p other) : host = other := by
  obtain ⟨hhost, htor⟩ := isHost_of_hasNode (host_isHost h)
  obtain ⟨hother, htor'⟩ := isHost_of_hasNode (host_isHost h')
  obtain ⟨hpod, he, hk⟩ := hhost.octets hp
  obtain ⟨hpod', he', hk'⟩ := hother.octets hp
  obtain ⟨hpods, hedges, hservers⟩ := (hostAddress_inj hpod he hk hpod' he' hk').mp heq
  rw [← Nat.div_add_mod' host p.numServers, ← Nat.div_add_mod' other p.numServers, ← htor, ← htor',
    hpods, hedges, hservers]

end Addresses

def kept (host : ℕ) (l : List Application) : List Installed :=
  if isLocal p c host then l.map fun a => ⟨a, 0, 0⟩ else []

def installLocal (host : ℕ) (a : Application) (d : Deployment) : Deployment :=
  if isLocal p c host then d.install host a else d

def cbr (i j : ℕ) (d : Deployment) : Deployment :=
  let port := (getNextPort j d.portMap).1
  let d := { d with portMap := (getNextPort j d.portMap).2 }
  installLocal p c i (.onOff (addressOf p j) port c.screamRate tcpPacketSize 0)
    (installLocal p c j (.packetSink (addressOf p j) port) d)

def echo (i j : ℕ) (d : Deployment) : Deployment :=
  let port := d.echoPort % 2 ^ 16
  { installLocal p c i (.udpEchoClient (addressOf p j) port 1 (1 / 10) 64)
      (installLocal p c j (.udpEchoServer port) d) with echoPort := (d.echoPort + 1) % 2 ^ 32 }

def cbrPort (i j : ℕ) : ℕ := tcpLocalStartPort + seat i j % portCount

def callsFor (host i j : ℕ) : ℕ :=
  i + (if host < j then 1 else 0) - if host < i ∨ host = i ∧ i < j then 1 else 0

def callsUpto (n i j : ℕ) : ℕ := i * (n - 1) + if i < j then j - 1 else j

def echoPortOf (n i j : ℕ) : ℕ := (udpDiscardPort + callsUpto n i j) % 2 ^ 16

def cbrEntries (host i j : ℕ) : List Application :=
  (if j = host then [.packetSink (addressOf p j) (cbrPort i j)] else []) ++
    if i = host then [.onOff (addressOf p j) (cbrPort i j) c.screamRate tcpPacketSize 0] else []

def echoEntries (host i j : ℕ) : List Application :=
  (if j = host then [.udpEchoServer (echoPortOf (hostCount p) i j)] else []) ++
    if i = host then
      [.udpEchoClient (addressOf p j) (echoPortOf (hostCount p) i j) 1 (1 / 10) 64]
    else []

structure CbrUpto (d : Deployment) (i j : ℕ) (d' : Deployment) : Prop where
  ports (host : ℕ) : host < hostCount p →
    d'.portMap host = some (tcpLocalStartPort + callsFor host i j % portCount)
  echoPort : d'.echoPort = d.echoPort
  flows : d'.flowApplications = d.flowApplications
  applications (host : ℕ) : d'.serverApplications host = d.serverApplications host ++
    kept p c host (pairsUpto (cbrEntries p c host) (hostCount p) i j)

structure EchoUpto (d : Deployment) (i j : ℕ) (d' : Deployment) : Prop where
  ports : d'.portMap = d.portMap
  echoPort : d'.echoPort = (udpDiscardPort + callsUpto (hostCount p) i j) % 2 ^ 32
  flows : d'.flowApplications = d.flowApplications
  applications (host : ℕ) : d'.serverApplications host = d.serverApplications host ++
    kept p c host (pairsUpto (echoEntries p host) (hostCount p) i j)

section Loops

variable {p c} {a : Application} {l l' : List Application} {d d' : Deployment} {host other i j n : ℕ}

@[simp] lemma kept_nil : kept p c host [] = [] := by
  rw [kept, List.map_nil, ite_self]

lemma kept_append : kept p c host (l ++ l') = kept p c host l ++ kept p c host l' := by
  rw [kept, kept, kept]
  split_ifs
  · exact List.map_append
  · rfl

lemma installLocal_applications (host : ℕ) :
    (installLocal p c other a d).serverApplications host =
      d.serverApplications host ++ kept p c host (if other = host then [a] else []) := by
  rw [installLocal]
  by_cases hsame : other = host
  · subst hsame
    rw [if_pos rfl, kept]
    split_ifs
    · exact Function.update_self _ _ _
    · rw [List.append_nil]
  · rw [if_neg hsame, kept_nil, List.append_nil]
    split_ifs
    · exact Function.update_of_ne (Ne.symm hsame) _ _
    · rfl

@[simp] lemma installLocal_portMap : (installLocal p c host a d).portMap = d.portMap := by
  rw [installLocal]
  split_ifs <;> rfl

@[simp] lemma installLocal_echoPort : (installLocal p c host a d).echoPort = d.echoPort := by
  rw [installLocal]
  split_ifs <;> rfl

@[simp] lemma installLocal_flows :
    (installLocal p c host a d).flowApplications = d.flowApplications := by
  rw [installLocal]
  split_ifs <;> rfl

lemma unidirectionalCbrBetweenHosts_ok (hj : j < hostCount p) :
    unidirectionalCbrBetweenHosts p (p.setupClosTopology S) c i j d = .ok (cbr p c i j d) := by
  rw [unidirectionalCbrBetweenHosts, serverAddress_setup hj, cbr, installLocal, installLocal]
  by_cases hserver : isLocal p c j = true <;> by_cases hclient : isLocal p c i = true <;>
    simp only [hserver, hclient, if_true] <;> rfl

lemma echoBetweenHosts_ok (hj : j < hostCount p) :
    echoBetweenHosts p (p.setupClosTopology S) c i j d = .ok (echo p c i j d) := by
  rw [echoBetweenHosts, serverAddress_setup hj, echo, installLocal, installLocal]
  by_cases hserver : isLocal p c j = true <;> by_cases hclient : isLocal p c i = true <;>
    simp only [hserver, hclient, if_true] <;> rfl

lemma callsFor_self (h : i ≠ j) : callsFor j i j = seat i j := by
  rw [callsFor, seat]
  rcases h.lt_or_gt with hlt | hgt <;> split_ifs <;> omega

lemma callsFor_next (h : i ≠ j) : callsFor j i (j + 1) = seat i j + 1 := by
  rw [callsFor, seat]
  rcases h.lt_or_gt with hlt | hgt <;> split_ifs <;> omega

lemma callsFor_other (h : host ≠ j) : callsFor host i (j + 1) = callsFor host i j := by
  rw [callsFor, callsFor]
  split_ifs <;> omega

lemma callsFor_diagonal : callsFor host i (i + 1) = callsFor host i i := by
  rw [callsFor, callsFor]
  split_ifs <;> omega

lemma callsFor_row (h : host < n) (hi : i < n) : callsFor host (i + 1) 0 = callsFor host i n := by
  rw [callsFor, callsFor]
  split_ifs <;> omega

lemma callsFor_last (h : host < n) : callsFor host n 0 = n - 1 := by
  rw [callsFor, if_neg (Nat.not_lt_zero _), if_pos (Or.inl h), Nat.add_zero]

lemma CbrUpto.pair (hj : j < hostCount p) (hne : i ≠ j)
    (h : CbrUpto p c d i j d') : CbrUpto p c d i (j + 1) (cbr p c i j d') := by
  have hself := h.ports j hj
  rw [callsFor_self hne] at hself
  obtain ⟨hport, hnext⟩ := getNextPort_self hself
  refine ⟨fun host hhost => ?_, ?_, ?_, fun host => ?_⟩
  · rw [cbr, installLocal_portMap, installLocal_portMap]
    by_cases hsame : host = j
    · subst hsame
      rw [callsFor_next hne]
      exact hnext
    · rw [callsFor_other hsame]
      exact (getNextPort_other hsame _).trans (h.ports host hhost)
  · rw [cbr, installLocal_echoPort, installLocal_echoPort]
    exact h.echoPort
  · rw [cbr, installLocal_flows, installLocal_flows]
    exact h.flows
  · rw [cbr, installLocal_applications, installLocal_applications, pairsUpto_pair hne, kept_append,
      cbrEntries, kept_append, hport, ← cbrPort, ← List.append_assoc, ← List.append_assoc,
      ← h.applications]

lemma CbrUpto.congr {i' j' : ℕ} (h : CbrUpto p c d i j d')
    (hcalls : ∀ host < hostCount p, callsFor host i' j' = callsFor host i j)
    (hentries : ∀ host, pairsUpto (cbrEntries p c host) (hostCount p) i' j' =
      pairsUpto (cbrEntries p c host) (hostCount p) i j) : CbrUpto p c d i' j' d' := by
  refine ⟨fun host hhost => ?_, h.echoPort, h.flows, fun host => ?_⟩
  · rw [hcalls host hhost]
    exact h.ports host hhost
  · rw [hentries]
    exact h.applications host

lemma doAllToAllTcp_upto (hports : ∀ host < hostCount p, d.portMap host = some tcpLocalStartPort) :
    ∃ d', doAllToAllTcp p (p.setupClosTopology S) c (hostCount p) d = .ok d' ∧
      CbrUpto p c d (hostCount p) 0 d' := by
  refine ⟨_, forPairsM_ok fun i j d _ hj => unidirectionalCbrBetweenHosts_ok hj, ?_⟩
  apply forPairs_invariant (P := CbrUpto p c d)
  · refine ⟨fun host hhost => ?_, rfl, rfl, fun host => ?_⟩
    · rw [hports host hhost, callsFor, if_neg (Nat.not_lt_zero _)]
      simp
    · rw [pairsUpto_start, kept_nil, List.append_nil]
  · intro i j d' _ hj hne h
    exact h.pair hj hne
  · intro i d' _ h
    exact h.congr (fun _ _ => callsFor_diagonal) fun _ => pairsUpto_diagonal
  · intro i d' hi h
    exact h.congr (fun _ hhost => callsFor_row hhost hi) fun _ => pairsUpto_row

lemma callsUpto_next (h : i ≠ j) : callsUpto n i (j + 1) = callsUpto n i j + 1 := by
  rw [callsUpto, callsUpto]
  split_ifs <;> omega

lemma callsUpto_diagonal : callsUpto n i (i + 1) = callsUpto n i i := by
  rw [callsUpto, callsUpto, if_pos (Nat.lt_succ_self i), if_neg (Nat.lt_irrefl i), Nat.add_sub_cancel]

lemma callsUpto_row (hi : i < n) : callsUpto n (i + 1) 0 = callsUpto n i n := by
  rw [callsUpto, callsUpto, if_neg (Nat.not_lt_zero _), if_pos hi, Nat.add_zero, Nat.succ_mul]

lemma EchoUpto.pair (hne : i ≠ j) (h : EchoUpto p c d i j d') :
    EchoUpto p c d i (j + 1) (echo p c i j d') := by
  have hport : d'.echoPort % 2 ^ 16 = echoPortOf (hostCount p) i j := by
    rw [h.echoPort, echoPortOf]
    exact Nat.mod_mod_of_dvd _ (by norm_num)
  refine ⟨?_, ?_, ?_, fun host => ?_⟩
  · rw [echo]
    simp only [installLocal_portMap, h.ports]
  · rw [echo, callsUpto_next hne, ← Nat.add_assoc, h.echoPort]
    exact Nat.mod_add_mod _ _ _
  · rw [echo]
    simp only [installLocal_flows, h.flows]
  · rw [echo, pairsUpto_pair hne, kept_append, echoEntries, kept_append, ← List.append_assoc,
      ← List.append_assoc, ← h.applications, ← hport]
    dsimp only
    rw [installLocal_applications, installLocal_applications]

lemma EchoUpto.congr {i' j' : ℕ} (h : EchoUpto p c d i j d')
    (hcalls : callsUpto (hostCount p) i' j' = callsUpto (hostCount p) i j)
    (hentries : ∀ host, pairsUpto (echoEntries p host) (hostCount p) i' j' =
      pairsUpto (echoEntries p host) (hostCount p) i j) : EchoUpto p c d i' j' d' := by
  refine ⟨h.ports, ?_, h.flows, fun host => ?_⟩
  · rw [hcalls]
    exact h.echoPort
  · rw [hentries]
    exact h.applications host

lemma doAllToAllPing_upto (hport : d.echoPort = udpDiscardPort) :
    ∃ d', doAllToAllPing p (p.setupClosTopology S) c (hostCount p) d = .ok d' ∧
      EchoUpto p c d (hostCount p) 0 d' := by
  refine ⟨_, forPairsM_ok fun i j d _ hj => echoBetweenHosts_ok hj, ?_⟩
  apply forPairs_invariant (P := EchoUpto p c d)
  · refine ⟨rfl, ?_, rfl, fun host => ?_⟩
    · rw [hport, callsUpto, if_neg (Nat.lt_irrefl 0), Nat.zero_mul]
      rfl
    · rw [pairsUpto_start, kept_nil, List.append_nil]
  · intro i j d' _ _ hne h
    exact h.pair hne
  · intro i d' _ h
    exact h.congr callsUpto_diagonal fun _ => pairsUpto_diagonal
  · intro i d' hi h
    exact h.congr (callsUpto_row hi) fun _ => pairsUpto_row

end Loops

def flowEntry (base k : ℕ) (flow : HostFlow) : Application :=
  .singleFlow (addressOf p flow.dst) tcpDiscardPort (addressOf p flow.src)
    (tcpLocalStartPort + (base + k) % portCount) (digits c.linkRate ++ "Gbps".toList) 6000 flow.size

def flowsFrom (host : ℕ) (flows : List HostFlow) : List HostFlow := flows.filter (·.src = host)

def flowEntries (base host : ℕ) (flows : List HostFlow) : List Application :=
  (flowsFrom host flows).zipIdx.map fun x => flowEntry p c base x.2 x.1

structure FlowsUpto (d : Deployment) (base : ℕ) (flows : List HostFlow) (d' : Deployment) : Prop where
  ports (host : ℕ) : isLocal p c host = true → host < hostCount p → d'.portMap host =
    some (tcpLocalStartPort + (base + (flowsFrom host flows).length) % portCount)
  servers : d'.serverApplications = d.serverApplications
  flows (host : ℕ) : d'.flowApplications host = kept p c host (flowEntries p c base host flows)

structure SinksUpto (d : Deployment) (k : ℕ) (d' : Deployment) : Prop where
  ports : d'.portMap = d.portMap
  echoPort : d'.echoPort = d.echoPort
  flows : d'.flowApplications = d.flowApplications
  applications (host : ℕ) : d'.serverApplications host = kept p c host
    (if host < k then [.packetSink (addressOf p host) tcpDiscardPort] else [])

section Dispatching

variable {p c} {d d' : Deployment} {host base : ℕ} {flow : HostFlow} {flows : List HostFlow}

lemma flowsFrom_self : flowsFrom flow.src (flows ++ [flow]) = flowsFrom flow.src flows ++ [flow] := by
  rw [flowsFrom, List.filter_append, List.filter_singleton, decide_eq_true rfl]
  rfl

lemma flowsFrom_other (h : host ≠ flow.src) : flowsFrom host (flows ++ [flow]) = flowsFrom host flows := by
  rw [flowsFrom, List.filter_append, List.filter_singleton, decide_eq_false (Ne.symm h), cond_false,
    List.append_nil]
  rfl

lemma FlowsUpto.dispatch (h : FlowsUpto p c d base flows d') (hsrc : flow.src < hostCount p)
    (hdst : flow.dst < hostCount p) :
    ∃ d'', closHostFlowDispatcher p (p.setupClosTopology S) c flow d' = .ok d'' ∧
      FlowsUpto p c d base (flows ++ [flow]) d'' := by
  rw [closHostFlowDispatcher]
  by_cases hlocal : isLocal p c flow.src = true
  · have hself := h.ports flow.src hlocal hsrc
    obtain ⟨hport, hnext⟩ := getNextPort_self hself
    rw [if_pos hlocal, serverAddress_setup hsrc, serverAddress_setup hdst]
    refine ⟨_, rfl, fun host hhost hlt => ?_, h.servers, fun host => ?_⟩
    · by_cases hsame : host = flow.src
      · subst hsame
        rw [flowsFrom_self, List.length_append, List.length_singleton, ← Nat.add_assoc]
        exact hnext
      · rw [flowsFrom_other hsame]
        exact (getNextPort_other hsame _).trans (h.ports host hhost hlt)
    · dsimp only
      by_cases hsame : host = flow.src
      · subst hsame
        rw [Function.update_self, h.flows, flowEntries, flowEntries, flowsFrom_self,
          List.zipIdx_append, List.map_append, kept_append, List.zipIdx_singleton, List.map_singleton,
          Nat.zero_add, flowEntry, ← hport]
        rw [kept, kept, if_pos hlocal, if_pos hlocal]
        rfl
      · rw [Function.update_of_ne hsame, h.flows, flowEntries, flowEntries, flowsFrom_other hsame]
  · rw [if_neg hlocal]
    refine ⟨d', rfl, fun host hhost hlt => ?_, h.servers, fun host => ?_⟩
    · have hne : host ≠ flow.src := by
        rintro rfl
        exact hlocal hhost
      rw [flowsFrom_other hne]
      exact h.ports host hhost hlt
    · by_cases hsame : host = flow.src
      · subst hsame
        rw [h.flows, kept, kept, if_neg hlocal, if_neg hlocal]
      · rw [h.flows, flowEntries, flowEntries, flowsFrom_other hsame]

lemma dispatch_upto (hd : ∀ host, d.flowApplications host = [])
    (hports : ∀ host < hostCount p, d.portMap host = some (tcpLocalStartPort + base % portCount))
    (hflows : ∀ f ∈ flows, f.src < hostCount p ∧ f.dst < hostCount p) :
    ∃ d', flows.foldlM (fun d flow => closHostFlowDispatcher p (p.setupClosTopology S) c flow d) d =
      .ok d' ∧ FlowsUpto p c d base flows d' := by
  induction flows using List.reverseRecOn with
  | nil =>
    refine ⟨d, rfl, fun host _ hlt => hports host hlt, rfl, fun host => ?_⟩
    rw [hd]
    exact kept_nil.symm
  | append_singleton flows flow ih =>
    rw [List.forall_mem_append, List.forall_mem_singleton] at hflows
    obtain ⟨d', hd', hupto⟩ := ih hflows.1
    obtain ⟨d'', hd'', hnext⟩ := hupto.dispatch (S := S) hflows.2.1 hflows.2.2
    refine ⟨d'', ?_, hnext⟩
    rw [List.foldlM_append, hd']
    change (closHostFlowDispatcher p (p.setupClosTopology S) c flow d').bind Except.ok = _
    rw [hd'']
    rfl

lemma SinksUpto.sink {k : ℕ} (h : SinksUpto p c d k d') (hk : k < hostCount p) :
    ∃ d'', installTcpPacketSink p (p.setupClosTopology S) c k d' = .ok d'' ∧
      SinksUpto p c d (k + 1) d'' := by
  have hnone := h.applications k
  rw [if_neg (Nat.lt_irrefl k), kept_nil] at hnone
  have hother : ∀ host ≠ k, d'.serverApplications host = kept p c host
      (if host < k + 1 then [.packetSink (addressOf p host) tcpDiscardPort] else []) := by
    intro host hne
    have hlt : host < k + 1 ↔ host < k := by omega
    rw [h.applications, if_congr hlt rfl rfl]
  rw [installTcpPacketSink, serverAddress_setup hk]
  by_cases hlocal : isLocal p c k = true
  · rw [if_pos hlocal]
    refine ⟨_, rfl, h.ports, h.echoPort, h.flows, fun host => ?_⟩
    dsimp only [install]
    by_cases hsame : host = k
    · subst hsame
      rw [Function.update_self, Function.update_self, hnone, if_pos (Nat.lt_succ_self _), kept,
        if_pos hlocal]
      rfl
    · rw [Function.update_of_ne hsame, Function.update_of_ne hsame, hother host hsame]
  · rw [if_neg hlocal]
    refine ⟨d', rfl, h.ports, h.echoPort, h.flows, fun host => ?_⟩
    by_cases hsame : host = k
    · subst hsame
      rw [hnone, kept, if_neg hlocal]
    · exact hother host hsame

lemma installTcpPacketSinks_upto (heven : 2 ∣ p.switchRadix)
    (hd : ∀ host, d.serverApplications host = []) :
    ∃ d', installTcpPacketSinks p (p.setupClosTopology S) c d = .ok d' ∧
      SinksUpto p c d (hostCount p) d' := by
  have hupto : ∀ k ≤ hostCount p, ∃ d',
      forRangeM (installTcpPacketSink p (p.setupClosTopology S) c) k d = .ok d' ∧
        SinksUpto p c d k d' := by
    intro k hk
    induction k with
    | zero =>
      refine ⟨d, rfl, rfl, rfl, rfl, fun host => ?_⟩
      rw [hd, if_neg (Nat.not_lt_zero _), kept_nil]
    | succ k ih =>
      obtain ⟨d', hd', hs⟩ := ih (Nat.le_of_succ_le hk)
      obtain ⟨d'', hd'', hnext⟩ := hs.sink (S := S) (Nat.lt_of_succ_le hk)
      refine ⟨d'', ?_, hnext⟩
      rw [forRangeM, hd']
      exact hd''
  rw [installTcpPacketSinks, tcpPacketSinks_eq heven]
  exact hupto _ le_rfl

end Dispatching

def planned (host : ℕ) : List Application :=
  (if c.flows.isSome then
    if host < hostCount p then [.packetSink (addressOf p host) tcpDiscardPort] else []
  else []) ++
  ((if c.screamRate ≠ [] then pairsUpto (cbrEntries p c host) (hostCount p) (hostCount p) 0 else []) ++
    if c.pingall then pairsUpto (echoEntries p host) (hostCount p) (hostCount p) 0 else [])

def cbrCalls : ℕ := if c.screamRate ≠ [] then hostCount p - 1 else 0

structure Deployed (d : Deployment) : Prop where
  servers (host : ℕ) : d.serverApplications host = if isLocal p c host then
    (planned p c host).map fun a => ⟨a, applicationStartTime, c.paramEnd⟩ else []
  flows (host : ℕ) : d.flowApplications host =
    kept p c host (flowEntries p c (cbrCalls p c) host (c.flows.getD []))

section Runs

variable {p c} {d : Deployment} {host : ℕ} {servers : Servers}

lemma startApplications_kept (tStart tFinish : ℚ) (l : List Application)
    (h : d.serverApplications host = kept p c host l) :
    (d.startApplications tStart tFinish).serverApplications host =
      if isLocal p c host then l.map fun a => ⟨a, tStart, tFinish⟩ else [] := by
  rw [startApplications]
  dsimp only
  rw [h, kept]
  split_ifs
  · rw [List.map_map]
    rfl
  · rfl

lemma createServers_portMap (heven : 2 ∣ p.switchRadix) (hs : p.createServers c.podProcs = .ok servers)
    (h : host < hostCount p) : servers.portMap host = some tcpLocalStartPort := by
  obtain ⟨step, -, rfl⟩ := map_ok hs
  rw [createServersWith_portMap heven]
  exact addHostsToPortMap_mem (List.mem_range.mpr h)

lemma beginExperiment_deployed (S : Ipv4StaticRouting) (heven : 2 ∣ p.switchRadix)
    (hs : p.createServers c.podProcs = .ok servers)
    (hflows : ∀ f ∈ c.flows.getD [], f.src < hostCount p ∧ f.dst < hostCount p) :
    ∃ d, beginExperiment p (p.setupClosTopology S) c servers = .ok d ∧ Deployed p c d := by
  let d₀ : Deployment := ⟨servers.portMap, udpDiscardPort, fun _ => [], fun _ => []⟩
  have hsinks : ∃ d₁, (if c.flows.isSome then installTcpPacketSinks p (p.setupClosTopology S) c d₀
      else .ok d₀) = .ok d₁ ∧ d₁.portMap = servers.portMap ∧ d₁.echoPort = udpDiscardPort ∧
      d₁.flowApplications = (fun _ => []) ∧ ∀ host, d₁.serverApplications host = kept p c host
        (if c.flows.isSome then
          if host < hostCount p then [.packetSink (addressOf p host) tcpDiscardPort] else []
        else []) := by
    split_ifs
    · obtain ⟨d₁, hd₁, hupto⟩ := installTcpPacketSinks_upto (S := S) (c := c) (d := d₀) heven fun _ => rfl
      exact ⟨d₁, hd₁, hupto.ports, hupto.echoPort, hupto.flows, hupto.applications⟩
    · exact ⟨d₀, rfl, rfl, rfl, rfl, fun _ => kept_nil.symm⟩
  obtain ⟨d₁, hd₁, hports₁, hecho₁, hflows₁, happs₁⟩ := hsinks
  have hscream : ∃ d₂, (if c.screamRate ≠ [] then
      doAllToAllTcp p (p.setupClosTopology S) c p.totalNumberOfServers d₁ else .ok d₁) = .ok d₂ ∧
      (∀ host < hostCount p, d₂.portMap host =
        some (tcpLocalStartPort + cbrCalls p c % portCount)) ∧ d₂.echoPort = udpDiscardPort ∧
      d₂.flowApplications = (fun _ => []) ∧ ∀ host, d₂.serverApplications host =
        d₁.serverApplications host ++ kept p c host (if c.screamRate ≠ [] then
          pairsUpto (cbrEntries p c host) (hostCount p) (hostCount p) 0 else []) := by
    have hstart : ∀ host < hostCount p, d₁.portMap host = some tcpLocalStartPort := by
      intro host hlt
      rw [hports₁, createServers_portMap heven hs hlt]
    rw [cbrCalls]
    split_ifs
    · rw [totalNumberOfServers_eq heven]
      obtain ⟨d₂, hd₂, hupto⟩ := doAllToAllTcp_upto (S := S) (c := c) hstart
      refine ⟨d₂, hd₂, fun host hlt => ?_, hupto.echoPort.trans hecho₁, hupto.flows.trans hflows₁,
        hupto.applications⟩
      rw [hupto.ports host hlt, callsFor_last hlt]
    · refine ⟨d₁, rfl, hstart, hecho₁, hflows₁, fun host => ?_⟩
      rw [kept_nil, List.append_nil]
  obtain ⟨d₂, hd₂, hports₂, hecho₂, hflows₂, happs₂⟩ := hscream
  have hping : ∃ d₃, (if c.pingall then
      doAllToAllPing p (p.setupClosTopology S) c p.totalNumberOfServers d₂ else .ok d₂) = .ok d₃ ∧
      d₃.portMap = d₂.portMap ∧ d₃.flowApplications = (fun _ => []) ∧ ∀ host,
        d₃.serverApplications host = d₂.serverApplications host ++ kept p c host (if c.pingall then
          pairsUpto (echoEntries p host) (hostCount p) (hostCount p) 0 else []) := by
    split_ifs
    · rw [totalNumberOfServers_eq heven]
      obtain ⟨d₃, hd₃, hupto⟩ := doAllToAllPing_upto (S := S) (c := c) hecho₂
      exact ⟨d₃, hd₃, hupto.ports, hupto.flows.trans hflows₂, hupto.applications⟩
    · refine ⟨d₂, rfl, rfl, hflows₂, fun host => ?_⟩
      rw [kept_nil, List.append_nil]
  obtain ⟨d₃, hd₃, hports₃, hflows₃, happs₃⟩ := hping
  have hplanned : ∀ host, d₃.serverApplications host = kept p c host (planned p c host) := by
    intro host
    rw [happs₃, happs₂, happs₁, planned, kept_append, kept_append, List.append_assoc]
  have hstart : ∀ host, (d₃.startApplications applicationStartTime c.paramEnd).flowApplications host = [] :=
    fun host => congrFun hflows₃ host
  have hports : ∀ host < hostCount p,
      (d₃.startApplications applicationStartTime c.paramEnd).portMap host =
        some (tcpLocalStartPort + cbrCalls p c % portCount) :=
    fun host hlt => (congrFun hports₃ host).trans (hports₂ host hlt)
  obtain ⟨d₄, hd₄, hupto⟩ := dispatch_upto (S := S) (c := c) hstart hports hflows
  refine ⟨d₄, ?_, fun host => ?_, hupto.flows⟩
  · rw [beginExperiment, hd₁, Except.bind, hd₂, Except.bind, hd₃]
    exact hd₄
  · rw [hupto.servers]
    exact startApplications_kept _ _ _ (hplanned host)

/-- The ranks install on their own hosts what one process without MPI installs there. -/
theorem ranks_deploy (S : Ipv4StaticRouting) (heven : 2 ∣ p.switchRadix)
    (hs : p.createServers c.podProcs = .ok servers)
    (hflows : ∀ f ∈ c.flows.getD [], f.src < hostCount p ∧ f.dst < hostCount p) :
    ∃ s, beginExperiment p (p.setupClosTopology S) c.alone servers = .ok s ∧
      ∀ rank, ∃ d, beginExperiment p (p.setupClosTopology S) (c.onRank rank) servers = .ok d ∧ ∀ host,
        let here := rank = p.getSystemIdOfServer true c.podProcs host
        d.serverApplications host = (if here then s.serverApplications host else []) ∧
          d.flowApplications host = if here then s.flowApplications host else [] := by
  obtain ⟨s, hsingle, hall⟩ := beginExperiment_deployed (c := c.alone) S heven hs hflows
  refine ⟨s, hsingle, fun rank => ?_⟩
  obtain ⟨d, hrank, hown⟩ := beginExperiment_deployed (c := c.onRank rank) S heven hs hflows
  refine ⟨d, hrank, fun host => ?_⟩
  have hlocal : isLocal p c.alone host = true :=
    (getLocalHost_isSome 0).mpr rfl
  have howned : isLocal p (c.onRank rank) host = true ↔
      rank = p.getSystemIdOfServer true c.podProcs host := getLocalHost_isSome rank
  rw [hown.servers, hown.flows, hall.servers, hall.flows, kept, kept]
  simp only [hlocal, if_true, howned]
  exact ⟨rfl, rfl⟩

end Runs

end Deployment

namespace Application

def peer : Application → Option (Ipv4Address × ℕ)
  | onOff remote port _ _ _ => some (remote, port)
  | singleFlow remote port _ _ _ _ _ => some (remote, port)
  | _ => none

def listens : Application → Option (Ipv4Address × ℕ)
  | packetSink address port => some (address, port)
  | _ => none

def localPort? : Application → Option ℕ
  | packetSink _ port => some port
  | singleFlow _ _ _ localPort _ _ _ => some localPort
  | _ => none

end Application

namespace Deployment

def applications (d : Deployment) (host : ℕ) : List Application :=
  (d.serverApplications host ++ d.flowApplications host).map Installed.application

def sinks (d : Deployment) (host : ℕ) : List (Ipv4Address × ℕ) :=
  (d.applications host).filterMap Application.listens

def ports (d : Deployment) (host : ℕ) : List ℕ :=
  (d.applications host).filterMap Application.localPort?

def boundPorts (c : Setting) (m : ℕ) : List ℕ :=
  (if c.flows.isSome then [tcpDiscardPort] else []) ++
    (List.range m).map fun k => tcpLocalStartPort + k % portCount

section Endpoints

variable {S : Ipv4StaticRouting} {p : TopologyDescriptor} {c : Setting} {d : Deployment}
  {servers : Servers} {host other base m n : ℕ} {flows : List HostFlow}

lemma Deployed.applications (h : Deployed p c d) (host : ℕ) : d.applications host =
    if isLocal p c host then
      planned p c host ++ flowEntries p c (cbrCalls p c) host (c.flows.getD [])
    else [] := by
  rw [Deployment.applications, h.servers, h.flows, kept]
  split_ifs
  · rw [List.map_append, List.map_map, List.map_map]
    simp only [Function.comp_def, List.map_id']
  · rfl

lemma filterMap_cbr {α : Type} (φ : Application → Option α) (e : ℕ → α) (hhost : host < hostCount p)
    (hsink : ∀ k, φ (.packetSink (addressOf p host) (tcpLocalStartPort + k % portCount)) = some (e k))
    (hclient : ∀ a port, φ (.onOff a port c.screamRate tcpPacketSize 0) = none) :
    (pairsUpto (cbrEntries p c host) (hostCount p) (hostCount p) 0).filterMap φ =
      (List.range (hostCount p - 1)).map e := by
  have hentries : (fun i j => (cbrEntries p c host i j).filterMap φ) =
      fun i j => if j = host then [e (seat i j)] else [] := by
    funext i j
    rw [cbrEntries, List.filterMap_append]
    have hnone : (if i = host then [Application.onOff (addressOf p j) (cbrPort i j) c.screamRate
        tcpPacketSize 0] else []).filterMap φ = [] := by
      split_ifs
      · rw [List.filterMap_cons, hclient]
        rfl
      · rfl
    rw [hnone, List.append_nil]
    split_ifs with hj
    · subst hj
      rw [List.filterMap_cons, cbrPort, hsink]
      rfl
    · rfl
  rw [pairsUpto_filterMap, hentries, pairsUpto_column (fun i j => e (seat i j)) hhost,
    map_seat e hhost]

lemma filterMap_echo {α : Type} (φ : Application → Option α) (hserver : ∀ port, φ (.udpEchoServer port) = none)
    (hclient : ∀ a port, φ (.udpEchoClient a port 1 (1 / 10) 64) = none) :
    (pairsUpto (echoEntries p host) (hostCount p) (hostCount p) 0).filterMap φ = [] := by
  rw [List.filterMap_eq_nil_iff]
  intro a ha
  obtain ⟨i, -, j, -, -, ha⟩ := mem_pairsUpto.mp ha
  rw [echoEntries, List.mem_append] at ha
  rcases ha with ha | ha
  · split_ifs at ha
    · rw [List.mem_singleton.mp ha, hserver]
    · cases ha
  · split_ifs at ha
    · rw [List.mem_singleton.mp ha, hclient]
    · cases ha

lemma filterMap_planned {α : Type} (φ : Application → Option α) (e : ℕ → α) (hhost : host < hostCount p)
    (hsink : ∀ port, φ (.packetSink (addressOf p host) port) = some (e port))
    (hclient : ∀ a port, φ (.onOff a port c.screamRate tcpPacketSize 0) = none)
    (hserver : ∀ port, φ (.udpEchoServer port) = none)
    (hecho : ∀ a port, φ (.udpEchoClient a port 1 (1 / 10) 64) = none) :
    (planned p c host).filterMap φ = (boundPorts c (cbrCalls p c)).map e := by
  have hnone : (if c.pingall then pairsUpto (echoEntries p host) (hostCount p) (hostCount p) 0
      else []).filterMap φ = [] := by
    split_ifs
    · exact filterMap_echo φ hserver hecho
    · rfl
  have hdiscard : (if c.flows.isSome then [Application.packetSink (addressOf p host) tcpDiscardPort]
      else []).filterMap φ = (if c.flows.isSome then [tcpDiscardPort] else []).map e := by
    split_ifs
    · rw [List.filterMap_cons, hsink]
      rfl
    · rfl
  rw [planned, if_pos hhost, List.filterMap_append, List.filterMap_append, hnone, List.append_nil,
    hdiscard, boundPorts, List.map_append, List.map_map, cbrCalls]
  congr 1
  split_ifs
  · exact filterMap_cbr φ _ hhost (fun _ => hsink _) hclient
  · rfl

lemma flowEntries_listens : (flowEntries p c base host flows).filterMap Application.listens = [] := by
  rw [flowEntries, List.filterMap_map, List.filterMap_eq_nil_iff]
  intro x _
  rfl

lemma flowEntries_ports : (flowEntries p c base host flows).filterMap Application.localPort? =
    (List.range (flowsFrom host flows).length).map fun k =>
      tcpLocalStartPort + (base + k) % portCount := by
  rw [flowEntries, List.filterMap_map]
  generalize flowsFrom host flows = l
  induction l using List.reverseRecOn with
  | nil => rfl
  | append_singleton l flow ih =>
    rw [List.zipIdx_append, List.filterMap_append, ih, List.length_append, List.length_singleton,
      List.range_succ, List.map_append, List.zipIdx_singleton, Nat.zero_add]
    rfl

lemma boundPorts_nodup_iff : (boundPorts c m).Nodup ↔ m ≤ portCount := by
  have hpos : 0 < portCount := by decide
  constructor
  · intro h
    rw [boundPorts, List.nodup_append] at h
    by_contra hlt
    have hinj := (List.nodup_map_iff_inj_on List.nodup_range).mp h.2.1
    have hzero := hinj 0 (List.mem_range.mpr (by omega)) portCount (List.mem_range.mpr (by omega))
      (by rw [Nat.mod_self, Nat.zero_mod])
    omega
  · intro hle
    rw [boundPorts, List.nodup_append]
    refine ⟨?_, ?_, ?_⟩
    · split_ifs
      · exact List.nodup_singleton _
      · exact List.nodup_nil
    · apply (List.nodup_map_iff_inj_on List.nodup_range).mpr
      intro k hk k' hk' heq
      rw [List.mem_range] at hk hk'
      rw [Nat.mod_eq_of_lt (by omega), Nat.mod_eq_of_lt (by omega)] at heq
      omega
    · intro x hx y hy
      obtain ⟨k, -, rfl⟩ := List.mem_map.mp hy
      split_ifs at hx
      · rw [List.mem_singleton.mp hx, tcpDiscardPort, tcpLocalStartPort]
        omega
      · cases hx

lemma Deployed.sinks (h : Deployed p c d) (hhost : host < hostCount p) : d.sinks host =
    if isLocal p c host then (boundPorts c (cbrCalls p c)).map (Prod.mk (addressOf p host)) else [] := by
  rw [Deployment.sinks, h.applications]
  split_ifs
  · rw [List.filterMap_append, flowEntries_listens, List.append_nil]
    exact filterMap_planned _ _ hhost (fun _ => rfl) (fun _ _ => rfl) (fun _ => rfl) fun _ _ => rfl
  · rfl

lemma Deployed.ports (h : Deployed p c d) (hhost : host < hostCount p) : d.ports host =
    if isLocal p c host then
      boundPorts c (cbrCalls p c + (flowsFrom host (c.flows.getD [])).length)
    else [] := by
  rw [Deployment.ports, h.applications]
  split_ifs
  · have hplanned : (planned p c host).filterMap Application.localPort? =
        (boundPorts c (cbrCalls p c)).map id :=
      filterMap_planned _ _ hhost (fun _ => rfl) (fun _ _ => rfl) (fun _ => rfl) fun _ _ => rfl
    rw [List.filterMap_append, hplanned, flowEntries_ports, List.map_id, boundPorts, boundPorts,
      List.range_add, List.map_append, List.map_map, List.append_assoc]
    rfl
  · rfl

/-- The TCP ports of a host's applications are taken once each as long as there are enough of them. -/
theorem ports_nodup_iff (S : Ipv4StaticRouting) (heven : 2 ∣ p.switchRadix)
    (hs : p.createServers c.podProcs = .ok servers)
    (hflows : ∀ f ∈ c.flows.getD [], f.src < hostCount p ∧ f.dst < hostCount p) :
    ∃ d, beginExperiment p (p.setupClosTopology S) c servers = .ok d ∧
      ∀ host < hostCount p, isLocal p c host = true → ((d.ports host).Nodup ↔
        (if c.screamRate ≠ [] then hostCount p - 1 else 0) +
          ((c.flows.getD []).filter (·.src = host)).length ≤ 65516) := by
  obtain ⟨d, hd, hdeployed⟩ := beginExperiment_deployed S heven hs hflows
  refine ⟨d, hd, fun host hhost hlocal => ?_⟩
  rw [hdeployed.ports hhost, if_pos hlocal, boundPorts_nodup_iff, portCount_eq]
  rfl

lemma peer_planned {a : Application} {address : Ipv4Address} {port : ℕ} (ha : a ∈ planned p c host)
    (hpeer : a.peer = some (address, port)) :
    ∃ other < hostCount p, address = addressOf p other ∧ port ∈ boundPorts c (cbrCalls p c) := by
  rw [planned, List.mem_append, List.mem_append] at ha
  rcases ha with ha | ha | ha
  · split_ifs at ha
    · rw [List.mem_singleton.mp ha] at hpeer
      cases hpeer
    · cases ha
    · cases ha
  · split_ifs at ha with hscream
    · obtain ⟨i, hi, j, hj, hne, ha⟩ := mem_pairsUpto.mp ha
      rw [cbrEntries, List.mem_append] at ha
      rcases ha with ha | ha
      · split_ifs at ha
        · rw [List.mem_singleton.mp ha] at hpeer
          cases hpeer
        · cases ha
      · split_ifs at ha
        · rw [List.mem_singleton.mp ha] at hpeer
          obtain ⟨rfl, rfl⟩ := Prod.mk.inj (Option.some.inj hpeer)
          refine ⟨j, hj, rfl, List.mem_append_right _ ?_⟩
          rw [cbrCalls, if_pos hscream]
          exact List.mem_map.mpr ⟨seat i j, List.mem_range.mpr (seat_lt hi hne hj), rfl⟩
        · cases ha
    · cases ha
  · split_ifs at ha
    · obtain ⟨i, -, j, -, -, ha⟩ := mem_pairsUpto.mp ha
      rw [echoEntries, List.mem_append] at ha
      rcases ha with ha | ha <;> split_ifs at ha
      · rw [List.mem_singleton.mp ha] at hpeer
        cases hpeer
      · cases ha
      · rw [List.mem_singleton.mp ha] at hpeer
        cases hpeer
      · cases ha
    · cases ha

lemma peer_flowEntries {a : Application} {address : Ipv4Address} {port : ℕ}
    (hflows : ∀ f ∈ c.flows.getD [], f.src < hostCount p ∧ f.dst < hostCount p)
    (ha : a ∈ flowEntries p c base host (c.flows.getD [])) (hpeer : a.peer = some (address, port)) :
    ∃ other < hostCount p, address = addressOf p other ∧ port ∈ boundPorts c (cbrCalls p c) := by
  obtain ⟨⟨flow, k⟩, hx, rfl⟩ := List.mem_map.mp ha
  obtain ⟨rfl, rfl⟩ := Prod.mk.inj (Option.some.inj hpeer)
  have hflow : flow ∈ c.flows.getD [] := List.mem_of_mem_filter (List.fst_mem_of_mem_zipIdx hx)
  refine ⟨flow.dst, (hflows flow hflow).2, rfl, List.mem_append_left _ ?_⟩
  cases hc : c.flows with
  | none =>
    rw [hc] at hflow
    cases hflow
  | some l => exact List.mem_singleton_self _

lemma echo_planned {address : Ipv4Address} {port packets size : ℕ} {interval : ℚ}
    (ha : .udpEchoClient address port packets interval size ∈ planned p c host) :
    ∃ other < hostCount p, address = addressOf p other ∧ .udpEchoServer port ∈ planned p c other := by
  rw [planned, List.mem_append, List.mem_append] at ha
  rcases ha with ha | ha | ha
  · split_ifs at ha
    · cases List.mem_singleton.mp ha
    · cases ha
    · cases ha
  · split_ifs at ha
    · obtain ⟨i, -, j, -, -, ha⟩ := mem_pairsUpto.mp ha
      rw [cbrEntries, List.mem_append] at ha
      rcases ha with ha | ha <;> split_ifs at ha
      · cases List.mem_singleton.mp ha
      · cases ha
      · cases List.mem_singleton.mp ha
      · cases ha
    · cases ha
  · split_ifs at ha with hping
    · obtain ⟨i, hi, j, hj, hne, ha⟩ := mem_pairsUpto.mp ha
      rw [echoEntries, List.mem_append] at ha
      rcases ha with ha | ha <;> split_ifs at ha
      · cases List.mem_singleton.mp ha
      · cases ha
      · cases List.mem_singleton.mp ha
        refine ⟨j, hj, rfl, ?_⟩
        rw [planned, List.mem_append, List.mem_append, if_pos hping]
        refine Or.inr (Or.inr (mem_pairsUpto.mpr ⟨i, hi, j, hj, hne, ?_⟩))
        rw [echoEntries, if_pos rfl]
        exact List.mem_append_left _ (List.mem_singleton_self _)
      · cases ha
    · cases ha

/-- Each TCP client, of whatever rank, finds one sink to connect to, on the rank of its peer, and each
echo client a server. -/
theorem clients_connected (S : Ipv4StaticRouting) (hp : p.Valid)
    (hs : p.createServers c.podProcs = .ok servers)
    (hflows : ∀ f ∈ c.flows.getD [], f.src < hostCount p ∧ f.dst < hostCount p)
    (hn : hostCount p ≤ 65517) :
    ∃ d : ℕ → Deployment,
      (∀ rank, beginExperiment p (p.setupClosTopology S) (c.onRank rank) servers = .ok (d rank)) ∧
      (∀ rank host, ∀ a ∈ (d rank).applications host, ∀ address port, a.peer = some (address, port) →
        ∃ other < hostCount p, getHostAddress p (p.setupClosTopology S) other = some address ∧
          ∀ rank', ∀ host' < hostCount p, ((d rank').sinks host').count (address, port) =
            if host' = other ∧ rank' = p.getSystemIdOfServer true c.podProcs other then 1 else 0) ∧
      ∀ rank host address port packets interval size,
        .udpEchoClient address port packets interval size ∈ (d rank).applications host →
          ∃ other < hostCount p, getHostAddress p (p.setupClosTopology S) other = some address ∧
            .udpEchoServer port ∈
              (d (p.getSystemIdOfServer true c.podProcs other)).applications other := by
  choose d hd hdeployed using fun rank =>
    beginExperiment_deployed (c := c.onRank rank) S hp.even hs hflows
  refine ⟨d, hd, fun rank host a ha address port hpeer => ?_,
    fun rank host address port packets interval size ha => ?_⟩
  rotate_left
  · rw [(hdeployed rank).applications] at ha
    split_ifs at ha
    · rcases List.mem_append.mp ha with ha | ha
      · obtain ⟨other, hother, rfl, hserver⟩ := echo_planned ha
        refine ⟨other, hother, getServerAddress_setup S (host_isHost hother), ?_⟩
        have hlocal : isLocal p (c.onRank (p.getSystemIdOfServer true c.podProcs other)) other = true :=
          (getLocalHost_isSome _).mpr rfl
        rw [(hdeployed _).applications, if_pos hlocal]
        exact List.mem_append_left _ hserver
      · obtain ⟨_, _, hx⟩ := List.mem_map.mp ha
        cases hx
    · cases ha
  have hsink : ∃ other < hostCount p, address = addressOf p other ∧
      port ∈ boundPorts c (cbrCalls p c) := by
    rw [(hdeployed rank).applications] at ha
    split_ifs at ha
    · rcases List.mem_append.mp ha with ha | ha
      · exact peer_planned ha hpeer
      · exact peer_flowEntries hflows ha hpeer
    · cases ha
  obtain ⟨other, hother, rfl, hport⟩ := hsink
  refine ⟨other, hother, getServerAddress_setup S (host_isHost hother), fun rank' host' hhost' => ?_⟩
  have howned : isLocal p (c.onRank rank') host' = true ↔
      rank' = p.getSystemIdOfServer true c.podProcs host' := getLocalHost_isSome rank'
  have hsinks : (d rank').sinks host' = if rank' = p.getSystemIdOfServer true c.podProcs host' then
      (boundPorts c (cbrCalls p c)).map (Prod.mk (addressOf p host')) else [] := by
    rw [(hdeployed rank').sinks hhost', if_congr howned rfl rfl]
    rfl
  have hnodup : (boundPorts c (cbrCalls p c)).Nodup := by
    rw [boundPorts_nodup_iff, portCount_eq, cbrCalls]
    split_ifs <;> omega
  rw [hsinks]
  by_cases hlocal : rank' = p.getSystemIdOfServer true c.podProcs host'
  · rw [if_pos hlocal, (hnodup.map (Prod.mk_right_injective _)).count]
    have hmem : (addressOf p other, port) ∈ (boundPorts c (cbrCalls p c)).map
        (Prod.mk (addressOf p host')) ↔ host' = other := by
      constructor
      · intro hmem
        obtain ⟨x, -, heq⟩ := List.mem_map.mp hmem
        exact addressOf_inj hp hhost' hother (Prod.mk.inj heq).1
      · rintro rfl
        exact List.mem_map_of_mem hport
    apply if_congr _ rfl rfl
    apply hmem.trans
    constructor
    · rintro rfl
      exact ⟨rfl, hlocal⟩
    · exact And.left
  · rw [if_neg hlocal, List.count_nil, if_neg]
    rintro ⟨rfl, hrank⟩
    exact hlocal hrank

end Endpoints

section Witnesses

def crowded : Setting where
  mpi := true
  podProcs := 2
  systemId := 0
  linkRate := 40
  paramEnd := 4
  screamRate := "1Mbps".toList
  pingall := true
  flows := some [⟨0, 15, 2, 100⟩, ⟨15, 0, 2, 200⟩]

lemma fourPods_valid : fourPods.Valid := ⟨by decide, by decide, by decide, by decide, by decide, by decide⟩

theorem ranks_deploy_crowded : ∃ servers s d, fourPods.createServers 2 = .ok servers ∧
    beginExperiment fourPods (fourPods.setupClosTopology listStaticRouting) crowded.alone servers = .ok s ∧
    beginExperiment fourPods (fourPods.setupClosTopology listStaticRouting) (crowded.onRank 1) servers =
      .ok d ∧ d.serverApplications 0 = [] ∧ d.flowApplications 15 = s.flowApplications 15 := by
  obtain ⟨s, hs, hranks⟩ := ranks_deploy (c := crowded) listStaticRouting fourPods_valid.even rfl
    (by decide)
  obtain ⟨d, hd, hown⟩ := hranks 1
  exact ⟨_, s, d, rfl, hs, hd, (hown 0).1, (hown 15).2⟩

theorem ports_nodup_iff_crowded : ∃ servers d, fourPods.createServers 2 = .ok servers ∧
    beginExperiment fourPods (fourPods.setupClosTopology listStaticRouting) crowded servers = .ok d ∧
    (d.ports 0).Nodup := by
  obtain ⟨d, hd, hports⟩ := ports_nodup_iff (c := crowded) listStaticRouting fourPods_valid.even rfl
    (by decide)
  exact ⟨_, d, rfl, hd, (hports 0 (by decide) (by decide)).mpr (by decide)⟩

theorem clients_connected_crowded : ∃ servers, fourPods.createServers 2 = .ok servers ∧
    ∃ d : ℕ → Deployment,
      (∀ rank, beginExperiment fourPods (fourPods.setupClosTopology listStaticRouting)
        (crowded.onRank rank) servers = .ok (d rank)) ∧
      ∀ a ∈ (d 0).applications 0, ∀ address port, a.peer = some (address, port) →
        ∃ other < 16, getHostAddress fourPods (fourPods.setupClosTopology listStaticRouting) other =
            some address ∧
          ∀ rank', ∀ host' < 16, ((d rank').sinks host').count (address, port) =
            if host' = other ∧ rank' = fourPods.getSystemIdOfServer true 2 other then 1 else 0 := by
  obtain ⟨d, hd, hclients, -⟩ := clients_connected (c := crowded) listStaticRouting fourPods_valid rfl
    (by decide) (by decide)
  exact ⟨_, rfl, d, hd, hclients 0 0⟩

end Witnesses

end Deployment

end SwarmSim.Flows
