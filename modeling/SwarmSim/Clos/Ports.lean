import SwarmSim.Clos.Placement

namespace SwarmSim.Clos

open Machine

abbrev PortMap := ℕ → Option ℕ

def uint16Max : ℕ := 2 ^ 16 - 1

def addHostToPortMap (host : ℕ) (portMap : PortMap) : PortMap :=
  Function.update portMap host (some tcpLocalStartPort)

def addHostsToPortMap (hosts : List ℕ) : PortMap :=
  hosts.foldl (fun portMap host => addHostToPortMap host portMap) fun _ => none

-- `operator[]` gives 0 for a host that is not in the map.
def getNextPort (host : ℕ) (portMap : PortMap) : ℕ × PortMap :=
  let port := (portMap host).getD 0
  if port = uint16Max then (uint16Max, Function.update portMap host (some tcpLocalStartPort))
  else (port, Function.update portMap host (some ((port + 1) % 2 ^ 16)))

def getNextPorts : List ℕ → PortMap → List (ℕ × ℕ)
  | [], _ => []
  | host :: calls, portMap =>
    (host, (getNextPort host portMap).1) :: getNextPorts calls (getNextPort host portMap).2

def portsOf (host : ℕ) (calls : List ℕ) (portMap : PortMap) : List ℕ :=
  ((getNextPorts calls portMap).filter fun call => call.1 = host).map Prod.snd

def portCount : ℕ := 2 ^ 16 - tcpLocalStartPort

section Cycle

variable {host other k : ℕ} {calls hosts : List ℕ} {portMap : PortMap}

lemma portCount_eq : portCount = 65516 := by decide

lemma getNextPort_self (h : portMap host = some (tcpLocalStartPort + k % portCount)) :
    (getNextPort host portMap).1 = tcpLocalStartPort + k % portCount ∧
      (getNextPort host portMap).2 host = some (tcpLocalStartPort + (k + 1) % portCount) := by
  rw [portCount_eq] at h ⊢
  rw [getNextPort, h, Option.getD_some, tcpLocalStartPort, uint16Max]
  by_cases hmax : 20 + k % 65516 = 2 ^ 16 - 1
  · have hnext : (k + 1) % 65516 = 0 := by omega
    simp only [hmax, if_true, Function.update_self, hnext, and_self]
  · have hnext : (20 + k % 65516 + 1) % 2 ^ 16 = 20 + (k + 1) % 65516 := by omega
    simp only [if_neg hmax, Function.update_self, hnext, and_self]

lemma getNextPort_other (h : host ≠ other) (portMap : PortMap) :
    (getNextPort other portMap).2 host = portMap host := by
  rw [getNextPort]
  split <;> exact Function.update_of_ne h _ _

lemma portsOf_self (calls : List ℕ) (portMap : PortMap) : portsOf host (host :: calls) portMap =
    (getNextPort host portMap).1 :: portsOf host calls (getNextPort host portMap).2 := by
  rw [portsOf, getNextPorts, List.filter_cons_of_pos (by simp), List.map_cons]
  rfl

lemma portsOf_other (h : host ≠ other) (calls : List ℕ) (portMap : PortMap) :
    portsOf host (other :: calls) portMap = portsOf host calls (getNextPort other portMap).2 := by
  rw [portsOf, getNextPorts, List.filter_cons_of_neg (by simpa using h.symm)]
  rfl

lemma portsOf_cycle (h : portMap host = some (tcpLocalStartPort + k % portCount)) :
    portsOf host calls portMap = (List.range (calls.count host)).map fun i =>
      tcpLocalStartPort + (k + i) % portCount := by
  induction calls generalizing portMap k with
  | nil => rfl
  | cons other calls ih =>
    by_cases hself : host = other
    · subst hself
      obtain ⟨hport, hnext⟩ := getNextPort_self h
      rw [portsOf_self, ih hnext, hport, List.count_cons_self, List.range_succ_eq_map,
        List.map_cons, List.map_map]
      congr 1
      apply List.map_congr_left
      intro i _
      rw [Function.comp_apply, Nat.succ_eq_add_one, Nat.add_assoc, Nat.add_comm 1 i]
    · rw [portsOf_other hself, List.count_cons_of_ne (Ne.symm hself)]
      apply ih
      rw [getNextPort_other hself, h]

lemma addHostsToPortMap_mem (h : host ∈ hosts) :
    addHostsToPortMap hosts host = some tcpLocalStartPort := by
  induction hosts using List.reverseRecOn with
  | nil => cases h
  | append_singleton hosts other ih =>
    rw [addHostsToPortMap, List.foldl_append]
    change Function.update (addHostsToPortMap hosts) other (some tcpLocalStartPort) host = _
    by_cases hself : host = other
    · rw [hself, Function.update_self]
    · rw [Function.update_of_ne hself]
      apply ih
      simpa [hself] using h

/-- The ports of a registered host go round through all the ports from the first one up, whatever
calls for other hosts come in between. -/
theorem ports_cycle (hosts calls : List ℕ) (host : ℕ) (h : host ∈ hosts) :
    let ports := portsOf host calls (addHostsToPortMap hosts)
    ports.length = calls.count host ∧
      (∀ k port, ports[k]? = some port → port = 20 + k % 65516) ∧
      (∀ i j : ℕ, i < j → j < i + 65516 → j < ports.length → ports[i]? ≠ ports[j]?) ∧
      (∀ port ∈ ports, tcpLocalStartPort ≤ port ∧ port < 2 ^ 16) ∧
      ports = portsOf host (calls.filter (· = host)) (addHostsToPortMap hosts) := by
  intro ports
  have hstart : addHostsToPortMap hosts host = some (tcpLocalStartPort + 0 % portCount) :=
    addHostsToPortMap_mem h
  have hports : ports = (List.range (calls.count host)).map fun i => 20 + i % 65516 := by
    have hcycle : portsOf host calls (addHostsToPortMap hosts) = _ := portsOf_cycle hstart
    simpa only [portCount_eq, tcpLocalStartPort, Nat.zero_add] using hcycle
  have hlength : ports.length = calls.count host := by
    rw [hports, List.length_map, List.length_range]
  have hget : ∀ k port, ports[k]? = some port → port = 20 + k % 65516 := by
    intro k port hk
    have hlt : k < calls.count host := by
      rw [← hlength]
      exact (List.getElem?_eq_some_iff.mp hk).1
    rw [hports, List.getElem?_map, List.getElem?_range hlt] at hk
    exact (Option.some.inj hk).symm
  refine ⟨hlength, hget, fun i j hij hj hlt heq => ?_, fun port hport => ?_, ?_⟩
  · have hi := hget i _ (List.getElem?_eq_getElem (hij.trans hlt))
    rw [List.getElem?_eq_getElem hlt] at heq
    have hj' := hget i _ heq
    have hj'' := hget j _ (List.getElem?_eq_getElem hlt)
    omega
  · rw [hports] at hport
    obtain ⟨i, -, rfl⟩ := List.mem_map.mp hport
    rw [tcpLocalStartPort]
    omega
  · have hcalls : (calls.filter (· = host)).count host = calls.count host :=
      List.count_filter (by simp)
    rw [portsOf_cycle hstart, hcalls]
    exact portsOf_cycle hstart

theorem ports_cycle_two_hosts : (portsOf 3 [3, 5, 3] (addHostsToPortMap [3, 5])).length = 2 :=
  (ports_cycle [3, 5] [3, 5, 3] 3 (by decide)).1

lemma addHostsToPortMap_not_mem (h : host ∉ hosts) : addHostsToPortMap hosts host = none := by
  induction hosts using List.reverseRecOn with
  | nil => rfl
  | append_singleton hosts other ih =>
    rw [List.mem_append, List.mem_singleton, not_or] at h
    rw [addHostsToPortMap, List.foldl_append]
    change Function.update (addHostsToPortMap hosts) other (some tcpLocalStartPort) host = _
    rw [Function.update_of_ne h.2, ih h.1]

end Cycle

namespace TopologyDescriptor

variable {p : TopologyDescriptor} {step : ℕ}

lemma createServersWith_port (p : TopologyDescriptor) (step k port : ℕ)
    (h : (p.createServersWith step).portMap k = some port) : port = tcpLocalStartPort := by
  have hall : ∀ k port, (p.createServersWith step).portMap k = some port →
      port = tcpLocalStartPort := by
    apply forRange_preserves (P := fun s : Servers => ∀ k port, s.portMap k = some port →
      port = tcpLocalStartPort)
    · simp
    · intro pod s _ hs
      apply forRange_preserves (P := fun s : Servers => ∀ k port, s.portMap k = some port →
        port = tcpLocalStartPort) hs
      intro edge s _ hs k port hport
      unfold createEdgeServers at hport
      dsimp only at hport
      rw [edgeServers_loop] at hport
      dsimp only at hport
      split at hport
      · exact (Option.some.inj hport).symm
      · exact hs k port hport
  exact hall k port h

theorem createServersWith_portMap (heven : 2 ∣ p.switchRadix) :
    (p.createServersWith step).portMap =
      addHostsToPortMap (List.range (p.numPods * p.h * p.numServers)) := by
  funext k
  have hupto : p.CreatedUpto step (p.numPods * p.h) (p.createServersWith step) :=
    createServersWith_upto
  have hsome := hupto.portMap k (Or.inl heven)
  by_cases hk : k < p.numPods * p.h * p.numServers
  · obtain ⟨port, hport⟩ := Option.isSome_iff_exists.mp (hsome.mpr hk)
    rw [hport, createServersWith_port p step k port hport,
      addHostsToPortMap_mem (List.mem_range.mpr hk)]
  · rw [addHostsToPortMap_not_mem (by simpa using hk), ← Option.not_isSome_iff_eq_none]
    exact fun h => hk (hsome.mp h)

end TopologyDescriptor

end SwarmSim.Clos
