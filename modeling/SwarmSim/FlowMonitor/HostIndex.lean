import SwarmSim.Clos.Indices
import SwarmSim.FlowMonitor.ResultParser

namespace SwarmSim.FlowMonitor

open Machine Ns3 Clos TopologyDescriptor

def dotted (a : Ipv4Address) : List Char :=
  digits (a.toNat / 2 ^ 24) ++ '.' :: (digits (a.toNat / 2 ^ 16 % 256) ++ '.' ::
    (digits (a.toNat / 2 ^ 8 % 256) ++ '.' :: digits (a.toNat % 256)))

def pyAssert (c : Prop) [Decidable c] : Except PyError Unit :=
  if c then .ok () else .error .assertionError

/-- `map_ip_to_host_idx`, its constants set to the topology `p`. -/
def mapIpToHostIdx (p : TopologyDescriptor) (ip : List Char) : Except PyError ℤ :=
  match ip.splitOn '.' with
  | [first, second, third, fourth] => do
    pyAssert (first = ['1', '0'])
    let podNum ← pyInt second
    pyAssert (podNum < p.numPods)
    let torNum ← pyInt third
    pyAssert (torNum < p.switchRadix / 2)
    let serverNum ← pyInt fourth
    pyAssert (serverNum ≤ p.numServers)
    return podNum * p.numServers * p.switchRadix / 2 + torNum * p.numServers + serverNum
  | _ => .error .assertionError

def getHostAddress {S : Ipv4StaticRouting} (p : TopologyDescriptor) (nodes : Nodes S) (host : ℕ) :
    Option Ipv4Address := getServerAddress nodes (host / p.numServers) (host % p.numServers)

def DecodesHosts (S : Ipv4StaticRouting) (p : TopologyDescriptor) : Prop :=
  ∀ host < p.totalNumberOfServers, ∃ a, getHostAddress p (p.setupClosTopology S) host = some a ∧
    mapIpToHostIdx p (dotted a) = .ok (host : ℤ)

section HostIndex

variable {p : TopologyDescriptor} {S : Ipv4StaticRouting} {a : Ipv4Address} {pod e k host n : ℕ}

lemma digits_not_dot : ∀ c ∈ digits n, (c == '.') = false := by
  intro c hc
  rw [beq_eq_false_iff_ne]
  rintro rfl
  exact absurd (List.all_eq_true.mp (digits_all n) '.' hc) (by decide)

lemma splitOn_dotted (a : Ipv4Address) : (dotted a).splitOn '.' = [digits (a.toNat / 2 ^ 24),
    digits (a.toNat / 2 ^ 16 % 256), digits (a.toNat / 2 ^ 8 % 256), digits (a.toNat % 256)] := by
  have hcons : ∀ n (rest : List Char), (digits n ++ '.' :: rest).splitOn '.' =
      digits n :: rest.splitOn '.' := by
    intro n rest
    exact List.splitOnP_append_cons_of_forall_mem digits_not_dot '.' rfl rest
  have hlast : ∀ n, (digits n).splitOn '.' = [digits n] := fun _ =>
    List.splitOnP_eq_singleton digits_not_dot
  rw [dotted, hcons, hcons, hcons, hlast]

lemma pyInt_digits (n : ℕ) : pyInt (digits n) = .ok (n : ℤ) := by
  rw [pyInt, intLiteral_digits]

lemma mapIpToHostIdx_hostAddress (heven : 2 ∣ p.switchRadix) (hpod : pod < p.numPods) (he : e < p.h)
    (hk : k < p.numServers) (hpods : p.numPods ≤ 256) (hedges : p.h ≤ 256)
    (hservers : p.numServers ≤ 254) : mapIpToHostIdx p (dotted (hostAddress pod e k)) =
      .ok (((pod * p.h + e) * p.numServers + k + 1 : ℕ) : ℤ) := by
  obtain ⟨r, hr⟩ := heven
  have hh : p.h = r := by
    rw [TopologyDescriptor.h, hr, Nat.mul_div_cancel_left r (by norm_num)]
  have hvalue := hostAddress_toNat (hpod.trans_le hpods) (he.trans_le hedges) (hk.trans_le hservers)
  have hoctets : (hostAddress pod e k).toNat / 2 ^ 24 = 10 ∧
      (hostAddress pod e k).toNat / 2 ^ 16 % 256 = pod ∧
      (hostAddress pod e k).toNat / 2 ^ 8 % 256 = e ∧ (hostAddress pod e k).toNat % 256 = k + 1 := by
    omega
  obtain ⟨hfirst, hsecond, hthird, hfourth⟩ := hoctets
  have hten : digits 10 = ['1', '0'] := by decide
  have hassertPod : (pod : ℤ) < p.numPods := Int.ofNat_lt.mpr hpod
  have hassertTor : (e : ℤ) < p.switchRadix / 2 := by omega
  have hassertServer : ((k + 1 : ℕ) : ℤ) ≤ p.numServers := Int.ofNat_le.mpr hk
  have hsum : (pod : ℤ) * p.numServers * p.switchRadix / 2 + e * p.numServers + (k + 1 : ℕ) =
      (((pod * p.h + e) * p.numServers + k + 1 : ℕ) : ℤ) := by
    have hpods : (pod : ℤ) * p.numServers * p.switchRadix = pod * p.numServers * r * 2 := by
      rw [hr]
      push_cast
      ring
    rw [hpods, Int.mul_ediv_cancel _ (by norm_num), hh]
    push_cast
    ring
  rw [mapIpToHostIdx, splitOn_dotted, hfirst, hsecond, hthird, hfourth, hten, ← hsum]
  simp only [pyAssert, pyInt_digits, if_true, ok_bind, if_pos hassertPod, if_pos hassertTor,
    if_pos hassertServer]
  rfl

theorem mapIpToHostIdx_succ (heven : 2 ∣ p.switchRadix) (hpods : p.numPods ≤ 256) (hedges : p.h ≤ 256)
    (hservers : p.numServers ≤ 254) (hhost : host < p.totalNumberOfServers) :
    ∃ a, getHostAddress p (p.setupClosTopology S) host = some a ∧
      mapIpToHostIdx p (dotted a) = .ok (host + 1 : ℤ) := by
  have htotal : p.totalNumberOfServers = p.numPods * p.h * p.numServers := by
    obtain ⟨r, hr⟩ := heven
    rw [totalNumberOfServers, TopologyDescriptor.h, hr, Nat.mul_div_cancel_left r (by norm_num)]
    have hmul : p.numPods * (2 * r) * p.numServers = 2 * (p.numPods * r * p.numServers) := by ring
    rw [hmul, Nat.mul_div_cancel_left _ (by norm_num)]
  rw [htotal] at hhost
  have hpos : 0 < p.numServers := Nat.pos_of_mul_pos_left (Nat.zero_lt_of_lt hhost)
  have htor : host / p.numServers < p.numPods * p.h :=
    Nat.div_lt_of_lt_mul (by rwa [Nat.mul_comm] at hhost)
  have hk : host % p.numServers < p.numServers := Nat.mod_lt _ hpos
  have hh : 0 < p.h := Nat.pos_of_mul_pos_left (Nat.zero_lt_of_lt htor)
  refine ⟨_, getServerAddress_setup S ⟨htor, hk⟩, ?_⟩
  have hpod : host / p.numServers / p.h < p.numPods :=
    Nat.div_lt_of_lt_mul (by rwa [Nat.mul_comm] at htor)
  rw [mapIpToHostIdx_hostAddress heven hpod (Nat.mod_lt _ hh) hk hpods hedges hservers,
    Nat.div_add_mod', Nat.div_add_mod']
  rfl

/-- No host is decoded to its own index. -/
theorem decodesHosts_iff (S : Ipv4StaticRouting) (p : TopologyDescriptor) (heven : 2 ∣ p.switchRadix)
    (hpods : p.numPods ≤ 256) (hedges : p.h ≤ 256) (hservers : p.numServers ≤ 254) :
    DecodesHosts S p ↔ p.totalNumberOfServers = 0 := by
  constructor
  · intro h
    by_contra hpos
    obtain ⟨a, ha, hidx⟩ := h 0 (Nat.pos_of_ne_zero hpos)
    obtain ⟨b, hb, hidx'⟩ := mapIpToHostIdx_succ (S := S) heven hpods hedges hservers
      (Nat.pos_of_ne_zero hpos)
    obtain rfl : a = b := Option.some.inj (ha.symm.trans hb)
    rw [hidx, Except.ok.injEq] at hidx'
    omega
  · intro hnone host hhost
    omega

theorem decodesHosts_iff_default :
    DecodesHosts listStaticRouting ⟨4, 2, 2, false⟩ ↔
      totalNumberOfServers ⟨4, 2, 2, false⟩ = 0 :=
  decodesHosts_iff listStaticRouting ⟨4, 2, 2, false⟩ (by decide) (by decide) (by decide) (by decide)

theorem not_decodesHosts_last : ¬ DecodesHosts listStaticRouting ⟨4, 2, 2, false⟩ := by
  intro h
  obtain ⟨a, ha, hidx⟩ := h 7 (by decide)
  have hlast : 7 < totalNumberOfServers ⟨4, 2, 2, false⟩ := by decide
  obtain ⟨b, hb, hidx'⟩ := mapIpToHostIdx_succ (S := listStaticRouting) (by decide) (by decide)
    (by decide) (by decide) hlast
  obtain rfl : a = b := Option.some.inj (ha.symm.trans hb)
  rw [hidx, Except.ok.injEq] at hidx'
  omega

end HostIndex

end SwarmSim.FlowMonitor
