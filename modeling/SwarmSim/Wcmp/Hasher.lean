import SwarmSim.Ns3.Ipv4

namespace SwarmSim.Wcmp

open Ns3

abbrev Byte := BitVec 8

def tcpProtocol : BitVec 8 := 0x06
def udpProtocol : BitVec 8 := 0x11

inductive HashAlg
  | ipOnly
  | ipTcp
  | ipTcpUdp
  deriving DecidableEq

structure Ports where
  sourcePort : BitVec 16
  destinationPort : BitVec 16
  deriving DecidableEq

/-- A packet with its IPv4 header. The ports are what `PeekHeader` reads into a `TcpHeader` and
into a `UdpHeader`. -/
structure HashedPacket where
  source : Ipv4Address
  destination : Ipv4Address
  protocol : BitVec 8
  tcpHeader : Ports
  udpHeader : Ports
  deriving DecidableEq

structure WcmpHasher where
  hashAlgorithm : HashAlg := .ipTcpUdp
  salt : BitVec 32
  deriving DecidableEq

def serialize (a : Ipv4Address) : List Byte :=
  [a.extractLsb' 24 8, a.extractLsb' 16 8, a.extractLsb' 8 8, a.extractLsb' 0 8]

-- `memcpy` copies the bytes of the host, which is little-endian.
def memcpy16 (x : BitVec 16) : List Byte := [x.extractLsb' 0 8, x.extractLsb' 8 8]

def memcpy32 (x : BitVec 32) : List Byte :=
  [x.extractLsb' 0 8, x.extractLsb' 8 8, x.extractLsb' 16 8, x.extractLsb' 24 8]

namespace WcmpHasher

variable {α : Type*} (getHash32 : List Byte → α)

def getHashIpv4 (p : HashedPacket) (h : WcmpHasher) : α :=
  let buf := serialize p.source ++ serialize p.destination ++ memcpy32 h.salt
  getHash32 (buf.take 8)

/-- The part that the TCP and the UDP branches have in common. -/
def getHashPorts (p : HashedPacket) (ports : Ports) (h : WcmpHasher) : α :=
  let buf := serialize p.source ++ serialize p.destination ++ memcpy16 ports.sourcePort ++
    memcpy16 ports.destinationPort ++ memcpy32 h.salt
  getHash32 (buf.take 16)

def getHashIpv4Tcp (p : HashedPacket) (h : WcmpHasher) : α :=
  if !(p.protocol = tcpProtocol) then h.getHashIpv4 getHash32 p
  else h.getHashPorts getHash32 p p.tcpHeader

def getHashIpv4TcpUdp (p : HashedPacket) (h : WcmpHasher) : α :=
  if !(p.protocol = udpProtocol || p.protocol = tcpProtocol) then h.getHashIpv4 getHash32 p
  else if p.protocol = udpProtocol then h.getHashPorts getHash32 p p.udpHeader
  else h.getHashIpv4Tcp getHash32 p

def getHash (p : HashedPacket) (h : WcmpHasher) : α :=
  match h.hashAlgorithm with
  | .ipOnly => h.getHashIpv4 getHash32 p
  | .ipTcp => h.getHashIpv4Tcp getHash32 p
  | .ipTcpUdp => h.getHashIpv4TcpUdp getHash32 p

/-- The byte string that `GetHash32` is called with. -/
def hashInput (p : HashedPacket) (h : WcmpHasher) : List Byte := h.getHash id p

end WcmpHasher

def HashAlg.covers : HashAlg → BitVec 8 → Bool
  | .ipOnly, _ => false
  | .ipTcp, protocol => protocol = tcpProtocol
  | .ipTcpUdp, protocol => protocol = udpProtocol || protocol = tcpProtocol

def HashedPacket.ports (p : HashedPacket) : Ports :=
  if p.protocol = udpProtocol then p.udpHeader else p.tcpHeader

namespace WcmpHasher

variable {α : Type*} {getHash32 : List Byte → α} {p p' : HashedPacket} {h h' : WcmpHasher}

lemma serialize_inj {a b : Ipv4Address} (hab : serialize a = serialize b) : a = b := by
  simp only [serialize, List.cons.injEq, ← BitVec.toNat_inj, BitVec.extractLsb'_toNat,
    Nat.shiftRight_eq_div_pow] at hab
  apply BitVec.eq_of_toNat_eq
  omega

lemma memcpy16_inj {x y : BitVec 16} (hxy : memcpy16 x = memcpy16 y) : x = y := by
  simp only [memcpy16, List.cons.injEq, ← BitVec.toNat_inj, BitVec.extractLsb'_toNat,
    Nat.shiftRight_eq_div_pow] at hxy
  apply BitVec.eq_of_toNat_eq
  omega

lemma memcpy32_inj {x y : BitVec 32} (hxy : memcpy32 x = memcpy32 y) : x = y := by
  simp only [memcpy32, List.cons.injEq, ← BitVec.toNat_inj, BitVec.extractLsb'_toNat,
    Nat.shiftRight_eq_div_pow] at hxy
  apply BitVec.eq_of_toNat_eq
  omega

lemma getHash_hashInput (getHash32 : List Byte → α) (p : HashedPacket) (h : WcmpHasher) :
    h.getHash getHash32 p = getHash32 (h.hashInput p) := by
  rcases h with ⟨_ | _ | _, salt⟩
  · rfl
  · simp only [hashInput, getHash, getHashIpv4Tcp]
    split <;> rfl
  · simp only [hashInput, getHash, getHashIpv4TcpUdp, getHashIpv4Tcp]
    split_ifs <;> rfl

lemma hashInput_covered (hc : h.hashAlgorithm.covers p.protocol = true) :
    h.hashInput p = serialize p.source ++ serialize p.destination ++ memcpy16 p.ports.sourcePort ++
      memcpy16 p.ports.destinationPort ++ memcpy32 h.salt := by
  rcases h with ⟨_ | _ | _, salt⟩
  · cases hc
  · have htcp : p.protocol = tcpProtocol := by simpa [HashAlg.covers] using hc
    have hudp : p.protocol ≠ udpProtocol := by
      rw [htcp]
      decide
    simp only [hashInput, getHash, getHashIpv4Tcp, HashedPacket.ports, htcp, if_neg (htcp ▸ hudp)]
    rfl
  · by_cases hudp : p.protocol = udpProtocol
    · simp only [hashInput, getHash, getHashIpv4TcpUdp, HashedPacket.ports, hudp]
      rfl
    · have htcp : p.protocol = tcpProtocol := by simpa [HashAlg.covers, hudp] using hc
      simp only [hashInput, getHash, getHashIpv4TcpUdp, getHashIpv4Tcp, HashedPacket.ports, htcp]
      rfl

lemma hashInput_uncovered (hc : h.hashAlgorithm.covers p.protocol = false) :
    h.hashInput p = serialize p.source ++ serialize p.destination := by
  rcases h with ⟨_ | _ | _, salt⟩
  · rfl
  · have htcp : p.protocol ≠ tcpProtocol := by simpa [HashAlg.covers] using hc
    simp only [hashInput, getHash, getHashIpv4Tcp, htcp]
    rfl
  · simp only [HashAlg.covers] at hc
    simp only [hashInput, getHash, getHashIpv4TcpUdp, hc]
    rfl

def Separates (p : HashedPacket) (h : WcmpHasher) : Prop :=
  ∀ (p' : HashedPacket) (h' : WcmpHasher), h'.hashAlgorithm = h.hashAlgorithm →
    h.hashInput p = h'.hashInput p' →
      p.source = p'.source ∧ p.destination = p'.destination ∧ h.salt = h'.salt ∧
        (h.hashAlgorithm.covers p.protocol = true → p.ports = p'.ports)

/-- The salt is hashed only with the ports. -/
theorem separates_iff (p : HashedPacket) (h : WcmpHasher) :
    Separates p h ↔ h.hashAlgorithm.covers p.protocol = true := by
  constructor
  · intro hsep
    rw [← Bool.not_eq_false]
    intro hc
    have hother : ({ h with salt := h.salt ^^^ 1 } : WcmpHasher).hashInput p = h.hashInput p := by
      rw [hashInput_uncovered hc, hashInput_uncovered (by exact hc)]
    have hsalt := (hsep p { h with salt := h.salt ^^^ 1 } rfl hother.symm).2.2.1
    have hbit := congrArg (fun x : BitVec 32 => x.getLsbD 0) hsalt
    simp at hbit
  · intro hc p' h' halg heq
    have hc' : h'.hashAlgorithm.covers p'.protocol = true := by
      rw [← Bool.not_eq_false]
      intro hc'
      have hlength := congrArg List.length heq
      rw [hashInput_covered hc, hashInput_uncovered hc'] at hlength
      simp [serialize, memcpy16, memcpy32] at hlength
    rw [hashInput_covered hc, hashInput_covered hc'] at heq
    obtain ⟨heq, hsalt⟩ := List.append_inj heq (by rfl)
    obtain ⟨heq, hdport⟩ := List.append_inj heq (by rfl)
    obtain ⟨heq, hsport⟩ := List.append_inj heq (by rfl)
    obtain ⟨hsource, hdest⟩ := List.append_inj heq (by rfl)
    refine ⟨serialize_inj hsource, serialize_inj hdest, memcpy32_inj hsalt, fun _ => ?_⟩
    have hports : ∀ a b : Ports, a.sourcePort = b.sourcePort →
        a.destinationPort = b.destinationPort → a = b := by
      rintro ⟨_, _⟩ ⟨_, _⟩ rfl rfl
      rfl
    exact hports _ _ (memcpy16_inj hsport) (memcpy16_inj hdport)

theorem not_separates_ipOnly : ¬ ∀ (p : HashedPacket) (h : WcmpHasher), Separates p h := by
  intro hall
  have hsalt := (hall ⟨.ofOctets 10 0 0 1, .ofOctets 10 1 0 1, tcpProtocol, ⟨20, 10⟩, ⟨20, 10⟩⟩
    ⟨.ipOnly, 0⟩ ⟨.ofOctets 10 0 0 1, .ofOctets 10 1 0 1, tcpProtocol, ⟨20, 10⟩, ⟨20, 10⟩⟩
    ⟨.ipOnly, 1⟩ rfl rfl).2.2.1
  exact absurd hsalt (by decide)

end WcmpHasher

end SwarmSim.Wcmp
