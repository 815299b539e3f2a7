import Mathlib.Data.Nat.Bitwise
import Mathlib.Tactic

/-! The ns-3 value types that the routing code reads: addresses, masks and
routing table entries, and the ways in which a call can end the simulation. -/

namespace SwarmSim.Ns3

inductive Fault
  /-- `NS_ABORT_MSG` and `NS_ABORT_IF`. -/
  | abort (msg : String)
  /-- `NS_ASSERT`. -/
  | assertion
  | outOfRange
  | nullPointer
  | useAfterFree
  | erasedIterator
  deriving DecidableEq, Repr

abbrev Ipv4Address := BitVec 32
abbrev Ipv4Mask := BitVec 32

def Ipv4Address.ofOctets (a b c d : ℕ) : Ipv4Address :=
  BitVec.ofNat 32 (a * 2 ^ 24 + b * 2 ^ 16 + c * 2 ^ 8 + d)

def Ipv4Address.combineMask (a : Ipv4Address) (m : Ipv4Mask) : Ipv4Address := a &&& m

def Ipv4Address.isMulticast (a : Ipv4Address) : Bool :=
  0xe0000000#32 ≤ a && a ≤ 0xefffffff#32

/-- The mask written `"/n"`. -/
def Ipv4Mask.ofPrefix (n : ℕ) : Ipv4Mask := BitVec.ofNat 32 (2 ^ 32 - 2 ^ (32 - n))

def Ipv4Mask.isMatch (m : Ipv4Mask) (a b : Ipv4Address) : Bool := a &&& m = b &&& m

def Ipv4Mask.prefixLengthFrom : ℕ → Ipv4Mask → ℕ
  | 0, _ => 0
  | n + 1, m => if m = 0 then 0 else prefixLengthFrom n (m <<< 1) + 1

def Ipv4Mask.getPrefixLength (m : Ipv4Mask) : ℕ := prefixLengthFrom 32 m

structure Ipv4InterfaceAddress where
  localAddress : Ipv4Address
  mask : Ipv4Mask
  deriving DecidableEq

structure Ipv4RoutingTableEntry where
  dest : Ipv4Address
  destNetworkMask : Ipv4Mask
  gateway : Ipv4Address
  interface : ℕ
  deriving DecidableEq

namespace Ipv4RoutingTableEntry

def createNetworkRouteTo (network : Ipv4Address) (networkMask : Ipv4Mask) (interface : ℕ) :
    Ipv4RoutingTableEntry :=
  ⟨network, networkMask, 0, interface⟩

def isHost (e : Ipv4RoutingTableEntry) : Bool := e.destNetworkMask = BitVec.allOnes 32

def isNetwork (e : Ipv4RoutingTableEntry) : Bool := !e.isHost

end Ipv4RoutingTableEntry

section Prefixes

lemma and_prefix_mask (x k : ℕ) (hx : x < 2 ^ 32) (hk : k ≤ 32) :
    x &&& (2 ^ 32 - 2 ^ k) = x / 2 ^ k * 2 ^ k := by
  have hpos : 2 ^ k - 1 + 1 = 2 ^ k := Nat.sub_add_cancel Nat.one_le_two_pow
  have hle : 2 ^ k ≤ 2 ^ 32 := Nat.pow_le_pow_right (by norm_num) hk
  rw [← Nat.shiftRight_eq_div_pow, ← Nat.shiftLeft_eq, ← hpos]
  apply Nat.eq_of_testBit_eq
  intro i
  rw [Nat.testBit_and, Nat.testBit_two_pow_sub_succ (by omega), Nat.testBit_shiftLeft,
    Nat.testBit_shiftRight, Nat.testBit_two_pow_sub_one]
  by_cases hi : i < 32
  · by_cases hki : k ≤ i
    · simp [hi, hki, Nat.not_lt.mpr hki]
    · simp [hki, Nat.lt_of_not_le hki]
  · have hb : x.testBit i = false :=
      Nat.testBit_lt_two_pow (hx.trans_le (Nat.pow_le_pow_right (by norm_num) (by omega)))
    by_cases hki : k ≤ i <;> simp [hi, hki, hb]

lemma toNat_and_ofPrefix (a : Ipv4Address) {n : ℕ} (hn : n ≤ 32) :
    (a &&& Ipv4Mask.ofPrefix n).toNat = a.toNat / 2 ^ (32 - n) * 2 ^ (32 - n) := by
  have hlt : 2 ^ 32 - 2 ^ (32 - n) < 2 ^ 32 := Nat.sub_lt (by norm_num) (by positivity)
  rw [BitVec.toNat_and, Ipv4Mask.ofPrefix, BitVec.toNat_ofNat, Nat.mod_eq_of_lt hlt]
  exact and_prefix_mask _ _ a.isLt (by omega)

lemma isMatch_ofPrefix (a b : Ipv4Address) {n : ℕ} (hn : n ≤ 32) :
    (Ipv4Mask.ofPrefix n).isMatch a b = true ↔
      a.toNat / 2 ^ (32 - n) = b.toNat / 2 ^ (32 - n) := by
  rw [Ipv4Mask.isMatch, decide_eq_true_eq, ← BitVec.toNat_inj, toNat_and_ofPrefix a hn,
    toNat_and_ofPrefix b hn]
  exact Nat.mul_left_inj (by positivity)

lemma toNat_ofOctets {a b c d : ℕ} (ha : a < 256) (hb : b < 256) (hc : c < 256) (hd : d < 256) :
    (Ipv4Address.ofOctets a b c d).toNat = a * 2 ^ 24 + b * 2 ^ 16 + c * 2 ^ 8 + d := by
  rw [Ipv4Address.ofOctets, BitVec.toNat_ofNat, Nat.mod_eq_of_lt (by omega)]

end Prefixes

end SwarmSim.Ns3
