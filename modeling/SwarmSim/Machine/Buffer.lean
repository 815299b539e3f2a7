import Mathlib.Data.BitVec
import Mathlib.Tactic

/-! Fields of fixed size, written one after the other into a buffer of limited room and read back
in the same order. -/

namespace SwarmSim.Machine

abbrev Octet := BitVec 8

structure Codec (α : Type*) where
  size : ℕ
  encode : α → List Octet
  decode : List Octet → α
  length_encode : ∀ a, (encode a).length = size
  decode_encode : ∀ a, decode (encode a) = a

structure Buffer where
  written : List Octet
  room : ℕ

namespace Codec

variable {α β : Type*} (c : Codec α) (d : Codec β)

def write (a : α) (b : Buffer) : Option Buffer :=
  if c.size ≤ b.room then some ⟨b.written ++ c.encode a, b.room - c.size⟩ else none

def read (l : List Octet) : Option (α × List Octet) :=
  if c.size ≤ l.length then some (c.decode (l.take c.size), l.drop c.size) else none

def pair : Codec (α × β) where
  size := c.size + d.size
  encode x := c.encode x.1 ++ d.encode x.2
  decode l := (c.decode (l.take c.size), d.decode (l.drop c.size))
  length_encode x := by rw [List.length_append, c.length_encode, d.length_encode]
  decode_encode x := by
    rw [List.take_left' (c.length_encode x.1), List.drop_left' (c.length_encode x.1),
      c.decode_encode, d.decode_encode]

variable {a : α} {a' : β} {b : Buffer} {rest : List Octet}

lemma read_encode (a : α) (rest : List Octet) : c.read (c.encode a ++ rest) = some (a, rest) := by
  have hsize : c.size ≤ (c.encode a ++ rest).length := by
    rw [List.length_append, c.length_encode]
    exact Nat.le_add_right _ _
  rw [read, if_pos hsize, List.take_left' (c.length_encode a), List.drop_left' (c.length_encode a),
    c.decode_encode]

lemma write_pair : (c.write a b).bind (d.write a') = (c.pair d).write (a, a') b := by
  rw [write, write]
  by_cases hc : c.size ≤ b.room
  · rw [if_pos hc, Option.bind_some, write]
    by_cases hd : d.size ≤ b.room - c.size
    · have hpair : (c.pair d).size ≤ b.room := (Nat.le_sub_iff_add_le' hc).mp hd
      rw [if_pos hd, if_pos hpair, List.append_assoc, Nat.sub_sub]
      rfl
    · have hpair : ¬(c.pair d).size ≤ b.room := mt (Nat.le_sub_iff_add_le' hc).mpr hd
      rw [if_neg hd, if_neg hpair]
  · have hpair : ¬(c.pair d).size ≤ b.room := mt (Nat.le_add_right _ _).trans hc
    rw [if_neg hc, if_neg hpair, Option.bind_none]

lemma write_exact (a : α) : c.write a ⟨[], c.size⟩ = some ⟨c.encode a, 0⟩ := by
  rw [write, if_pos le_rfl, List.nil_append, Nat.sub_self]

end Codec

section Words

def toOctets : ℕ → ℕ → List Octet
  | 0, _ => []
  | n + 1, v => BitVec.ofNat 8 v :: toOctets n (v / 2 ^ 8)

def ofOctets : List Octet → ℕ
  | [] => 0
  | b :: l => b.toNat + 2 ^ 8 * ofOctets l

lemma length_toOctets (n v : ℕ) : (toOctets n v).length = n := by
  induction n generalizing v with
  | zero => rfl
  | succ n ih => rw [toOctets, List.length_cons, ih]

lemma ofOctets_toOctets (n v : ℕ) : ofOctets (toOctets n v) = v % 2 ^ (8 * n) := by
  induction n generalizing v with
  | zero => exact (Nat.mod_one v).symm
  | succ n ih =>
    have hpow : 2 ^ (8 * (n + 1)) = 2 ^ 8 * 2 ^ (8 * n) := by
      rw [← pow_add, Nat.mul_succ, Nat.add_comm]
    rw [toOctets, ofOctets, ih, BitVec.toNat_ofNat, hpow, Nat.mod_mul]

lemma ofNat_ofOctets {w n : ℕ} (hw : w = 8 * n) (v : BitVec w) :
    BitVec.ofNat w (ofOctets (toOctets n v.toNat)) = v := by
  subst hw
  rw [ofOctets_toOctets, Nat.mod_eq_of_lt v.isLt, BitVec.ofNat_toNat, BitVec.setWidth_eq]

/-- The least significant octet first. -/
def littleEndian {w : ℕ} (n : ℕ) (hw : w = 8 * n) : Codec (BitVec w) where
  size := n
  encode v := toOctets n v.toNat
  decode l := BitVec.ofNat w (ofOctets l)
  length_encode v := length_toOctets n v.toNat
  decode_encode := ofNat_ofOctets hw

def bigEndian {w : ℕ} (n : ℕ) (hw : w = 8 * n) : Codec (BitVec w) where
  size := n
  encode v := (toOctets n v.toNat).reverse
  decode l := BitVec.ofNat w (ofOctets l.reverse)
  length_encode v := by rw [List.length_reverse, length_toOctets]
  decode_encode v := by rw [List.reverse_reverse, ofNat_ofOctets hw]

end Words

end SwarmSim.Machine
