import SwarmSim.Clos.Fabric

namespace SwarmSim.Clos

open Machine Ns3 Wcmp

namespace TopologyDescriptor

structure Valid (p : TopologyDescriptor) : Prop where
  even : 2 ∣ p.switchRadix
  pods : p.numPods ≤ p.switchRadix
  podOctet : p.numPods ≤ 256
  edgeOctet : p.h ≤ 256
  hostOctet : p.numServers ≤ 254
  tors : p.numPods * p.h < 2 ^ 16

variable (p : TopologyDescriptor)

def hostAddress (pod e k : ℕ) : Ipv4Address := (serverNetwork pod e (k + 1)).localAddress

variable {p} {pod e k : ℕ}

lemma hostAddress_toNat (hpod : pod < 256) (he : e < 256) (hk : k < 254) :
    (hostAddress pod e k).toNat = 10 * 2 ^ 24 + pod * 2 ^ 16 + e * 2 ^ 8 + (k + 1) := by
  rw [hostAddress, serverNetwork]
  dsimp only
  rw [Nat.mod_eq_of_lt (by omega), Nat.mod_eq_of_lt (by omega),
    toNat_ofOctets (by norm_num) hpod he (by omega)]

lemma octet_mod {x : ℕ} (h : x < 256) : x % 2 ^ 8 = x := Nat.mod_eq_of_lt h

lemma matches_ofPrefix {a b : Ipv4Address} {n i m : ℕ} (hn : n ≤ 32) :
    (⟨b, .ofPrefix n, i, m⟩ : StaticRoute).matchesDest a = true ↔
      a.toNat / 2 ^ (32 - n) = b.toNat / 2 ^ (32 - n) := isMatch_ofPrefix a b hn

section Matches

variable {q f i : ℕ}

lemma hostRoute_matches (hpod : pod < 256) (he : e < 256) (hk : k < 254) (hq : q < 256) (hf : f < 256)
    (hi : i < 254) : (hostRoute q f i).matchesDest (hostAddress pod e k) = true ↔
      q = pod ∧ f = e ∧ i = k := by
  have hmask : ∀ a b : Ipv4Address, (⟨b, BitVec.allOnes 32, i + 1, directPathMetric⟩ :
      StaticRoute).matchesDest a = true ↔ a.toNat = b.toNat := by
    intro a b
    rw [StaticRoute.matchesDest, Ipv4Mask.isMatch, decide_eq_true_eq]
    dsimp only
    rw [BitVec.and_allOnes, BitVec.and_allOnes, BitVec.toNat_inj]
  rw [hostRoute, hmask, hostAddress_toNat hpod he hk, octet_mod hq, octet_mod hf,
    octet_mod (by omega : i < 256), toNat_ofOctets (by norm_num) hq hf (by omega)]
  omega

lemma torRoute_matches (hpod : pod < 256) (he : e < 256) (hk : k < 254) (hq : q < 256)
    (hf : f < 256) : (torRoute q f).matchesDest (hostAddress pod e k) = true ↔ q = pod ∧ f = e := by
  rw [torRoute, matches_ofPrefix (by norm_num), hostAddress_toNat hpod he hk, octet_mod hq,
    octet_mod hf, toNat_ofOctets (by norm_num) hq hf (by norm_num)]
  omega

lemma podRoute_matches (hpod : pod < 256) (he : e < 256) (hk : k < 254) (hq : q < 256) :
    (podRoute q).matchesDest (hostAddress pod e k) = true ↔ q = pod := by
  rw [podRoute, matches_ofPrefix (by norm_num), hostAddress_toNat hpod he hk, octet_mod hq,
    toNat_ofOctets (by norm_num) hq (by norm_num) (by norm_num)]
  omega

lemma loopback_matches (hpod : pod < 256) (he : e < 256) (hk : k < 254) (i : ℕ) :
    (loopbackAddress.connectedRoute i).matchesDest (hostAddress pod e k) = false := by
  rw [← Bool.not_eq_true, Ipv4InterfaceAddress.connectedRoute, loopbackAddress,
    matches_ofPrefix (by norm_num), hostAddress_toNat hpod he hk, Ipv4Address.combineMask,
    toNat_and_ofPrefix _ (by norm_num), toNat_ofOctets (by norm_num) (by norm_num) (by norm_num)
      (by norm_num)]
  omega

lemma backup_matches (hpod : pod < 256) (he : e < 256) (hk : k < 254) (hq : q < 256) :
    (Ipv4Mask.ofPrefix 16).isMatch (hostAddress pod e k) (.ofOctets 10 (q % 2 ^ 8) 0 0) = true ↔
      q = pod := by
  rw [isMatch_ofPrefix _ _ (by norm_num), hostAddress_toNat hpod he hk, octet_mod hq,
    toNat_ofOctets (by norm_num) hq (by norm_num) (by norm_num)]
  omega

lemma hostAddress_inj {pod' e' k' : ℕ} (hpod : pod < 256) (he : e < 256) (hk : k < 254)
    (hpod' : pod' < 256) (he' : e' < 256) (hk' : k' < 254) :
    hostAddress pod e k = hostAddress pod' e' k' ↔ pod = pod' ∧ e = e' ∧ k = k' := by
  rw [← BitVec.toNat_inj, hostAddress_toNat hpod he hk, hostAddress_toNat hpod' he' hk']
  omega

lemma hostAddress_ne_loopback (hpod : pod < 256) (he : e < 256) (hk : k < 254) :
    loopbackAddress.localAddress ≠ hostAddress pod e k := by
  rw [ne_eq, ← BitVec.toNat_inj, hostAddress_toNat hpod he hk, loopbackAddress,
    toNat_ofOctets (by norm_num) (by norm_num) (by norm_num) (by norm_num)]
  omega

lemma hostAddress_not_multicast (hpod : pod < 256) (he : e < 256) (hk : k < 254) :
    (hostAddress pod e k).isMulticast = false := by
  have hlt : ¬ 0xe0000000#32 ≤ hostAddress pod e k := by
    rw [BitVec.le_def, hostAddress_toNat hpod he hk]
    norm_num
    omega
  rw [Ipv4Address.isMulticast, decide_eq_false hlt, Bool.false_and]

lemma torLevelMapper_hostAddress (heven : 2 ∣ p.switchRadix) (hpod : pod < 256) (he : e < 256)
    (hk : k < 254) (hlt : pod * p.h + e < 2 ^ 16) :
    p.torLevelMapper (hostAddress pod e k) = pod * p.h + e := by
  have hoctets : (hostAddress pod e k).toNat / 2 ^ 16 % 256 = pod ∧
      (hostAddress pod e k).toNat / 2 ^ 8 % 256 = e := by
    rw [hostAddress_toNat hpod he hk]
    omega
  rw [torLevelMapper, hoctets.1, hoctets.2, Nat.mul_div_assoc _ heven, ← TopologyDescriptor.h,
    Nat.mod_eq_of_lt hlt]

end Matches

end TopologyDescriptor

end SwarmSim.Clos
