import SwarmSim.Ns3.Ipv4

/-! What the simulator relies on of `Ipv4StaticRouting`, and a table kept as a
list, in insertion order, that provides it. -/

namespace SwarmSim.Ns3

structure StaticRoute where
  network : Ipv4Address
  mask : Ipv4Mask
  interface : ℕ
  metric : ℕ
  deriving DecidableEq

def StaticRoute.matchesDest (r : StaticRoute) (dest : Ipv4Address) : Bool := r.mask.isMatch dest r.network

def Ipv4InterfaceAddress.hasNetwork (a : Ipv4InterfaceAddress) : Bool :=
  a.localAddress ≠ 0 && a.mask ≠ 0 && a.mask ≠ BitVec.allOnes 32

def Ipv4InterfaceAddress.connectedRoute (a : Ipv4InterfaceAddress) (i : ℕ) : StaticRoute :=
  ⟨a.localAddress.combineMask a.mask, a.mask, i, 0⟩

/-- The static routing protocol of ns-3. An interface that goes down takes exactly its own
routes with it; one that comes up brings only the networks of its addresses. -/
structure Ipv4StaticRouting where
  Table : Type
  empty : Table
  addNetworkRouteTo : StaticRoute → Table → Table
  notifyInterfaceUp : ℕ → List Ipv4InterfaceAddress → Table → Table
  notifyInterfaceDown : ℕ → Table → Table
  notifyAddAddress : Bool → ℕ → Ipv4InterfaceAddress → Table → Table
  lookupStatic : Ipv4Address → Table → Option ℕ
  Has : Table → StaticRoute → Prop
  has_empty (r : StaticRoute) : ¬ Has empty r
  has_add (r r' : StaticRoute) (t : Table) : Has (addNetworkRouteTo r t) r' ↔ r' = r ∨ Has t r'
  has_up (i : ℕ) (as : List Ipv4InterfaceAddress) (t : Table) (r : StaticRoute) :
    Has (notifyInterfaceUp i as t) r ↔ Has t r ∨ ∃ a ∈ as, a.hasNetwork = true ∧ r = a.connectedRoute i
  has_down (i : ℕ) (t : Table) (r : StaticRoute) :
    Has (notifyInterfaceDown i t) r ↔ Has t r ∧ r.interface ≠ i
  addAddress_down (i : ℕ) (a : Ipv4InterfaceAddress) (t : Table) : notifyAddAddress false i a t = t
  lookup_none (dest : Ipv4Address) (t : Table) :
    lookupStatic dest t = none ↔ ∀ r, Has t r → r.matchesDest dest = false
  lookup_some (dest : Ipv4Address) (t : Table) (i : ℕ) : lookupStatic dest t = some i →
    ∃ r, Has t r ∧ r.matchesDest dest = true ∧ r.interface = i ∧
      ∀ r', Has t r' → r'.matchesDest dest = true →
        r'.mask.getPrefixLength ≤ r.mask.getPrefixLength

namespace Ipv4StaticRouting

variable (S : Ipv4StaticRouting)

lemma lookup_of_longest {dest : Ipv4Address} {t : S.Table} {r : StaticRoute} (hr : S.Has t r)
    (hm : r.matchesDest dest = true)
    (hu : ∀ r', S.Has t r' → r'.matchesDest dest = true →
      r.mask.getPrefixLength ≤ r'.mask.getPrefixLength → r'.interface = r.interface) :
    S.lookupStatic dest t = some r.interface := by
  cases hl : S.lookupStatic dest t with
  | none =>
    have hn := (S.lookup_none dest t).mp hl r hr
    simp [hm] at hn
  | some i =>
    obtain ⟨r', hr', hm', rfl, hlong⟩ := S.lookup_some dest t i hl
    exact congrArg some (hu r' hr' hm' (hlong r hr hm))

lemma lookup_of_unique {dest : Ipv4Address} {t : S.Table} {r : StaticRoute} (hr : S.Has t r)
    (hm : r.matchesDest dest = true)
    (hu : ∀ r', S.Has t r' → r'.matchesDest dest = true → r'.interface = r.interface) :
    S.lookupStatic dest t = some r.interface :=
  S.lookup_of_longest hr hm fun r' hr' hm' _ => hu r' hr' hm'

end Ipv4StaticRouting

namespace ListRouting

def add (r : StaticRoute) (t : List StaticRoute) : List StaticRoute := if r ∈ t then t else t ++ [r]

def up (i : ℕ) (as : List Ipv4InterfaceAddress) (t : List StaticRoute) : List StaticRoute :=
  as.foldl (fun t a => if a.hasNetwork then add (a.connectedRoute i) t else t) t

/-- The scan of `LookupStatic`: a match replaces the best one so far unless that one is longer
or, at equal length, cheaper; a host route ends the scan. -/
def scan (dest : Ipv4Address) : Option StaticRoute → List StaticRoute → Option StaticRoute
  | best, [] => best
  | best, r :: rs =>
    if r.matchesDest dest then
      if best.any (fun b => r.mask.getPrefixLength < b.mask.getPrefixLength ||
          r.mask.getPrefixLength = b.mask.getPrefixLength && b.metric < r.metric) then
        scan dest best rs
      else if r.mask.getPrefixLength = 32 then some r
      else scan dest (some r) rs
    else scan dest best rs

lemma mem_add (r r' : StaticRoute) (t : List StaticRoute) : r' ∈ add r t ↔ r' = r ∨ r' ∈ t := by
  rw [add]
  split
  · rename_i h
    constructor
    · exact Or.inr
    · rintro (rfl | h')
      · exact h
      · exact h'
  · simp [or_comm]

lemma mem_up (i : ℕ) (as : List Ipv4InterfaceAddress) (t : List StaticRoute) (r : StaticRoute) :
    r ∈ up i as t ↔ r ∈ t ∨ ∃ a ∈ as, a.hasNetwork = true ∧ r = a.connectedRoute i := by
  induction as generalizing t with
  | nil => simp [up]
  | cons a as ih =>
    have hstep : up i (a :: as) t =
        up i as (if a.hasNetwork then add (a.connectedRoute i) t else t) := rfl
    rw [hstep, ih]
    by_cases ha : a.hasNetwork = true
    · simp [ha, mem_add, or_assoc, or_left_comm]
    · simp [ha]

lemma prefixLengthFrom_le (n : ℕ) (m : Ipv4Mask) : Ipv4Mask.prefixLengthFrom n m ≤ n := by
  induction n generalizing m with
  | zero => simp [Ipv4Mask.prefixLengthFrom]
  | succ n ih =>
    rw [Ipv4Mask.prefixLengthFrom]
    split
    · omega
    · have := ih (m <<< 1); omega

lemma getPrefixLength_le (m : Ipv4Mask) : m.getPrefixLength ≤ 32 := prefixLengthFrom_le 32 m

lemma scan_none (dest : Ipv4Address) (best : Option StaticRoute) (t : List StaticRoute) :
    scan dest best t = none ↔ best = none ∧ ∀ r ∈ t, r.matchesDest dest = false := by
  induction t generalizing best with
  | nil => simp [scan]
  | cons r rs ih =>
    rw [scan]
    by_cases hm : r.matchesDest dest = true
    · rw [if_pos hm]
      split
      · rename_i hb
        cases best with
        | none => simp at hb
        | some b => simp [ih]
      · split
        · simp [hm]
        · simp [ih, hm]
    · simp [hm, ih]

lemma scan_some {dest : Ipv4Address} {best : Option StaticRoute} {t : List StaticRoute}
    {b : StaticRoute} (hb : ∀ b, best = some b → b.matchesDest dest = true)
    (h : scan dest best t = some b) :
    (b ∈ t ∨ best = some b) ∧ b.matchesDest dest = true ∧
      (∀ r ∈ t, r.matchesDest dest = true → r.mask.getPrefixLength ≤ b.mask.getPrefixLength) ∧
      ∀ r, best = some r → r.mask.getPrefixLength ≤ b.mask.getPrefixLength := by
  induction t generalizing best with
  | nil =>
    obtain rfl : best = some b := by simpa [scan] using h
    exact ⟨Or.inr rfl, hb b rfl, by simp, by simp⟩
  | cons r rs ih =>
    rw [scan] at h
    by_cases hm : r.matchesDest dest = true
    · rw [if_pos hm] at h
      by_cases hlong : best.any (fun b => r.mask.getPrefixLength < b.mask.getPrefixLength ||
          r.mask.getPrefixLength = b.mask.getPrefixLength && b.metric < r.metric) = true
      · rw [if_pos hlong] at h
        obtain ⟨hin, hmb, hrs, hbest⟩ := ih hb h
        cases best with
        | none => simp at hlong
        | some c =>
          have hc := hbest c rfl
          simp only [Option.any_some, Bool.or_eq_true, decide_eq_true_eq, Bool.and_eq_true] at hlong
          exact ⟨hin.imp_left (List.mem_cons_of_mem r), hmb,
            List.forall_mem_cons.mpr ⟨fun _ => by omega, hrs⟩, hbest⟩
      · rw [if_neg hlong] at h
        have hle : ∀ c, best = some c → c.mask.getPrefixLength ≤ r.mask.getPrefixLength := by
          rintro c rfl
          simp only [Option.any_some, Bool.or_eq_true, decide_eq_true_eq, Bool.and_eq_true] at hlong
          omega
        by_cases h32 : r.mask.getPrefixLength = 32
        · rw [if_pos h32] at h
          obtain rfl := Option.some.inj h
          refine ⟨Or.inl List.mem_cons_self, hm, ?_, hle⟩
          intro r' _ _
          rw [h32]
          exact getPrefixLength_le _
        · rw [if_neg h32] at h
          obtain ⟨hin, hmb, hrs, hbest⟩ := ih (by rintro c ⟨⟩; exact hm) h
          have hr := hbest r rfl
          refine ⟨Or.inl ?_, hmb, List.forall_mem_cons.mpr ⟨fun _ => hr, hrs⟩,
            fun c hc => (hle c hc).trans hr⟩
          rcases hin with hin | hin
          · exact List.mem_cons_of_mem r hin
          · exact Option.some.inj hin ▸ List.mem_cons_self
    · rw [if_neg hm] at h
      obtain ⟨hin, hmb, hrs, hbest⟩ := ih hb h
      exact ⟨hin.imp_left (List.mem_cons_of_mem r), hmb,
        List.forall_mem_cons.mpr ⟨fun hm' => (hm hm').elim, hrs⟩, hbest⟩

end ListRouting

def listStaticRouting : Ipv4StaticRouting where
  Table := List StaticRoute
  empty := []
  addNetworkRouteTo := ListRouting.add
  notifyInterfaceUp := ListRouting.up
  notifyInterfaceDown i t := t.filter (·.interface ≠ i)
  notifyAddAddress isUp i a t :=
    if isUp && a.localAddress ≠ 0 && a.mask ≠ 0 then ListRouting.add (a.connectedRoute i) t else t
  lookupStatic dest t := (ListRouting.scan dest none t).map (·.interface)
  Has t r := r ∈ t
  has_empty := by simp
  has_add := ListRouting.mem_add
  has_up := ListRouting.mem_up
  has_down := by simp
  addAddress_down := by simp
  lookup_none := by simp [ListRouting.scan_none]
  lookup_some := by
    intro dest t i h
    obtain ⟨b, hb, rfl⟩ := Option.map_eq_some_iff.mp h
    obtain ⟨hin, hm, hlong, _⟩ := ListRouting.scan_some (by simp) hb
    exact ⟨b, by simpa using hin, hm, rfl, hlong⟩

end SwarmSim.Ns3
