import SwarmSim.Wcmp.Weights

namespace SwarmSim.Wcmp

open Machine Ns3

def uint32Max : ℕ := 2 ^ 32 - 1

/-- `((uint64_t) hash_val * size) / UINT32_MAX`. -/
def ecmpSlot (size hash : ℕ) : ℕ := hash * size % 2 ^ 64 / uint32Max

namespace WcmpWeights

def collect (t : WcmpWeights × List EntryPtr) (it : EntryPtr) : WcmpWeights × List EntryPtr :=
  let w := t.1.touchState it.getInterface
  if w.isIfUp it.getInterface then (w, t.2 ++ [it]) else (w, t.2)

def chooseEcmp (entries : List EntryPtr) (hash : ℕ) (w : WcmpWeights) :
    Except Fault (Option EntryPtr) × WcmpWeights :=
  let (w, up) := entries.foldl collect (w, [])
  match up with
  | [] => (.ok none, w)
  | [e] => (.ok (some e), w)
  | up =>
    match up[ecmpSlot up.length hash]? with
    | some e => (.ok (some e), w)
    | none => (.error .outOfRange, w)

def upEntries (entries : List EntryPtr) (w : WcmpWeights) : List EntryPtr :=
  entries.filter fun e => w.isIfUp e.getInterface

section Choice

variable {w : WcmpWeights} {entries : List EntryPtr} {hash n : ℕ} {e : EntryPtr}

lemma upEntries_cons (e : EntryPtr) (es : List EntryPtr) : w.upEntries (e :: es) =
    if w.isIfUp e.getInterface = true then e :: w.upEntries es else w.upEntries es := by
  split
  · rename_i hup
    exact List.filter_cons_of_pos (p := fun e : EntryPtr => w.isIfUp e.getInterface) hup
  · rename_i hup
    exact List.filter_cons_of_neg (p := fun e : EntryPtr => w.isIfUp e.getInterface) hup

lemma collect_from (entries : List EntryPtr) (t : WcmpWeights × List EntryPtr) (h : Same t.1 w) :
    (entries.foldl collect t).2 = t.2 ++ w.upEntries entries := by
  induction entries generalizing t with
  | nil => simp [upEntries]
  | cons e es ih =>
    have htouch := (touchState_same t.1 e.getInterface).trans h
    rw [List.foldl_cons, collect, upEntries_cons]
    by_cases hup : w.isIfUp e.getInterface = true
    · rw [if_pos (by rw [htouch.isIfUp, hup]), ih _ htouch, if_pos hup, List.append_assoc,
        List.singleton_append]
    · rw [if_neg (by rwa [htouch.isIfUp]), ih _ htouch, if_neg hup]

lemma chooseEcmp_single (h : w.upEntries entries = [e]) (hash : ℕ) :
    (w.chooseEcmp entries hash).1 = .ok (some e) := by
  have hup := collect_from entries (w, []) (Same.refl w)
  rw [List.nil_append, h] at hup
  simp only [chooseEcmp, hup]

lemma chooseEcmp_many (h : 2 ≤ (w.upEntries entries).length) (hash : ℕ) :
    (w.chooseEcmp entries hash).1 =
      match (w.upEntries entries)[ecmpSlot (w.upEntries entries).length hash]? with
      | some e => .ok (some e)
      | none => .error .outOfRange := by
  have hup := collect_from entries (w, []) (Same.refl w)
  rw [List.nil_append] at hup
  simp only [chooseEcmp, hup]
  generalize w.upEntries entries = up at h
  split
  · simp at h
  · simp at h
  · split <;> rfl

lemma chooseEcmp_eq_some (h : 2 ≤ (w.upEntries entries).length) (hash : ℕ) (e : EntryPtr) :
    (w.chooseEcmp entries hash).1 = .ok (some e) ↔
      (w.upEntries entries)[ecmpSlot (w.upEntries entries).length hash]? = some e := by
  rw [chooseEcmp_many h]
  cases (w.upEntries entries)[ecmpSlot (w.upEntries entries).length hash]? with
  | none => simp
  | some e' => simp

end Choice

section Split

variable {w : WcmpWeights} {entries : List EntryPtr} {n hash : ℕ}

def ecmpShare (w : WcmpWeights) (entries : List EntryPtr) (e : EntryPtr) : ℕ :=
  ((Finset.range (2 ^ 32)).filter fun hash => (w.chooseEcmp entries hash).1 = .ok (some e)).card

structure SplitsEvenly (w : WcmpWeights) (entries : List EntryPtr) : Prop where
  answers (hash : ℕ) : hash < 2 ^ 32 →
    ∃ e ∈ w.upEntries entries, (w.chooseEcmp entries hash).1 = .ok (some e)
  shares (e : EntryPtr) : e ∈ w.upEntries entries →
    ecmpShare w entries e = 2 ^ 32 / (w.upEntries entries).length ∨
      ecmpShare w entries e =
        (2 ^ 32 + ((w.upEntries entries).length - 1)) / (w.upEntries entries).length

lemma ecmpSlot_last (hn : n ≤ 2 ^ 32 + 1) : ecmpSlot n (2 ^ 32 - 1) = n := by
  have hlt : (2 ^ 32 - 1) * n < 2 ^ 64 := by omega
  rw [ecmpSlot, Nat.mod_eq_of_lt hlt, uint32Max]
  exact Nat.mul_div_cancel_left n (by norm_num)

lemma ecmpSlot_lt (hn : 2 ^ 32 + 1 < n) (hash : ℕ) : ecmpSlot n hash < n := by
  have hmod : hash * n % 2 ^ 64 < 2 ^ 64 := Nat.mod_lt _ (by norm_num)
  rw [ecmpSlot, uint32Max]
  omega

def SlotsApart (w : WcmpWeights) (entries : List EntryPtr) : Prop :=
  ∀ hash < 2 ^ 32, ∀ hash' < 2 ^ 32,
    (w.upEntries entries)[ecmpSlot (w.upEntries entries).length hash]? =
      (w.upEntries entries)[ecmpSlot (w.upEntries entries).length hash']? → hash = hash'

lemma ecmpShare_le_one (h : 2 ≤ (w.upEntries entries).length) (ha : SlotsApart w entries)
    (e : EntryPtr) : ecmpShare w entries e ≤ 1 := by
  rw [ecmpShare, Finset.card_le_one]
  intro hash hmem hash' hmem'
  rw [Finset.mem_filter, Finset.mem_range, chooseEcmp_eq_some h] at hmem hmem'
  exact ha hash hmem.1 hash' hmem'.1 (hmem.2.trans hmem'.2.symm)

lemma slotsApart_of_share (h : 2 ≤ (w.upEntries entries).length)
    (ha : ∀ hash < 2 ^ 32, ∃ e ∈ w.upEntries entries, (w.chooseEcmp entries hash).1 = .ok (some e))
    (hs : ∀ e ∈ w.upEntries entries, ecmpShare w entries e ≤ 1) : SlotsApart w entries := by
  intro hash hlt hash' hlt' heq
  obtain ⟨e, he, hchoose⟩ := ha hash hlt
  have hone := hs e he
  rw [ecmpShare, Finset.card_le_one] at hone
  have hslot := (chooseEcmp_eq_some h hash e).mp hchoose
  apply hone
  · exact Finset.mem_filter.mpr ⟨Finset.mem_range.mpr hlt, hchoose⟩
  · refine Finset.mem_filter.mpr ⟨Finset.mem_range.mpr hlt', ?_⟩
    rw [chooseEcmp_eq_some h, ← heq, hslot]

lemma huge_shares (hn : 2 ^ 32 < n) (x : ℕ) :
    (x = 2 ^ 32 / n ∨ x = (2 ^ 32 + (n - 1)) / n) ↔ x ≤ 1 := by
  have hfloor : 2 ^ 32 / n = 0 := Nat.div_eq_of_lt hn
  have hceil : (2 ^ 32 + (n - 1)) / n = 1 := by
    rw [Nat.div_eq_iff (by omega)]
    omega
  rw [hfloor, hceil]
  omega

/-- With two or more up candidates the last hash value is scaled to the position after them. Only
for lists of more than `2 ^ 32 + 1` candidates does the product wrap, and the position is inside. -/
theorem splitsEvenly_iff (w : WcmpWeights) (entries : List EntryPtr)
    (h : 1 ≤ (w.upEntries entries).length) :
    SplitsEvenly w entries ↔ (w.upEntries entries).length = 1 ∨
      2 ^ 32 + 1 < (w.upEntries entries).length ∧ SlotsApart w entries := by
  by_cases hone : (w.upEntries entries).length = 1
  · refine iff_of_true ?_ (Or.inl hone)
    obtain ⟨e, he⟩ := List.length_eq_one_iff.mp hone
    refine ⟨fun hash _ => ⟨e, by rw [he]; exact List.mem_singleton_self e,
      chooseEcmp_single he hash⟩, fun e' hmem => Or.inl ?_⟩
    rw [he, List.mem_singleton] at hmem
    rw [ecmpShare, Finset.filter_true_of_mem, Finset.card_range, hone, Nat.div_one]
    intro hash _
    rw [hmem, chooseEcmp_single he]
  · have htwo : 2 ≤ (w.upEntries entries).length := by omega
    rw [or_iff_right hone]
    by_cases hwrap : (w.upEntries entries).length ≤ 2 ^ 32 + 1
    · refine iff_of_false (fun heven => ?_) fun hhuge => hwrap.not_gt hhuge.1
      obtain ⟨e, -, hlast⟩ := heven.answers (2 ^ 32 - 1) (by norm_num)
      rw [chooseEcmp_eq_some htwo, ecmpSlot_last hwrap, List.getElem?_eq_none le_rfl] at hlast
      cases hlast
    · have hhuge : 2 ^ 32 + 1 < (w.upEntries entries).length := not_le.mp hwrap
      rw [and_iff_right hhuge]
      constructor
      · intro heven
        apply slotsApart_of_share htwo heven.answers
        intro e he
        exact (huge_shares (by omega) _).mp (heven.shares e he)
      · intro hapart
        refine ⟨fun hash _ => ?_, fun e _ => ?_⟩
        · have hlt := ecmpSlot_lt hhuge hash
          refine ⟨_, List.getElem_mem hlt, ?_⟩
          rw [chooseEcmp_eq_some htwo, List.getElem?_eq_getElem hlt]
        · exact (huge_shares (by omega) _).mpr (ecmpShare_le_one htwo hapart e)

def upOneAndTwo : WcmpWeights := ((WcmpWeights.new 1).setState 1 true).setState 2 true

def routesOneAndTwo : List EntryPtr :=
  [⟨0, .createNetworkRouteTo 0 0 1⟩, ⟨1, .createNetworkRouteTo 0 0 2⟩]

theorem splitsEvenly_single : SplitsEvenly upOneAndTwo [⟨0, .createNetworkRouteTo 0 0 1⟩] :=
  (splitsEvenly_iff upOneAndTwo _ (by decide)).mpr (Or.inl (by decide))

theorem not_splitsEvenly_two :
    (upOneAndTwo.upEntries routesOneAndTwo).length = 2 ∧
      (upOneAndTwo.chooseEcmp routesOneAndTwo (2 ^ 32 - 1)).1 = .error .outOfRange ∧
      ¬ SplitsEvenly upOneAndTwo routesOneAndTwo := by
  have hlast : (upOneAndTwo.chooseEcmp routesOneAndTwo (2 ^ 32 - 1)).1 = .error .outOfRange := by
    decide
  refine ⟨by decide, hlast, fun heven => ?_⟩
  obtain ⟨e, -, hchoose⟩ := heven.answers (2 ^ 32 - 1) (by norm_num)
  rw [hlast] at hchoose
  cases hchoose

end Split

end WcmpWeights

end SwarmSim.Wcmp
