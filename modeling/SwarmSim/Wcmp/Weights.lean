import SwarmSim.Machine.Loop
import SwarmSim.Machine.Pick
import SwarmSim.Ns3.Ipv4

/-! `WcmpWeights`: the interface states and the per-level interface weights of
one switch, and the weighted choice among equal cost entries. -/

namespace SwarmSim.Wcmp

open Machine Ns3

structure EntryPtr where
  address : ℕ
  entry : Ipv4RoutingTableEntry
  deriving DecidableEq

def EntryPtr.getInterface (p : EntryPtr) : ℕ := p.entry.interface

def defaultWcmpWeight : ℕ := 100

/-- `_GET_LEVELED_IF(l, i)`, in 32 bits. -/
def getLeveledIf (l i : ℕ) : ℕ := (l * 2 ^ 16 + i) % 2 ^ 32

structure WcmpWeights where
  levels : ℕ
  states : ℕ → Option Bool
  weights : ℕ → Option ℕ

namespace WcmpWeights

def new (levels : ℕ) : WcmpWeights := ⟨levels, fun _ => none, fun _ => none⟩

def isIfUp (w : WcmpWeights) (i : ℕ) : Bool := (w.states i).getD false

def getWeight (w : WcmpWeights) (i level : ℕ) : ℕ := (w.weights (getLeveledIf level i)).getD 0

def setState (i : ℕ) (up : Bool) (w : WcmpWeights) : WcmpWeights :=
  { w with states := Function.update w.states i (some up) }

def setWeight (i level weight : ℕ) (w : WcmpWeights) : WcmpWeights :=
  { w with weights := Function.update w.weights (getLeveledIf level i) (some weight) }

def setDefaults (i : ℕ) (w : WcmpWeights) : WcmpWeights :=
  forRange (fun level w => w.setWeight i level defaultWcmpWeight) w.levels w

/-- `add_interface`; `isUp` is the answer of `m_ipv4->IsUp(if_index)`. -/
def addInterface (i : ℕ) (isUp : Bool) (w : WcmpWeights) : WcmpWeights :=
  if (w.states i).isSome then w else (w.setState i isUp).setDefaults i

/-- `reset`, from interface 1 on, for a stack of `n` interfaces. -/
def reset (n : ℕ) (isUp : ℕ → Bool) (w : WcmpWeights) : WcmpWeights :=
  forRange (fun k w => (w.setState (k + 1) (isUp (k + 1))).setDefaults (k + 1)) (n - 1) w

-- Reading a map with `operator[]` stores the default value where the key is missing.
def touchState (i : ℕ) (w : WcmpWeights) : WcmpWeights := w.setState i (w.isIfUp i)

def touchWeight (i level : ℕ) (w : WcmpWeights) : WcmpWeights :=
  w.setWeight i level (w.getWeight i level)

structure Tally where
  weights : WcmpWeights
  sum : ℕ
  upEntries : List (EntryPtr × ℕ)

def Tally.add (level : ℕ) (t : Tally) (it : EntryPtr) : Tally :=
  let i := it.getInterface
  let w := t.weights.touchState i
  if w.isIfUp i then
    let sum := (t.sum + w.getWeight i level) % 2 ^ 32
    ⟨w.touchWeight i level, sum, t.upEntries ++ [(it, sum)]⟩
  else ⟨w, t.sum, t.upEntries⟩

def tally (entries : List EntryPtr) (level : ℕ) (w : WcmpWeights) : Tally :=
  entries.foldl (Tally.add level) ⟨w, 0, []⟩

def choose (entries : List EntryPtr) (hash level : ℕ) (w : WcmpWeights) :
    Except Fault (Option EntryPtr) × WcmpWeights :=
  let t := tally entries level w
  if t.sum = 0 then (.error (.abort "!sum"), t.weights)
  else match t.upEntries with
    | [] => (.ok none, t.weights)
    | [e] => (.ok (some e.1), t.weights)
    | up =>
      match pick (hash % t.sum) up with
      | some e => (.ok (some e), t.weights)
      | none => (.ok (up.getLast?.map Prod.fst), t.weights)

def upWeights (w : WcmpWeights) (level : ℕ) (entries : List EntryPtr) : List (EntryPtr × ℕ) :=
  (entries.filter (fun e => w.isIfUp e.getInterface)).map
    (fun e => (e, w.getWeight e.getInterface level))

structure Same (w v : WcmpWeights) : Prop where
  levels : w.levels = v.levels
  isIfUp (i : ℕ) : w.isIfUp i = v.isIfUp i
  getWeight (i level : ℕ) : w.getWeight i level = v.getWeight i level

lemma Same.refl (w : WcmpWeights) : Same w w := ⟨rfl, fun _ => rfl, fun _ _ => rfl⟩

lemma Same.symm {w v : WcmpWeights} (h : Same w v) : Same v w :=
  ⟨h.levels.symm, fun i => (h.isIfUp i).symm, fun i l => (h.getWeight i l).symm⟩

lemma Same.trans {u v w : WcmpWeights} (h : Same u v) (h' : Same v w) : Same u w :=
  ⟨h.levels.trans h'.levels, fun i => (h.isIfUp i).trans (h'.isIfUp i),
    fun i l => (h.getWeight i l).trans (h'.getWeight i l)⟩

section Queries

variable (w : WcmpWeights) (i j l k : ℕ)

@[simp] lemma isIfUp_setState (up : Bool) :
    (w.setState i up).isIfUp j = if j = i then up else w.isIfUp j := by
  by_cases h : j = i
  · subst h; simp [isIfUp, setState]
  · simp [isIfUp, setState, h]

@[simp] lemma getWeight_setState (up : Bool) : (w.setState i up).getWeight j l = w.getWeight j l := rfl

@[simp] lemma isIfUp_setWeight (x : ℕ) : (w.setWeight i l x).isIfUp j = w.isIfUp j := rfl

@[simp] lemma getWeight_setWeight (x : ℕ) : (w.setWeight i l x).getWeight j k =
    if getLeveledIf k j = getLeveledIf l i then x else w.getWeight j k := by
  by_cases h : getLeveledIf k j = getLeveledIf l i
  · simp [getWeight, setWeight, h]
  · simp [getWeight, setWeight, h]

@[simp] lemma states_setWeight (x : ℕ) : (w.setWeight i l x).states = w.states := rfl

@[simp] lemma levels_setState (up : Bool) : (w.setState i up).levels = w.levels := rfl

@[simp] lemma levels_setWeight (x : ℕ) : (w.setWeight i l x).levels = w.levels := rfl

lemma touchState_same : Same (w.touchState i) w := by
  refine ⟨rfl, fun j => ?_, fun j l => rfl⟩
  by_cases h : j = i <;> simp [touchState, h]

lemma touchWeight_same : Same (w.touchWeight i l) w := by
  refine ⟨rfl, fun j => rfl, fun j k => ?_⟩
  rw [touchWeight, getWeight_setWeight]
  split
  · rename_i h; simp [getWeight, h]
  · rfl

lemma setDefaults_levels : (w.setDefaults i).levels = w.levels :=
  forRange_preserves (P := fun v : WcmpWeights => v.levels = w.levels) rfl fun _ _ _ h => h

lemma setDefaults_states : (w.setDefaults i).states = w.states :=
  forRange_preserves (P := fun v : WcmpWeights => v.states = w.states) rfl fun _ _ _ h => h

lemma getWeight_setDefaults (hi : i < 2 ^ 16) (hj : j < 2 ^ 16) (hl : w.levels ≤ 2 ^ 16)
    (hk : k < 2 ^ 16) : (w.setDefaults i).getWeight j k =
      if j = i ∧ k < w.levels then defaultWcmpWeight else w.getWeight j k := by
  rw [setDefaults]
  refine forRange_invariant (n := w.levels) (s := w)
    (P := fun m v => v.getWeight j k = if j = i ∧ k < m then defaultWcmpWeight else w.getWeight j k)
    (by simp) ?_
  intro m v hm hv
  rw [getWeight_setWeight, hv, getLeveledIf, getLeveledIf]
  have hkey : (k * 2 ^ 16 + j) % 2 ^ 32 = (m * 2 ^ 16 + i) % 2 ^ 32 ↔ j = i ∧ k = m := by omega
  simp only [hkey]
  by_cases hji : j = i
  · by_cases hkm : k = m
    · simp [hji, hkm]
    · have : k < m + 1 ↔ k < m := by omega
      simp [hji, hkm, this]
  · simp [hji]

end Queries

lemma getLeveledIf_inj {l i k j : ℕ} (hi : i < 2 ^ 16) (hj : j < 2 ^ 16) (hl : l < 2 ^ 16)
    (hk : k < 2 ^ 16) : getLeveledIf l i = getLeveledIf k j ↔ l = k ∧ i = j := by
  rw [getLeveledIf, getLeveledIf]
  omega

section Choice

variable {w v : WcmpWeights} {entries : List EntryPtr} {hash level : ℕ}

lemma upWeights_cons_up {e : EntryPtr} (hu : w.isIfUp e.getInterface = true) (es : List EntryPtr) :
    w.upWeights level (e :: es) =
      (e, w.getWeight e.getInterface level) :: w.upWeights level es := by
  simp [upWeights, hu]

lemma upWeights_cons_down {e : EntryPtr} (hu : ¬ w.isIfUp e.getInterface = true)
    (es : List EntryPtr) : w.upWeights level (e :: es) = w.upWeights level es := by
  simp [upWeights, hu]

lemma Same.upWeights (h : Same w v) : w.upWeights level entries = v.upWeights level entries := by
  simp only [WcmpWeights.upWeights, h.isIfUp, h.getWeight]

lemma tally_same (t : Tally) (h : Same t.weights w) :
    Same (entries.foldl (Tally.add level) t).weights w := by
  induction entries generalizing t with
  | nil => exact h
  | cons e es ih =>
    apply ih
    rw [Tally.add]
    split
    · exact ((touchWeight_same _ _ _).trans (touchState_same _ _)).trans h
    · exact (touchState_same _ _).trans h

lemma choose_weights : (choose entries hash level w).2 = (tally entries level w).weights := by
  simp only [choose]
  split
  · rfl
  · split <;> first | rfl | (split <;> rfl)

lemma choose_same : Same (choose entries hash level w).2 w := by
  rw [choose_weights]
  exact tally_same _ (Same.refl w)

lemma tally_from (w : WcmpWeights) (entries : List EntryPtr) (level : ℕ) (t : Tally)
    (h : Same t.weights w) (hs : t.sum < 2 ^ 32) :
    (entries.foldl (Tally.add level) t).sum = (t.sum + total (w.upWeights level entries)) % 2 ^ 32 ∧
    (entries.foldl (Tally.add level) t).upEntries =
      t.upEntries ++ runningSums (2 ^ 32) t.sum (w.upWeights level entries) := by
  induction entries generalizing t with
  | nil =>
    have hmod := Nat.mod_eq_of_lt hs
    simpa [WcmpWeights.upWeights, runningSums] using hmod.symm
  | cons e es ih =>
    have htouch := touchState_same t.weights e.getInterface
    have hup : (t.weights.touchState e.getInterface).isIfUp e.getInterface = w.isIfUp e.getInterface := by
      rw [htouch.isIfUp, h.isIfUp]
    have hw : (t.weights.touchState e.getInterface).getWeight e.getInterface level =
        w.getWeight e.getInterface level := by rw [htouch.getWeight, h.getWeight]
    rw [List.foldl_cons]
    by_cases hu : w.isIfUp e.getInterface = true
    · have hadd : Tally.add level t e =
          ⟨(t.weights.touchState e.getInterface).touchWeight e.getInterface level,
            (t.sum + w.getWeight e.getInterface level) % 2 ^ 32,
            t.upEntries ++ [(e, (t.sum + w.getWeight e.getInterface level) % 2 ^ 32)]⟩ := by
        simp only [Tally.add, hup, hu, hw, if_true]
      obtain ⟨hsum, hent⟩ := ih (Tally.add level t e)
        (by rw [hadd]; exact ((touchWeight_same _ _ _).trans htouch).trans h)
        (by rw [hadd]; exact Nat.mod_lt _ (by norm_num))
      rw [hadd] at hsum hent ⊢
      rw [upWeights_cons_up hu, total_cons, runningSums]
      refine ⟨?_, by simpa using hent⟩
      rw [hsum, Nat.mod_add_mod, Nat.add_assoc]
    · have hadd : Tally.add level t e = ⟨t.weights.touchState e.getInterface, t.sum, t.upEntries⟩ := by
        simp only [Tally.add, hup, hu, if_false, Bool.false_eq_true]
      rw [hadd, upWeights_cons_down hu]
      exact ih _ (htouch.trans h) hs

lemma tally_sum : (tally entries level w).sum = total (w.upWeights level entries) % 2 ^ 32 := by
  have h := (tally_from w entries level ⟨w, 0, []⟩ (Same.refl w) (by norm_num)).1
  rwa [Nat.zero_add] at h

lemma tally_upEntries :
    (tally entries level w).upEntries = runningSums (2 ^ 32) 0 (w.upWeights level entries) :=
  (tally_from w entries level ⟨w, 0, []⟩ (Same.refl w) (by norm_num)).2

def answer (up : List (EntryPtr × ℕ)) (hash : ℕ) : Except Fault (Option EntryPtr) :=
  if total up % 2 ^ 32 = 0 then .error (.abort "!sum")
  else match runningSums (2 ^ 32) 0 up with
    | [] => .ok none
    | [e] => .ok (some e.1)
    | es =>
      match pick (hash % (total up % 2 ^ 32)) es with
      | some e => .ok (some e)
      | none => .ok (es.getLast?.map Prod.fst)

lemma choose_answer : (choose entries hash level w).1 = answer (w.upWeights level entries) hash := by
  simp only [choose, answer, tally_sum, tally_upEntries]
  split
  · rfl
  · split <;> first | rfl | (split <;> rfl)

lemma answer_zero {up : List (EntryPtr × ℕ)} (h : total up = 0) (hash : ℕ) :
    answer up hash = .error (.abort "!sum") := by
  simp [answer, h]

lemma pick_up {up : List (EntryPtr × ℕ)} (h : total up < 2 ^ 32) (hpos : 0 < total up) (hash : ℕ) :
    ∃ e, pick (hash % total up) (runningSums (2 ^ 32) 0 up) = some e :=
  pick_total (by rwa [Nat.zero_add]) (by rw [Nat.zero_add]; exact Nat.mod_lt hash hpos) (Nat.zero_le _)

lemma answer_of_sum {up : List (EntryPtr × ℕ)} (h : total up < 2 ^ 32) (hpos : 0 < total up)
    (hash : ℕ) : answer up hash = .ok (pick (hash % total up) (runningSums (2 ^ 32) 0 up)) := by
  obtain ⟨e, he⟩ := pick_up h hpos hash
  rw [answer, Nat.mod_eq_of_lt h, if_neg (by omega), he]
  split
  · rename_i hn
    rw [hn, pick_nil] at he
    cases he
  · rename_i e' hs
    rw [hs, pick_cons] at he
    split at he
    · rw [Option.some.inj he]
    · simp at he
  · simp only [he]

lemma answer_some {up : List (EntryPtr × ℕ)} (h : total up < 2 ^ 32) (hpos : 0 < total up) (hash : ℕ) :
    ∃ e w, answer up hash = .ok (some e) ∧ (e, w) ∈ up ∧ 0 < w := by
  obtain ⟨e, he⟩ := pick_up h hpos hash
  obtain ⟨w, hw, hw0⟩ := pick_positive (by rwa [Nat.zero_add]) (Nat.zero_le _) he
  exact ⟨e, w, by rw [answer_of_sum h hpos, he], hw, hw0⟩

lemma answer_hits {up : List (EntryPtr × ℕ)} (h : total up < 2 ^ 32) {e : EntryPtr} {w : ℕ}
    (he : (e, w) ∈ up) (hw : 0 < w) : ∃ hash, answer up hash = .ok (some e) := by
  obtain ⟨r, -, hr, hp⟩ := pick_hits (m := 2 ^ 32) (a := 0) (by rwa [Nat.zero_add]) he hw
  rw [Nat.zero_add] at hr
  exact ⟨r, by rw [answer_of_sum h (by omega), Nat.mod_eq_of_lt hr, hp]⟩

end Choice

/-- Two tables that no operation can tell apart: `add_interface` also asks which interfaces
have a state. -/
structure Alike (w v : WcmpWeights) : Prop where
  states : w.states = v.states
  same : Same w v

section Alike

variable {w v : WcmpWeights} {entries : List EntryPtr} {hash level i : ℕ}

lemma Alike.refl (w : WcmpWeights) : Alike w w := ⟨rfl, .refl w⟩

lemma Alike.symm (h : Alike w v) : Alike v w := ⟨h.states.symm, h.same.symm⟩

lemma Alike.trans {u v w : WcmpWeights} (h : Alike u v) (h' : Alike v w) : Alike u w :=
  ⟨h.states.trans h'.states, h.same.trans h'.same⟩

lemma Alike.setState (h : Alike w v) (up : Bool) : Alike (w.setState i up) (v.setState i up) := by
  refine ⟨?_, h.same.levels, fun j => ?_, h.same.getWeight⟩
  · simp only [WcmpWeights.setState, h.states]
  · rw [isIfUp_setState, isIfUp_setState, h.same.isIfUp]

lemma Alike.setWeight (h : Alike w v) (x : ℕ) :
    Alike (w.setWeight i level x) (v.setWeight i level x) := by
  refine ⟨h.states, h.same.levels, h.same.isIfUp, fun j k => ?_⟩
  rw [getWeight_setWeight, getWeight_setWeight, h.same.getWeight]

lemma Alike.setDefaults (h : Alike w v) : Alike (w.setDefaults i) (v.setDefaults i) := by
  rw [WcmpWeights.setDefaults, WcmpWeights.setDefaults, h.same.levels]
  exact forRange_related h fun _ _ _ _ hr => hr.setWeight _

lemma Alike.addInterface (h : Alike w v) (isUp : Bool) :
    Alike (w.addInterface i isUp) (v.addInterface i isUp) := by
  rw [WcmpWeights.addInterface, WcmpWeights.addInterface, h.states]
  split
  · exact h
  · exact (h.setState _).setDefaults

lemma Alike.add {t u : Tally} (h : Alike t.weights u.weights) (e : EntryPtr) :
    Alike (t.add level e).weights (u.add level e).weights := by
  have htouch : Alike (t.weights.touchState e.getInterface) (u.weights.touchState e.getInterface) := by
    rw [touchState, touchState, h.same.isIfUp]
    exact h.setState _
  simp only [Tally.add, htouch.same.isIfUp]
  split
  · rw [touchWeight, touchWeight, htouch.same.getWeight]
    exact htouch.setWeight _
  · exact htouch

lemma Alike.tally (t u : Tally) (h : Alike t.weights u.weights) :
    Alike (entries.foldl (Tally.add level) t).weights (entries.foldl (Tally.add level) u).weights := by
  induction entries generalizing t u with
  | nil => exact h
  | cons e es ih => exact ih _ _ (h.add e)

lemma Alike.choose (h : Alike w v) :
    Alike (w.choose entries hash level).2 (v.choose entries hash level).2 := by
  rw [choose_weights, choose_weights]
  exact Alike.tally _ _ h

lemma states_add (t : Tally) (e : EntryPtr) (level : ℕ) :
    (t.add level e).weights.states = (t.weights.touchState e.getInterface).states := by
  simp only [Tally.add]
  split <;> rfl

lemma touchState_states (h : (w.states i).isSome) : (w.touchState i).states = w.states := by
  obtain ⟨b, hb⟩ := Option.isSome_iff_exists.mp h
  rw [touchState, WcmpWeights.setState, isIfUp, hb, Option.getD_some, ← hb, Function.update_eq_self]

lemma touchState_tracked (w : WcmpWeights) (i : ℕ) : ((w.touchState i).states i).isSome := by
  simp [touchState, WcmpWeights.setState]

lemma setState_tracked {j : ℕ} {up : Bool} (h : (w.states j).isSome) :
    ((w.setState i up).states j).isSome := by
  by_cases hj : j = i
  · subst hj; simp [WcmpWeights.setState]
  · simpa [WcmpWeights.setState, hj] using h

lemma addInterface_tracked {j : ℕ} {up : Bool} (h : (w.states j).isSome) :
    ((w.addInterface i up).states j).isSome := by
  rw [WcmpWeights.addInterface]
  split
  · exact h
  · rw [setDefaults_states]
    exact setState_tracked h

lemma choose_alike (h : ∀ e ∈ entries, (w.states e.getInterface).isSome) (hash level : ℕ) :
    Alike (w.choose entries hash level).2 w := by
  refine ⟨?_, choose_same⟩
  rw [choose_weights, WcmpWeights.tally]
  have hfold : ∀ t : Tally, t.weights.states = w.states →
      (entries.foldl (Tally.add level) t).weights.states = w.states := by
    induction entries with
    | nil => exact fun t ht => ht
    | cons e es ih =>
      intro t ht
      apply ih (fun e' he' => h e' (List.mem_cons_of_mem e he'))
      rw [states_add, touchState_states (by rw [ht]; exact h e List.mem_cons_self), ht]
  exact hfold _ rfl

lemma tally_tracked {j : ℕ} (t : Tally)
    (h : (t.weights.states j).isSome ∨ ∃ e ∈ entries, e.getInterface = j) :
    ((entries.foldl (Tally.add level) t).weights.states j).isSome := by
  induction entries generalizing t with
  | nil => simpa using h
  | cons e es ih =>
    apply ih
    rw [states_add]
    rcases h with h | ⟨e', he', rfl⟩
    · exact Or.inl (setState_tracked h)
    · rcases List.mem_cons.mp he' with rfl | he'
      · exact Or.inl (touchState_tracked _ _)
      · exact Or.inr ⟨e', he', rfl⟩

lemma choose_tracks {e : EntryPtr} (h : e ∈ entries) :
    (((w.choose entries hash level).2).states e.getInterface).isSome := by
  rw [choose_weights]
  exact tally_tracked _ (Or.inr ⟨e, h, rfl⟩)

lemma choose_tracked {j : ℕ} (h : (w.states j).isSome) :
    (((w.choose entries hash level).2).states j).isSome := by
  rw [choose_weights]
  exact tally_tracked _ (Or.inl h)

end Alike

end WcmpWeights

end SwarmSim.Wcmp
