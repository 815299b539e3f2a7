import Mathlib.Data.BitVec
import SwarmSim.Flows.Migration
import SwarmSim.Machine.Pick

namespace SwarmSim.Flows

open Machine FlowScheduler

def sharesOf (l : List (ℕ × BitVec 8)) : List (ℕ × ℕ) := l.map fun e => (e.1, e.2.toNat)

/-- How many of a hundred draws end at each target: the running sum is compared before the share
of the target itself is added. -/
def handed : ℕ → ℕ → List (ℕ × ℕ) → List (ℕ × ℕ)
  | _, _, [] => []
  | c, sum, e :: l => (e.1, min 100 (sum + 1) - c) :: handed (min 100 (sum + 1)) (sum + e.2) l

/-- Every target other than the source itself has the percentage of the target before it, and the
first has 1; it has one less where the percentages before it add up to 100. -/
def Staggered (src : ℕ) : ℕ → ℕ → List (ℕ × ℕ) → Prop
  | _, _, [] => True
  | before, sum, e :: l =>
    (e.1 ≠ src → e.2 = if sum = 100 then before - 1 else before) ∧
      Staggered src e.2 (sum + e.2) l

section Draws

variable {src c sum : ℕ} {l : List (ℕ × BitVec 8)}

lemma handed_keys (c sum : ℕ) (l : List (ℕ × ℕ)) :
    (handed c sum l).map Prod.fst = l.map Prod.fst := by
  induction l generalizing c sum with
  | nil => rfl
  | cons e l ih => rw [handed, List.map_cons, ih, List.map_cons]

lemma handed_total (l : List (ℕ × ℕ)) (hc : c ≤ min 100 (sum + 1)) :
    c + total (handed c sum l) ≤ 100 := by
  induction l generalizing c sum with
  | nil =>
    rw [handed, total_nil]
    omega
  | cons e l ih =>
    have htail : min 100 (sum + 1) +
        total (handed (min 100 (sum + 1)) (sum + e.2) l) ≤ 100 := ih (by omega)
    rw [handed, total_cons]
    dsimp only
    omega

lemma getMigrationSource_eq_pick {r : ℕ} (hr : r < 100) (hsum : sum + total (sharesOf l) ≤ 100)
    (hc : c ≤ min 100 (sum + 1)) :
    getMigrationSource (BitVec.ofNat 8 r) src (BitVec.ofNat 8 sum) l =
      (pick r (runningSums 101 c (handed c sum (sharesOf l)))).getD src := by
  induction l generalizing c sum with
  | nil => rfl
  | cons e l ih =>
    obtain ⟨t, p⟩ := e
    have hcons : sharesOf ((t, p) :: l) = (t, p.toNat) :: sharesOf l := rfl
    rw [hcons, total_cons] at hsum
    dsimp only at hsum
    have hgt : BitVec.ofNat 8 r > BitVec.ofNat 8 sum ↔ ¬ r < min 100 (sum + 1) := by
      rw [gt_iff_lt, BitVec.lt_def, BitVec.toNat_ofNat, BitVec.toNat_ofNat]
      omega
    have hnext : BitVec.ofNat 8 sum + p = BitVec.ofNat 8 (sum + p.toNat) := by
      rw [BitVec.ofNat_add, BitVec.ofNat_toNat, BitVec.setWidth_eq]
    have hrun : (c + (min 100 (sum + 1) - c)) % 101 = min 100 (sum + 1) := by omega
    rw [getMigrationSource, hcons, handed, runningSums, hrun, pick_cons]
    simp only [hgt]
    by_cases hlt : r < min 100 (sum + 1)
    · simp only [hlt, not_true_eq_false, if_false, if_true, Option.getD_some]
    · simp only [hlt, not_false_eq_true, if_true, if_false]
      rw [hnext]
      exact ih (by omega) (by omega)

section Staggering

variable {before : ℕ} {u : List (ℕ × ℕ)}

lemma staggered_iff (hkeys : (u.map Prod.fst).Nodup) (hsum : sum + total u ≤ 100)
    (hhead : min 100 (sum + 1) - c = if sum = 100 then before - 1 else before) :
    (∀ x, x ≠ src → share x (handed c sum u) = share x u) ↔ Staggered src before sum u := by
  induction u generalizing c sum before with
  | nil => exact iff_of_true (fun _ _ => rfl) trivial
  | cons e u ih =>
    rw [List.map_cons, List.nodup_cons] at hkeys
    rw [total_cons] at hsum
    have hhere : share e.1 (handed (min 100 (sum + 1)) (sum + e.2) u) = 0 ∧ share e.1 u = 0 :=
      ⟨share_eq_zero (by rw [handed_keys]; exact hkeys.1), share_eq_zero hkeys.1⟩
    have htail := @ih (min 100 (sum + 1)) (sum + e.2) e.2 hkeys.2 (by omega) (by split_ifs <;> omega)
    rw [Staggered, ← htail, handed, hhead]
    constructor
    · intro h
      refine ⟨fun he => ?_, fun x hx => ?_⟩
      · have hx := h e.1 he
        rw [share_cons, share_cons, if_pos rfl, if_pos rfl, hhere.1, hhere.2] at hx
        exact hx.symm
      · by_cases hxe : e.1 = x
        · rw [← hxe, hhere.1, hhere.2]
        · have hx := h x hx
          rwa [share_cons, share_cons, if_neg hxe, if_neg hxe, Nat.zero_add, Nat.zero_add] at hx
    · rintro ⟨he, h⟩ x hx
      rw [share_cons, share_cons, h x hx]
      by_cases hxe : e.1 = x
      · rw [if_pos hxe, if_pos hxe, ← he (hxe ▸ hx)]
      · rw [if_neg hxe, if_neg hxe]

lemma Staggered.total_handed (h : Staggered src before sum u) (hsum : sum + total u ≤ 100)
    (hhead : min 100 (sum + 1) - c = if sum = 100 then before - 1 else before) :
    total (handed c sum u) + share src u = total u + share src (handed c sum u) := by
  induction u generalizing c sum before with
  | nil => rfl
  | cons e u ih =>
    rw [total_cons] at hsum
    obtain ⟨he, htail⟩ := h
    have hrest := @ih (min 100 (sum + 1)) (sum + e.2) e.2 htail (by omega) (by split_ifs <;> omega)
    rw [handed, hhead, total_cons, total_cons, share_cons, share_cons]
    dsimp only
    by_cases hsrc : e.1 = src
    · simp only [hsrc, if_true]
      omega
    · simp only [hsrc, if_false, ← he hsrc]
      omega

end Staggering

end Draws

namespace Targets

variable (m : Targets)

lemma sharesOf_inOrder : (sharesOf m.inOrder).Perm (m.entries.map fun e => (e.1, e.2.toNat)) := by
  have hperm := (List.perm_insertionSort (·.1 ≤ ·.1) (m.entries.map fun e => (e.1, e.2))).map
    fun e => (e.1, e.2.toNat)
  rwa [List.map_map] at hperm

lemma total_sharesOf : Machine.total (sharesOf m.inOrder) = m.total := by
  rw [total_perm m.sharesOf_inOrder, Machine.total, List.map_map]
  rfl

lemma share_sharesOf (t : ℕ) : share t (sharesOf m.inOrder) = m.percent t := by
  have hentries : ∀ l : List (Sigma fun _ : ℕ => BitVec 8), l.NodupKeys →
      share t (l.map fun e => (e.1, e.2.toNat)) = ((l.dlookup t).getD 0).toNat := by
    intro l
    induction l with
    | nil => exact fun _ => rfl
    | cons e l ih =>
      intro hl
      obtain ⟨hnew, hrest⟩ := List.nodupKeys_cons.mp hl
      rw [List.map_cons, share_cons, ih hrest]
      by_cases ht : e.1 = t
      · subst ht
        rw [if_pos rfl, List.dlookup_cons_eq, List.dlookup_eq_none.mpr hnew]
        rfl
      · rw [if_neg ht, List.dlookup_cons_ne l e (Ne.symm ht), Nat.zero_add]
  rw [share_perm m.sharesOf_inOrder, hentries m.entries m.nodupKeys]
  rfl

lemma nodup_sharesOf : ((sharesOf m.inOrder).map Prod.fst).Nodup := by
  rw [(m.sharesOf_inOrder.map Prod.fst).nodup_iff, List.map_map]
  exact m.nodupKeys

end Targets

/-- Among the hundred draws every target is drawn as often as its percentage says, and the source
itself for the rest, exactly when the table is staggered. -/
theorem migration_percentages_iff (m : Targets) (src : ℕ) (hm : m.total ≤ 100) :
    (∀ t, ((Finset.range 100).filter fun r =>
        getMigrationSource (BitVec.ofNat 8 r) src 0 m.inOrder = t).card =
      m.percent t + if t = src then 100 - m.total else 0) ↔
    Staggered src 1 0 (sharesOf m.inOrder) := by
  have hsum : 0 + Machine.total (sharesOf m.inOrder) ≤ 100 := by rwa [Nat.zero_add, m.total_sharesOf]
  have hbound : Machine.total (handed 0 0 (sharesOf m.inOrder)) ≤ 100 := by
    rw [← Nat.zero_add (Machine.total _)]
    exact handed_total _ (Nat.zero_le _)
  have hcount : ∀ t, ((Finset.range 100).filter fun r =>
      getMigrationSource (BitVec.ofNat 8 r) src 0 m.inOrder = t).card =
        share t (handed 0 0 (sharesOf m.inOrder)) +
          if t = src then 100 - Machine.total (handed 0 0 (sharesOf m.inOrder)) else 0 := by
    intro t
    rw [← card_pick_getD (m := 101) (by omega) hbound]
    congr 1
    apply Finset.filter_congr
    intro r hr
    rw [← getMigrationSource_eq_pick (Finset.mem_range.mp hr) hsum (Nat.zero_le _)]
    rfl
  have hstaggered := @staggered_iff src 0 0 1 (sharesOf m.inOrder) m.nodup_sharesOf hsum rfl
  simp only [hcount, ← m.share_sharesOf, ← m.total_sharesOf]
  constructor
  · intro h
    refine hstaggered.mp fun t ht => ?_
    have heq := h t
    rwa [if_neg ht, if_neg ht] at heq
  · intro h t
    by_cases ht : t = src
    · have htotal := @Staggered.total_handed src 0 0 1 _ h hsum rfl
      rw [if_pos ht, if_pos ht, ht]
      omega
    · rw [if_neg ht, if_neg ht, hstaggered.mpr h t ht]

def twoOnes : Targets := AList.insert 4 1 (AList.insert 2 1 ∅)

theorem migration_percentages_iff_ones :
    (∀ t, ((Finset.range 100).filter fun r =>
        getMigrationSource (BitVec.ofNat 8 r) 0 0 twoOnes.inOrder = t).card =
      twoOnes.percent t + if t = 0 then 100 - twoOnes.total else 0) ↔
    Staggered 0 1 0 (sharesOf twoOnes.inOrder) :=
  migration_percentages_iff twoOnes 0 (by decide)

theorem migration_percentages_missed :
    ¬ ∀ (m : Targets) (src : ℕ), m.total ≤ 100 → ∀ t,
      ((Finset.range 100).filter fun r =>
        getMigrationSource (BitVec.ofNat 8 r) src 0 m.inOrder = t).card =
      m.percent t + if t = src then 100 - m.total else 0 := by
  intro h
  have htwo := h (AList.insert 2 50 ∅) 0 (by decide) 2
  revert htwo
  decide

/-- `host` is the first of the `targets` at which the draw is within the percentages before it,
added to `sum` in eight bits, or the source if there is none. -/
def Drawn (r : BitVec 8) (src : ℕ) (sum : BitVec 8) (targets : List (ℕ × BitVec 8)) (host : ℕ) :
    Prop :=
  (∃ i p, targets[i]? = some (host, p) ∧ r ≤ sum + ((targets.take i).map Prod.snd).sum ∧
    ∀ j < i, sum + ((targets.take j).map Prod.snd).sum < r) ∨
  host = src ∧ ∀ j < targets.length, sum + ((targets.take j).map Prod.snd).sum < r

section Records

variable {r sum p : BitVec 8} {src t host : ℕ} {targets : List (ℕ × BitVec 8)}

lemma sum_take_zero (l : List (ℕ × BitVec 8)) : sum + ((l.take 0).map Prod.snd).sum = sum :=
  BitVec.add_zero sum

lemma drawn_here (h : r ≤ sum) : Drawn r src sum ((t, p) :: targets) host ↔ host = t := by
  have hstart : ¬ sum + ((((t, p) :: targets).take 0).map Prod.snd).sum < r := by
    rw [sum_take_zero]
    exact BitVec.not_lt.mpr h
  constructor
  · rintro (⟨i, q, hi, -, hlt⟩ | ⟨-, hlt⟩)
    · cases i with
      | zero => exact (Prod.mk.inj (Option.some.inj hi)).1.symm
      | succ i => exact absurd (hlt 0 (Nat.succ_pos i)) hstart
    · exact absurd (hlt 0 (Nat.succ_pos _)) hstart
  · rintro rfl
    exact Or.inl ⟨0, p, rfl, BitVec.not_lt.mp hstart, fun j hj => absurd hj (Nat.not_lt_zero j)⟩

lemma drawn_later (h : sum < r) :
    Drawn r src sum ((t, p) :: targets) host ↔ Drawn r src (sum + p) targets host := by
  have hstep : ∀ j, sum + ((((t, p) :: targets).take (j + 1)).map Prod.snd).sum =
      sum + p + ((targets.take j).map Prod.snd).sum := by
    intro j
    rw [List.take_succ_cons, List.map_cons, List.sum_cons, BitVec.add_assoc]
  have hstart : sum + ((((t, p) :: targets).take 0).map Prod.snd).sum < r := by
    rwa [sum_take_zero]
  constructor
  · rintro (⟨i, q, hi, hle, hlt⟩ | ⟨hsrc, hlt⟩)
    · cases i with
      | zero => exact absurd hstart (BitVec.not_lt.mpr hle)
      | succ i =>
        rw [hstep] at hle
        refine Or.inl ⟨i, q, hi, hle, fun j hj => ?_⟩
        rw [← hstep]
        exact hlt (j + 1) (Nat.succ_lt_succ hj)
    · refine Or.inr ⟨hsrc, fun j hj => ?_⟩
      rw [← hstep]
      exact hlt (j + 1) (Nat.succ_lt_succ hj)
  · rintro (⟨i, q, hi, hle, hlt⟩ | ⟨hsrc, hlt⟩)
    · refine Or.inl ⟨i + 1, q, hi, by rwa [hstep], fun j hj => ?_⟩
      cases j with
      | zero => exact hstart
      | succ j =>
        rw [hstep]
        exact hlt j (Nat.lt_of_succ_lt_succ hj)
    · refine Or.inr ⟨hsrc, fun j hj => ?_⟩
      cases j with
      | zero => exact hstart
      | succ j =>
        rw [hstep]
        exact hlt j (Nat.lt_of_succ_lt_succ hj)

lemma drawn_iff : Drawn r src sum targets host ↔ getMigrationSource r src sum targets = host := by
  induction targets generalizing sum with
  | nil =>
    rw [getMigrationSource]
    constructor
    · rintro (⟨i, q, hi, -⟩ | ⟨hsrc, -⟩)
      · cases hi
      · exact hsrc.symm
    · exact fun hsrc => Or.inr ⟨hsrc.symm, fun j hj => absurd hj (Nat.not_lt_zero j)⟩
  | cons e targets ih =>
    obtain ⟨t, p⟩ := e
    rw [getMigrationSource]
    by_cases h : r > sum
    · rw [if_pos h, drawn_later h, ih]
    · rw [if_neg h, drawn_here (BitVec.not_lt.mp h), eq_comm]

end Records

lemma getNextFlow_migrated {fs : FlowScheduler} {m : Targets}
    (h : fs.migrations.lookup (fs.currentFlow.read fs.stream).1.src = some m) :
    fs.getNextFlow.currentFlow = { (fs.currentFlow.read fs.stream).1 with
      dst := getMigrationSource (BitVec.ofNat 8 (fs.rand 0 % 100))
        (fs.currentFlow.read fs.stream).1.src 0 m.inOrder % 2 ^ 16 } := by
  rw [getNextFlow]
  simp only [h]

structure MovesSender (migrations : AList fun _ : ℕ => Targets) (f g : HostFlow) : Prop where
  dst : g.dst = f.dst
  size : g.size = f.size
  tArrival : g.tArrival = f.tArrival
  src : g.src = f.src ∨ ∃ targets ∈ migrations.lookup f.src, g.src ∈ targets
  unmigrated : (∀ targets ∈ migrations.lookup f.src, targets.total = 0) → g = f

/-- The flow handed over for a record is right when nothing is stored for its source, or when the
host that is drawn in place of the source happens to be the destination. -/
theorem getNextFlow_movesSender_iff (fs : FlowScheduler) :
    MovesSender fs.migrations (fs.currentFlow.read fs.stream).1 fs.getNextFlow.currentFlow ↔
      ∀ targets ∈ fs.migrations.lookup (fs.currentFlow.read fs.stream).1.src,
        ∃ host, Drawn (BitVec.ofNat 8 (fs.rand 0 % 100)) (fs.currentFlow.read fs.stream).1.src 0
          targets.inOrder host ∧ host % 2 ^ 16 = (fs.currentFlow.read fs.stream).1.dst := by
  generalize hf : (fs.currentFlow.read fs.stream).1 = f
  cases hlookup : fs.migrations.lookup f.src with
  | none =>
    refine iff_of_true ?_ (by simp)
    rw [getNextFlow_unmigrated (by rw [hf, hlookup]), hf]
    exact ⟨rfl, rfl, rfl, Or.inl rfl, fun _ => rfl⟩
  | some targets =>
    rw [getNextFlow_migrated (by rw [hf, hlookup]), hf]
    constructor
    · rintro ⟨hdst, -⟩ m hm
      obtain rfl := Option.some.inj hm
      exact ⟨_, drawn_iff.mpr rfl, hdst⟩
    · intro h
      obtain ⟨host, hdrawn, hdst⟩ := h targets rfl
      rw [drawn_iff.mp hdrawn, hdst]
      exact ⟨rfl, rfl, rfl, Or.inl rfl, fun _ => rfl⟩

def movedFlow : FlowScheduler :=
  { numFlows := 1
    stream := ⟨["0", "1", "1000", "0.5"].map String.toList, true⟩
    enabled := true
    migrations := AList.insert 0 (AList.insert 2 100 ∅) ∅
    rand := fun _ => 0 }

theorem getNextFlow_not_movesSender :
    ¬ ∀ fs : FlowScheduler,
      MovesSender fs.migrations (fs.currentFlow.read fs.stream).1 fs.getNextFlow.currentFlow := by
  intro h
  have hdst := (h movedFlow).dst
  revert hdst
  decide +kernel

end SwarmSim.Flows
