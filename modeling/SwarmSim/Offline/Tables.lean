import Mathlib.Data.List.AList
import Mathlib.Data.Prod.Lex
import SwarmSim.Machine.Double
import SwarmSim.Machine.TextFile

namespace SwarmSim.Offline

open Machine

def defaultLinkDelay : ℕ := 100
def defaultMss : ℕ := 1460
def numberOfExperimentRepeatsLong : ℕ := 30
def numberOfExperimentRepeatsShort : ℕ := 30

def inputRtts : List ℕ := [4 * defaultLinkDelay, 6 * defaultLinkDelay, 8 * defaultLinkDelay]

def inputPacketDrops : List ℚ :=
  [0, double (5 / 10 ^ 5), double (5 / 10 ^ 2), double (500475 / 10 ^ 7)]

def inputFlowSizes : List ℕ := (List.range' 1 10).map (10 * · * defaultMss)

def inputUtilizations : List ℚ := [double (9 / 10), double (95 / 100), 1]

def nLow : ℕ := 1000
def nHigh : ℕ := 10000
def numN : ℕ := 40

structure Process where
  systemCount : ℕ
  systemId : ℕ
  userId : ℕ

/-- What the simulated networks measure; `i` is the number of the repetition. -/
structure Measurements where
  throughput (lossRate : ℚ) (rtt i : ℕ) : ℚ
  rttCounts (lossRate : ℚ) (rtt flowSize i : ℕ) : List ℤ
  delays (n m : ℕ) : List ℤ

/-- A `double` as `std::ofstream` prints it with six digits. -/
structure DoubleText where
  text : ℚ → List Char
  line : ∀ q, IsLine (text q)

abbrev Results (κ α : Type) := AList (fun _ : κ => List α)

def Results.inOrder {κ α : Type} [LinearOrder κ] (m : Results κ α) : List (κ × List α) :=
  (m.entries.map fun e => (e.1, e.2)).insertionSort fun a b => a.1 ≤ b.1

def csvHeader (names : List (List Char)) (repeats : ℕ) : List Char :=
  names.flatMap (· ++ [',']) ++
    ((List.range' 1 (repeats - 1)).flatMap (fun i => digits i ++ [',']) ++ digits repeats)

def csvRow (key values : List (List Char)) : List Char :=
  key.flatMap (· ++ [',']) ++ [','].intercalate values

/-- The loop over the experiments with their counter; `pick` says which ones are carried out. -/
def experiments {κ α β : Type} [DecidableEq κ] (pick : ℕ → Bool) (key : β → κ) (run : β → List α)
    (inputs : List β) : ℕ × Results κ α :=
  inputs.foldl (fun s x => (s.1 + 1, if pick s.1 then s.2.insert (key x) (run x) else s.2)) (0, ∅)

namespace Process

def isCorrectIteration (p : Process) (i : ℕ) : Bool := i % p.systemCount = p.systemId

variable (m : Measurements) (p : Process)

def throughputAnalysis (lossRate : ℚ) (rtt : ℕ) : List ℚ :=
  ((List.range numberOfExperimentRepeatsLong).filter p.isCorrectIteration).map
    (m.throughput lossRate rtt)

def rttAnalysis (lossRate : ℚ) (rtt flowSize : ℕ) : List ℤ :=
  ((List.range numberOfExperimentRepeatsShort).filter p.isCorrectIteration).flatMap
    (m.rttCounts lossRate rtt flowSize)

def throughputs : Results (ℚ ×ₗ ℕ) ℚ :=
  (experiments (· = p.userId) toLex (fun x => p.throughputAnalysis m x.1 x.2)
    (inputPacketDrops ×ˢ inputRtts)).2

def rttCounts : Results (ℚ ×ₗ (ℕ ×ₗ ℕ)) ℤ :=
  (experiments (fun _ => true) (fun x => toLex (x.1, toLex x.2))
    (fun x => p.rttAnalysis m x.1 x.2.1 x.2.2) (inputPacketDrops ×ˢ (inputRtts ×ˢ inputFlowSizes))).2

/-- A `double` that is converted to `uint32_t` loses its fraction. -/
def getMFromN (n : ℕ) (u : ℚ) : ℕ :=
  if u = 1 then 0 else ⌊double (double (n / u) - n)⌋₊

def scenarioN (i : ℕ) : ℕ := (nHigh - nLow) / numN * i + nLow

def queueDelays : Results (ℕ ×ₗ ℚ) ℤ :=
  (experiments (fun counter => p.isCorrectIteration counter && !(p.userId < counter))
    (fun x => toLex (scenarioN x.2, x.1))
    (fun x => m.delays (scenarioN x.2) (getMFromN (scenarioN x.2) x.1))
    (inputUtilizations ×ˢ List.range numN)).2

end Process

def tpHeader : List Char := csvHeader ["LOSS_RATE".toList, "RTT".toList] numberOfExperimentRepeatsLong

def rttHeader : List Char :=
  csvHeader ["LOSS_RATE".toList, "RTT".toList, "FLOW_SIZE".toList] numberOfExperimentRepeatsShort

def delayHeader : List Char := csvHeader ["N".toList, "u".toList] numberOfExperimentRepeatsShort

def tableName (stem : List Char) (p : Process) : List Char :=
  stem ++ '-' :: (digits p.systemId ++ ['.', 'c', 's', 'v'])

def tpStem : List Char := "throughputs".toList
def rttStem : List Char := "rtts".toList
def delayStem : List Char := "delays".toList

section Rows

variable (t : DoubleText) (m : Measurements) (p : Process)

def tpRows : List (List Char) :=
  (p.throughputs m).inOrder.map fun r => csvRow [t.text r.1.1, digits r.1.2] (r.2.map t.text)

def rttRows : List (List Char) :=
  (p.rttCounts m).inOrder.map fun r =>
    csvRow [t.text r.1.1, digits r.1.2.1, digits r.1.2.2] (r.2.map formatInt)

def delayRows : List (List Char) :=
  (p.queueDelays m).inOrder.map fun r => csvRow [digits r.1.1, t.text r.1.2] (r.2.map formatInt)

def doTpTest : List Char := unlines (tpHeader :: tpRows t m p)
def doRttTest : List Char := unlines (rttHeader :: rttRows t m p)
def doDelayTest : List Char := unlines (delayHeader :: delayRows t m p)

end Rows

section Lines

variable {P : Char → Prop} {names key values : List (List Char)} {repeats : ℕ}

lemma cells_all (hcomma : P ',') (h : ∀ w ∈ values, ∀ c ∈ w, P c) :
    ∀ c ∈ values.flatMap (· ++ [',']), P c := by
  intro c hc
  obtain ⟨w, hw, hc⟩ := List.mem_flatMap.mp hc
  rcases List.mem_append.mp hc with hc | hc
  · exact h w hw c hc
  · rwa [List.mem_singleton.mp hc]

lemma intercalate_all (hcomma : P ',') (h : ∀ w ∈ values, ∀ c ∈ w, P c) :
    ∀ c ∈ [','].intercalate values, P c := by
  induction values with
  | nil => simp
  | cons w values ih =>
    have hw := h w List.mem_cons_self
    by_cases hvalues : values = []
    · rwa [hvalues, List.intercalate_singleton]
    · have ih := ih fun v hv => h v (List.mem_cons_of_mem w hv)
      rw [List.intercalate_cons_of_ne_nil hvalues]
      simp only [List.mem_append, List.mem_singleton]
      rintro c ((hc | rfl) | hc)
      · exact hw c hc
      · exact hcomma
      · exact ih c hc

lemma isLine_csvRow (hkey : ∀ w ∈ key, IsLine w) (hvalues : ∀ w ∈ values, IsLine w) :
    IsLine (csvRow key values) := by
  have hcomma : ',' ≠ '\n' ∧ ',' ≠ '\r' := by decide
  exact IsLine.append (cells_all hcomma hkey) (intercalate_all hcomma hvalues)

lemma isWord_csvHeader (h : ∀ w ∈ names, IsWord w) : IsWord (csvHeader names repeats) := by
  have hcomma : pySpace ',' = false := by decide
  have hnumbers : IsWord (((List.range' 1 (repeats - 1)).map digits).flatMap (· ++ [','])) := by
    apply cells_all (P := fun c => pySpace c = false) hcomma
    intro w hw
    obtain ⟨i, -, rfl⟩ := List.mem_map.mp hw
    exact isWord_digits i
  rw [List.flatMap_map] at hnumbers
  intro c hc
  rcases List.mem_append.mp hc with hc | hc
  · exact cells_all (P := fun c => pySpace c = false) hcomma h c hc
  · rcases List.mem_append.mp hc with hc | hc
    · exact hnumbers c hc
    · exact isWord_digits repeats c hc

lemma isWord_tpHeader : IsWord tpHeader := isWord_csvHeader (by decide)

lemma isWord_rttHeader : IsWord rttHeader := isWord_csvHeader (by decide)

lemma isWord_delayHeader : IsWord delayHeader := isWord_csvHeader (by decide)

lemma csvHeader_ne_nil : csvHeader names repeats ≠ [] := by
  simp [csvHeader]

lemma isLine_digits (n : ℕ) : IsLine (digits n) := (isWord_digits n).isLine

lemma isLine_formatInt (v : ℤ) : IsLine (formatInt v) := by
  apply IsWord.isLine
  intro c hc
  rw [formatInt] at hc
  split_ifs at hc
  · rcases List.mem_cons.mp hc with rfl | hc
    · decide
    · exact isWord_digits _ c hc
  · exact isWord_digits _ c hc

lemma isLine_rows {κ α : Type} {rows : List (κ × List α)} (key : κ → List (List Char))
    {cell : α → List Char} (hkey : ∀ k, ∀ w ∈ key k, IsLine w) (hcell : ∀ v, IsLine (cell v)) :
    ∀ row ∈ rows.map fun r => csvRow (key r.1) (r.2.map cell), IsLine row := by
  intro row hrow
  obtain ⟨r, -, rfl⟩ := List.mem_map.mp hrow
  apply isLine_csvRow (hkey r.1)
  intro w hw
  obtain ⟨v, -, rfl⟩ := List.mem_map.mp hw
  exact hcell v

end Lines

section Experiments

variable {κ α β : Type} [DecidableEq κ] {pick : ℕ → Bool} {key : β → κ} {run : β → List α}
  {inputs : List β}

lemma experiments_concat (x : β) : experiments pick key run (inputs ++ [x]) =
    ((experiments pick key run inputs).1 + 1,
      if pick (experiments pick key run inputs).1 then
        (experiments pick key run inputs).2.insert (key x) (run x)
      else (experiments pick key run inputs).2) := by
  rw [experiments, List.foldl_append]
  rfl

lemma experiments_counter : (experiments pick key run inputs).1 = inputs.length := by
  induction inputs using List.reverseRecOn with
  | nil => rfl
  | append_singleton inputs x ih => rw [experiments_concat, ih, List.length_append, List.length_singleton]

lemma insert_ne_empty {m : Results κ α} (k : κ) (values : List α) : m.insert k values ≠ ∅ := by
  intro h
  have hmem : k ∈ m.insert k values := (AList.mem_insert m).mpr (Or.inl rfl)
  rw [h] at hmem
  exact AList.notMem_empty k hmem

lemma experiments_empty : (experiments pick key run inputs).2 = ∅ ↔
    ∀ k < inputs.length, pick k = false := by
  induction inputs using List.reverseRecOn with
  | nil => exact ⟨fun _ _ hk => absurd hk (Nat.not_lt_zero _), fun _ => rfl⟩
  | append_singleton inputs x ih =>
    rw [experiments_concat, experiments_counter, List.length_append, List.length_singleton,
      Nat.forall_lt_succ_right, ← ih]
    cases hpick : pick inputs.length with
    | true => simp only [if_true, insert_ne_empty, Bool.true_eq_false, and_false]
    | false => simp only [Bool.false_eq_true, if_false, and_true]

lemma inOrder_eq_nil {κ α : Type} [LinearOrder κ] {m : Results κ α} : m.inOrder = [] ↔ m = ∅ := by
  rw [← List.length_eq_zero_iff, Results.inOrder, List.length_insertionSort, List.length_map,
    List.length_eq_zero_iff]
  constructor
  · exact fun h => AList.ext h
  · rintro rfl
    rfl

end Experiments

section Rows

variable (t : DoubleText) (m : Measurements) {p : Process}

lemma tpRows_eq_nil : tpRows t m p = [] ↔ 12 ≤ p.userId := by
  have hlength : (inputPacketDrops ×ˢ inputRtts).length = 12 := rfl
  rw [tpRows, List.map_eq_nil_iff, inOrder_eq_nil, Process.throughputs, experiments_empty, hlength]
  simp only [decide_eq_false_iff_not]
  constructor
  · intro h
    by_contra hlt
    exact h p.userId (Nat.not_le.mp hlt) rfl
  · rintro h k hk rfl
    exact absurd hk (Nat.not_lt.mpr h)

lemma rttRows_ne_nil : rttRows t m p ≠ [] := by
  rw [rttRows, Ne, List.map_eq_nil_iff, inOrder_eq_nil, Process.rttCounts, experiments_empty]
  intro h
  have hfirst := h 0 (Nat.succ_pos 119)
  cases hfirst

/-- Rank 0 has the first scenario, whatever the user id. -/
lemma delayRows_ne_nil (hp : p.systemId = 0) : delayRows t m p ≠ [] := by
  rw [delayRows, Ne, List.map_eq_nil_iff, inOrder_eq_nil, Process.queueDelays, experiments_empty]
  intro h
  have hfirst := h 0 (Nat.succ_pos 119)
  simp [Process.isCorrectIteration, hp] at hfirst

lemma isLine_tpRows : ∀ row ∈ tpRows t m p, IsLine row := by
  apply isLine_rows (fun k : ℚ ×ₗ ℕ => [t.text k.1, digits k.2]) _ t.line
  simp [t.line, isLine_digits]

lemma isLine_rttRows : ∀ row ∈ rttRows t m p, IsLine row := by
  apply isLine_rows (fun k : ℚ ×ₗ (ℕ ×ₗ ℕ) => [t.text k.1, digits k.2.1, digits k.2.2]) _ isLine_formatInt
  simp [t.line, isLine_digits]

lemma isLine_delayRows : ∀ row ∈ delayRows t m p, IsLine row := by
  apply isLine_rows (fun k : ℕ ×ₗ ℚ => [digits k.1, t.text k.2]) _ isLine_formatInt
  simp [t.line, isLine_digits]

end Rows

end SwarmSim.Offline
