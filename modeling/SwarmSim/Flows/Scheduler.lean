import Mathlib.Data.List.AList
import Mathlib.Data.List.Sort
import SwarmSim.Machine.Stream
import SwarmSim.Ns3.Ipv4

/-! The flow scheduler: the flow file that it reads one record at a time, and the migrations that
redirect the flows of a source. -/

namespace SwarmSim.Flows

open Machine Ns3

structure HostFlow where
  src : ℕ := 0
  dst : ℕ := 0
  tArrival : ℚ := 0
  size : ℕ := 0
  deriving DecidableEq

abbrev Targets := AList (fun _ : ℕ => BitVec 8)

/-- The order in which `std::map` is iterated. -/
def Targets.inOrder (m : Targets) : List (ℕ × BitVec 8) :=
  (m.entries.map fun e => (e.1, e.2)).insertionSort (·.1 ≤ ·.1)

structure FlowScheduler where
  currentIdx : ℕ := 0
  numFlows : ℕ
  stream : Stream
  currentFlow : HostFlow := {}
  enabled : Bool
  migrations : AList (fun _ : ℕ => Targets) := ∅
  rand : ℕ → ℕ

/-- The four extractions of a record over the flow that was read before. -/
def HostFlow.read (f : HostFlow) (s : Stream) : HostFlow × Stream :=
  let (src, s) := s.extract (scanUnsigned 16)
  let (dst, s) := s.extract (scanUnsigned 16)
  let (size, s) := s.extract (scanUnsigned 32)
  let (tArrival, s) := s.extract scanDecimal
  ({ src := src.getD f.src
     dst := dst.getD f.dst
     size := size.getD f.size
     tArrival := tArrival.getD f.tArrival }, s)

def readHeader (text : List Char) : Option ℕ × Stream :=
  (Stream.ofText text).extract (scanUnsigned 32)

namespace FlowScheduler

/-- The constructor. An empty file leaves `num_flows` as it was, at `uninit`. -/
def readFlowFile (rand : ℕ → ℕ) (uninit : ℕ) (text : List Char) : FlowScheduler :=
  let (n, stream) := readHeader text
  { numFlows := n.getD uninit, stream, enabled := true, rand }

def getMigrationSource (r : BitVec 8) (originalSource : ℕ) : BitVec 8 → List (ℕ × BitVec 8) → ℕ
  | _, [] => originalSource
  | sum, (dst, percent) :: targets =>
    if r > sum then getMigrationSource r originalSource (sum + percent) targets else dst

def getNextFlow (fs : FlowScheduler) : FlowScheduler :=
  let (flow, stream) := fs.currentFlow.read fs.stream
  match fs.migrations.lookup flow.src with
  | none => { fs with currentFlow := flow, stream }
  | some targets =>
    let r := BitVec.ofNat 8 (fs.rand 0 % 100)
    { fs with
      currentFlow := { flow with dst := getMigrationSource r flow.src 0 targets.inOrder % 2 ^ 16 }
      stream
      rand := fun i => fs.rand (i + 1) }

variable {fs : FlowScheduler}

@[simp] lemma getNextFlow_numFlows : fs.getNextFlow.numFlows = fs.numFlows := by
  rw [getNextFlow]
  dsimp only
  split <;> rfl

@[simp] lemma getNextFlow_migrations : fs.getNextFlow.migrations = fs.migrations := by
  rw [getNextFlow]
  dsimp only
  split <;> rfl

lemma getNextFlow_unmigrated (h : fs.migrations.lookup (fs.currentFlow.read fs.stream).1.src = none) :
    fs.getNextFlow = { fs with
      currentFlow := (fs.currentFlow.read fs.stream).1
      stream := (fs.currentFlow.read fs.stream).2 } := by
  rw [getNextFlow]
  simp only [h]

lemma getNextFlow_empty (h : fs.migrations = ∅) : fs.getNextFlow = { fs with
    currentFlow := (fs.currentFlow.read fs.stream).1
    stream := (fs.currentFlow.read fs.stream).2 } := by
  apply getNextFlow_unmigrated
  rw [h, AList.lookup_empty]

end FlowScheduler

inductive Records : Stream → List HostFlow → Stream → Prop
  | nil {s} : Records s [] s
  | cons {f fs s s' t} : (∀ g : HostFlow, g.read s = (f, s')) → s'.good = true →
      Records s' fs t → Records s (f :: fs) t

section Reading

variable {f : HostFlow} {s : Stream} {a b c d : List Char} {ws : List (List Char)}

lemma HostFlow.read_words (ha : scanUnsigned 16 a = ⟨f.src, [], true⟩)
    (hb : scanUnsigned 16 b = ⟨f.dst, [], true⟩) (hc : scanUnsigned 32 c = ⟨f.size, [], true⟩)
    (hd : scanDecimal d = ⟨f.tArrival, [], true⟩) (g : HostFlow) :
    g.read ⟨a :: b :: c :: d :: ws, true⟩ = (f, ⟨ws, true⟩) := by
  simp only [HostFlow.read, Stream.extract_word ha, Stream.extract_word hb, Stream.extract_word hc,
    Stream.extract_word hd, Option.getD_some]

lemma extract_scanUnsigned_lt {width v : ℕ} (hv : v < 2 ^ width) :
    (s.extract (scanUnsigned width)).1.getD v < 2 ^ width := by
  unfold Stream.extract
  split_ifs
  · exact hv
  · split
    · exact hv
    · exact scanUnsigned_lt width _

lemma extract_scanDecimal_bad (h : (s.extract scanDecimal).2.good = false) :
    (s.extract scanDecimal).1.getD 0 = 0 := by
  rw [Stream.extract] at h ⊢
  split_ifs at h ⊢
  · rfl
  · split at h
    · rfl
    · exact scanDecimal_bad h

lemma read_bad (h : (HostFlow.read {} s).2.good = false) : (HostFlow.read {} s).1.tArrival = 0 :=
  extract_scanDecimal_bad h

end Reading

end SwarmSim.Flows
