import SwarmSim.Flows.Scheduler
import SwarmSim.Machine.Print

/-! The traffic generator: the loop over the hosts and the file that it leaves behind. Times are in
nanoseconds until they are written. -/

namespace SwarmSim.Flows

open Machine

def baseStartTimeNs : ℕ := 1000000000

/-- What one round of the loop draws. A size is drawn only for a flow that is written. -/
structure Draw (nhost : ℕ) where
  interT : ℕ
  /-- The results of `randint`, of which the first that is not the source is taken. -/
  dst : List (Fin nhost)
  size : Option ℤ

structure Flow where
  src : ℕ
  dst : ℕ
  size : ℕ
  t : ℕ
  deriving DecidableEq

/-- The heap `host_list`, its least element in front. -/
abbrev HostList (nhost : ℕ) := List (ℕ × Fin nhost)

section Generation

variable {nhost : ℕ}

def before (a b : ℕ × Fin nhost) : Prop := a.1 < b.1 ∨ a.1 = b.1 ∧ a.2 ≤ b.2

instance (a b : ℕ × Fin nhost) : Decidable (before a b) :=
  inferInstanceAs (Decidable (a.1 < b.1 ∨ a.1 = b.1 ∧ a.2 ≤ b.2))

def hostList (start : Fin nhost → ℕ) : HostList nhost :=
  ((List.finRange nhost).map fun i => (baseStartTimeNs + start i, i)).insertionSort before

def flowSize (drawn : ℤ) : ℕ := if drawn ≤ 0 then 1 else drawn.toNat

/-- The loop, on the draws that it makes. There is no result when these do not suffice or are more
than that. -/
def generate (endTime : ℚ) : List (Draw nhost) → HostList nhost → Option (List Flow)
  | [], [] => some []
  | [], _ :: _ => none
  | _ :: _, [] => none
  | d :: draws, (t, src) :: hosts =>
    match d.dst.find? (· ≠ src) with
    | none => none
    | some dst =>
      if ((t + d.interT : ℕ) : ℚ) > endTime then
        if d.size.isNone then generate endTime draws hosts else none
      else
        d.size.bind fun size =>
          (generate endTime draws (hosts.orderedInsert before (t + d.interT, src))).map
            (⟨src, dst, flowSize size, t⟩ :: ·)

end Generation

def overwrite (new old : List Char) : List Char := new ++ old.drop new.length

section File

-- `%.9f` of `t * 1e-9`, in nanoseconds
variable (printed : ℕ → ℕ)

def Flow.line (f : Flow) : List Char :=
  digits f.src ++ ' ' :: (digits f.dst ++ ' ' :: (digits f.size ++ ' ' ::
    (formatFixed 9 (printed f.t) ++ ['\n'])))

/-- The file with the estimated number of flows in its first line, after the number has been
written over it. -/
def trafficFile (estimate : ℤ) (flows : List Flow) : List Char :=
  overwrite (digits flows.length)
    (formatInt estimate ++ '\n' :: flows.flatMap (Flow.line printed))

def Flow.written (f : Flow) : HostFlow :=
  { src := f.src, dst := f.dst, size := f.size, tArrival := printed f.t / 10 ^ 9 }

end File

structure Flow.Proper (nhost : ℕ) (f : Flow) : Prop where
  src : f.src < nhost
  dst : f.dst < nhost
  ne : f.src ≠ f.dst
  size : 0 < f.size

section Generation

variable {nhost : ℕ} {endTime : ℚ} {draws : List (Draw nhost)} {hosts : HostList nhost}
  {flows : List Flow} {d : Draw nhost} {t : ℕ} {src : Fin nhost}

lemma flowSize_pos (drawn : ℤ) : 0 < flowSize drawn := by
  unfold flowSize
  split_ifs <;> omega

lemma flowSize_lt {drawn : ℤ} : flowSize drawn < 2 ^ 32 ↔ drawn < 2 ^ 32 := by
  unfold flowSize
  split_ifs <;> omega

lemma generate_round (h : generate endTime (d :: draws) ((t, src) :: hosts) = some flows) :
    (d.size = none ∧ generate endTime draws hosts = some flows) ∨
    ∃ dst z rest, dst ≠ src ∧ d.size = some z ∧
      generate endTime draws (hosts.orderedInsert before (t + d.interT, src)) = some rest ∧
      flows = ⟨src, dst, flowSize z, t⟩ :: rest := by
  rw [generate] at h
  cases hdst : d.dst.find? (· ≠ src) with
  | none =>
    rw [hdst] at h
    cases h
  | some dst =>
    have hne : dst ≠ src := by simpa using List.find?_some hdst
    simp only [hdst] at h
    split_ifs at h with htime hsize
    · exact Or.inl ⟨Option.isNone_iff_eq_none.mp hsize, h⟩
    · obtain ⟨z, hz, h⟩ := Option.bind_eq_some_iff.mp h
      obtain ⟨rest, hrest, rfl⟩ := Option.map_eq_some_iff.mp h
      exact Or.inr ⟨dst, z, rest, hne, hz, hrest, rfl⟩

lemma generate_length (h : generate endTime draws hosts = some flows) :
    draws.length = flows.length + hosts.length := by
  induction draws generalizing hosts flows with
  | nil =>
    cases hosts with
    | nil =>
      obtain rfl := Option.some.inj h
      rfl
    | cons => cases h
  | cons d draws ih =>
    cases hosts with
    | nil => cases h
    | cons host hosts =>
      rcases generate_round h with ⟨-, hrest⟩ | ⟨dst, z, rest, -, -, hrest, rfl⟩
      · rw [List.length_cons, List.length_cons, ih hrest, Nat.add_assoc]
      · rw [List.length_cons, List.length_cons, ih hrest, List.orderedInsert_length, List.length_cons]
        omega

lemma generate_proper (h : generate endTime draws hosts = some flows) :
    ∀ f ∈ flows, f.Proper nhost := by
  induction draws generalizing hosts flows with
  | nil =>
    cases hosts with
    | nil =>
      obtain rfl := Option.some.inj h
      simp
    | cons => cases h
  | cons d draws ih =>
    cases hosts with
    | nil => cases h
    | cons host hosts =>
      rcases generate_round h with ⟨-, hrest⟩ | ⟨dst, z, rest, hne, -, hrest, rfl⟩
      · exact ih hrest
      · refine List.forall_mem_cons.mpr ⟨⟨host.2.isLt, dst.isLt, ?_, flowSize_pos z⟩, ih hrest⟩
        exact fun he => hne (Fin.ext he.symm)

lemma generate_sizes (h : generate endTime draws hosts = some flows) :
    (∀ f ∈ flows, f.size < 2 ^ 32) ↔ ∀ d ∈ draws, ∀ z ∈ d.size, z < 2 ^ 32 := by
  induction draws generalizing hosts flows with
  | nil =>
    cases hosts with
    | nil =>
      obtain rfl := Option.some.inj h
      simp
    | cons => cases h
  | cons d draws ih =>
    cases hosts with
    | nil => cases h
    | cons host hosts =>
      rw [List.forall_mem_cons]
      rcases generate_round h with ⟨hnone, hrest⟩ | ⟨dst, z, rest, -, hz, hrest, rfl⟩
      · rw [ih hrest]
        simp [hnone]
      · rw [List.forall_mem_cons, ih hrest, flowSize_lt]
        simp [hz]

lemma hostList_length (start : Fin nhost → ℕ) : (hostList start).length = nhost := by
  unfold hostList
  rw [List.length_insertionSort, List.length_map, List.length_finRange]

end Generation

end SwarmSim.Flows
