import SwarmSim.Flows.Scheduler

/-! The flow scheduler inside the simulator: the flows of a file are dispatched once each, in the
order of the file and at their arrival times. -/

namespace SwarmSim.Flows

open Machine Ns3

/-- `Seconds`, in ticks of the simulator. -/
structure Clock where
  seconds : ℚ → ℤ
  mono : Monotone seconds
  zero : seconds 0 = 0

structure Simulation where
  now : ℤ := 0
  /-- When the scheduled calls of `dispatchAndSchedule` are due. -/
  events : List ℤ := []
  calls : List (ℤ × HostFlow) := []
  scheduler : FlowScheduler

namespace Simulation

def schedule (delay : ℤ) (sim : Simulation) : Except Fault Simulation :=
  if delay < 0 then .error .assertion
  else .ok { sim with events := sim.events.orderedInsert (· ≤ ·) (sim.now + delay) }

def dispatch (sim : Simulation) : Simulation :=
  { sim with
    calls := sim.calls ++ [(sim.now, sim.scheduler.currentFlow)]
    scheduler := { sim.scheduler.getNextFlow with currentIdx := sim.scheduler.currentIdx + 1 } }

variable (clock : Clock)

/-- The loop, at most `n` times; its own condition stops it after `numFlows - currentIdx`. -/
def dispatchLoop : ℕ → Simulation → Simulation
  | 0, sim => sim
  | n + 1, sim =>
    if sim.scheduler.currentIdx < sim.scheduler.numFlows ∧
        clock.seconds sim.scheduler.currentFlow.tArrival = sim.now then
      dispatchLoop n sim.dispatch
    else sim

def dispatchAndSchedule (sim : Simulation) : Except Fault Simulation :=
  let sim := dispatchLoop clock (sim.scheduler.numFlows - sim.scheduler.currentIdx) sim
  let fs := sim.scheduler
  if fs.currentIdx < fs.numFlows then
    sim.schedule (clock.seconds fs.currentFlow.tArrival - sim.now)
  else .ok { sim with scheduler := { fs with stream := fs.stream.close, enabled := false } }

def begin (sim : Simulation) : Except Fault Simulation :=
  let fs := sim.scheduler.getNextFlow
  { sim with scheduler := fs }.schedule (clock.seconds fs.currentFlow.tArrival - sim.now)

def run : ℕ → Simulation → Except Fault Simulation
  | 0, sim => .ok sim
  | n + 1, sim =>
    match sim.events with
    | [] => .ok sim
    | due :: events => (dispatchAndSchedule clock { sim with now := due, events }).bind (run n)

end Simulation

structure FlowFile (text : List Char) (n : ℕ) (flows : List HostFlow) : Prop where
  header : (readHeader text).1 = some n
  records : ∃ t, Records (readHeader text).2 flows t
  none_left : flows = [] → (HostFlow.read {} (readHeader text).2).2.good = false
  enough : n ≤ flows.length
  nonneg : ∀ f ∈ flows, 0 ≤ f.tArrival
  sorted : flows.Pairwise fun f g => f.tArrival ≤ g.tArrival

/-- The flows `done` have been dispatched; the first of `todo` has been read, the stream goes on
with the others. -/
structure Upto (clock : Clock) (done todo : List HostFlow) (sim : Simulation) : Prop where
  idx : sim.scheduler.currentIdx = done.length
  num : sim.scheduler.numFlows = done.length + todo.length
  calls : sim.calls = done.map fun f => (clock.seconds f.tArrival, f)
  current : ∀ f ∈ todo.head?, sim.scheduler.currentFlow = f
  records : ∃ more t, Records sim.scheduler.stream (todo.tail ++ more) t
  migrations : sim.scheduler.migrations = ∅

section Dispatching

variable {clock : Clock} {done todo : List HostFlow} {f : HostFlow} {sim : Simulation} {n : ℕ}
  {text : List Char} {flows : List HostFlow}

open Simulation

lemma dispatch_unmigrated (h : sim.scheduler.migrations = ∅) : sim.dispatch = { sim with
    calls := sim.calls ++ [(sim.now, sim.scheduler.currentFlow)]
    scheduler := { sim.scheduler with
      currentIdx := sim.scheduler.currentIdx + 1
      currentFlow := (sim.scheduler.currentFlow.read sim.scheduler.stream).1
      stream := (sim.scheduler.currentFlow.read sim.scheduler.stream).2 } } := by
  rw [Simulation.dispatch, FlowScheduler.getNextFlow_empty h]

lemma Upto.dispatch (h : Upto clock done (f :: todo) sim)
    (hf : clock.seconds f.tArrival = sim.now) : Upto clock (done ++ [f]) todo sim.dispatch := by
  have hcurrent : sim.scheduler.currentFlow = f := h.current f rfl
  obtain ⟨more, t, hrecords⟩ := h.records
  rw [List.tail_cons] at hrecords
  rw [dispatch_unmigrated h.migrations, hcurrent]
  refine ⟨?_, ?_, ?_, fun g hg => ?_, ?_, h.migrations⟩
  · simp [h.idx]
  · simp [h.num, Nat.add_comm, Nat.add_left_comm]
  · simp [h.calls, hf]
  · cases todo with
    | nil => cases hg
    | cons g' todo =>
      obtain rfl : g' = g := Option.some.inj hg
      cases hrecords with
      | cons hread => rw [← hcurrent, hread]
  · cases todo with
    | nil => exact ⟨[], _, .nil⟩
    | cons g todo =>
      cases hrecords with
      | cons hread _ htail =>
        refine ⟨more, t, ?_⟩
        rw [← hcurrent, hread]
        exact htail

lemma Upto.loop (h : Upto clock done todo sim) (hn : todo.length ≤ n) :
    ∃ done' todo', Upto clock done' todo' (dispatchLoop clock n sim) ∧
      done' ++ todo' = done ++ todo ∧ todo' <:+ todo ∧
      (dispatchLoop clock n sim).now = sim.now ∧
      (dispatchLoop clock n sim).events = sim.events ∧
      ∀ f ∈ todo'.head?, clock.seconds f.tArrival ≠ sim.now := by
  induction todo generalizing n done sim with
  | nil =>
    have hstop : dispatchLoop clock n sim = sim := by
      cases n with
      | zero => rfl
      | succ n =>
        rw [dispatchLoop, if_neg]
        rw [h.idx, h.num]
        simp
    rw [hstop]
    exact ⟨done, [], h, rfl, List.suffix_rfl, rfl, rfl, by simp⟩
  | cons f todo ih =>
    obtain ⟨n, rfl⟩ : ∃ m, n = m + 1 := ⟨n - 1, by rw [List.length_cons] at hn; omega⟩
    have hidx : sim.scheduler.currentIdx < sim.scheduler.numFlows := by
      rw [h.idx, h.num, List.length_cons]
      omega
    have hcurrent : sim.scheduler.currentFlow = f := h.current f rfl
    by_cases hf : clock.seconds f.tArrival = sim.now
    · obtain ⟨done', todo', hupto, happ, hsuffix, hnow, hevents, hhead⟩ :=
        ih (h.dispatch hf) (n := n) (by rw [List.length_cons] at hn; omega)
      rw [dispatchLoop, if_pos ⟨hidx, by rw [hcurrent, hf]⟩]
      refine ⟨done', todo', hupto, ?_, hsuffix.trans (List.suffix_cons f todo), hnow, hevents, hhead⟩
      rw [happ, List.append_assoc, List.singleton_append]
    · rw [dispatchLoop, if_neg (by rw [hcurrent]; exact fun hc => hf hc.2)]
      refine ⟨done, f :: todo, h, rfl, List.suffix_rfl, rfl, rfl, fun g hg => ?_⟩
      obtain rfl := Option.some.inj hg
      exact hf

lemma schedule_ok {delay : ℤ} (h : 0 ≤ delay) (hevents : sim.events = []) :
    sim.schedule delay = .ok { sim with events := [sim.now + delay] } := by
  rw [schedule, if_neg (not_lt.mpr h), hevents]
  rfl

lemma Upto.event (h : Upto clock done todo sim) (hevents : sim.events = [])
    (hle : ∀ f ∈ todo, sim.now ≤ clock.seconds f.tArrival) :
    ∃ sim' done' todo', dispatchAndSchedule clock sim = .ok sim' ∧ Upto clock done' todo' sim' ∧
      done' ++ todo' = done ++ todo ∧ todo' <:+ todo ∧
      (∀ f ∈ todo'.head?, clock.seconds f.tArrival ≠ sim.now) ∧
      ((todo' = [] ∧ sim'.events = [] ∧ sim'.scheduler.enabled = false) ∨
        ∃ f rest, todo' = f :: rest ∧ sim'.events = [clock.seconds f.tArrival]) := by
  have hn : todo.length ≤ sim.scheduler.numFlows - sim.scheduler.currentIdx := by
    rw [h.idx, h.num]
    omega
  obtain ⟨done', todo', hupto, happ, hsuffix, hnow, hev, hhead⟩ := h.loop hn
  rw [dispatchAndSchedule]
  generalize dispatchLoop clock (sim.scheduler.numFlows - sim.scheduler.currentIdx) sim = mid at *
  cases todo' with
  | nil =>
    refine ⟨{ mid with scheduler := { mid.scheduler with
      stream := mid.scheduler.stream.close, enabled := false } }, done', [], ?_,
      ⟨hupto.idx, hupto.num, hupto.calls, by simp, ⟨[], _, .nil⟩, hupto.migrations⟩,
      happ, hsuffix, by simp, Or.inl ⟨rfl, hev.trans hevents, rfl⟩⟩
    dsimp only
    rw [if_neg]
    rw [hupto.idx, hupto.num]
    simp
  | cons f rest =>
    have hcurrent : mid.scheduler.currentFlow = f := hupto.current f rfl
    have hdelay : 0 ≤ clock.seconds f.tArrival - mid.now := by
      rw [hnow]
      exact sub_nonneg.mpr (hle f (hsuffix.subset List.mem_cons_self))
    refine ⟨{ mid with events := [clock.seconds f.tArrival] }, done', f :: rest, ?_,
      ⟨hupto.idx, hupto.num, hupto.calls, hupto.current, hupto.records, hupto.migrations⟩,
      happ, hsuffix, hhead, Or.inr ⟨f, rest, rfl, rfl⟩⟩
    rw [if_pos (by rw [hupto.idx, hupto.num, List.length_cons]; omega), hcurrent,
      schedule_ok hdelay (hev.trans hevents), add_sub_cancel]

lemma run_dispatches {due : ℤ} (h : Upto clock done todo sim) (hevents : sim.events = [due])
    (hle : ∀ f ∈ todo, due ≤ clock.seconds f.tArrival)
    (hhead : ∀ f ∈ todo.head?, clock.seconds f.tArrival = due)
    (hsorted : todo.Pairwise fun f g => clock.seconds f.tArrival ≤ clock.seconds g.tArrival) :
    ∃ steps sim', run clock steps sim = .ok sim' ∧ sim'.events = [] ∧
      sim'.scheduler.enabled = false ∧
      sim'.calls = (done ++ todo).map fun f => (clock.seconds f.tArrival, f) := by
  induction hk : todo.length using Nat.strong_induction_on generalizing done todo sim due with
  | _ k ih =>
    have hat : Upto clock done todo { sim with now := due, events := [] } :=
      ⟨h.idx, h.num, h.calls, h.current, h.records, h.migrations⟩
    obtain ⟨sim', done', todo', hok, hupto, happ, hsuffix, hnext, hcase⟩ := hat.event rfl hle
    have hrun : ∀ steps, run clock (steps + 1) sim = run clock steps sim' := by
      intro steps
      rw [run, hevents]
      dsimp only
      rw [hok]
      rfl
    rcases hcase with ⟨rfl, hnone, henabled⟩ | ⟨f, rest, rfl, hdue⟩
    · rw [List.append_nil] at happ
      exact ⟨1, sim', hrun 0, hnone, henabled, happ ▸ hupto.calls⟩
    · have hlt : (f :: rest).length < todo.length := by
        refine lt_of_le_of_ne hsuffix.length_le fun hlen => ?_
        obtain rfl := hsuffix.eq_of_length hlen
        exact hnext f rfl (hhead f rfl)
      have hsorted' := hsorted.sublist hsuffix.sublist
      obtain ⟨steps, final, hfinal, hend⟩ := ih _ (hk ▸ hlt) hupto hdue
        (List.forall_mem_cons.mpr ⟨le_rfl, (List.pairwise_cons.mp hsorted').1⟩)
        (fun g hg => by rw [Option.some.inj hg]) hsorted' rfl
      exact ⟨steps + 1, final, (hrun steps).trans hfinal, happ ▸ hend⟩

lemma FlowFile.first_due (clock : Clock) (h : FlowFile text n flows) :
    0 ≤ clock.seconds (HostFlow.read {} (readHeader text).2).1.tArrival ∧
      ∀ f ∈ flows.head?, (HostFlow.read {} (readHeader text).2).1 = f := by
  obtain ⟨t, hrecords⟩ := h.records
  cases flows with
  | nil =>
    refine ⟨?_, by simp⟩
    rw [read_bad (h.none_left rfl), clock.zero]
  | cons f flows =>
    cases hrecords with
    | cons hread =>
      rw [hread]
      refine ⟨?_, fun g hg => Option.some.inj hg⟩
      exact clock.zero.symm.le.trans (clock.mono (h.nonneg f List.mem_cons_self))

lemma FlowFile.upto (clock : Clock) (h : FlowFile text n flows) {rand : ℕ → ℕ} {uninit : ℕ}
    (hs : sim.scheduler = { FlowScheduler.readFlowFile rand uninit text with
      currentFlow := (HostFlow.read {} (readHeader text).2).1
      stream := (HostFlow.read {} (readHeader text).2).2 })
    (hcalls : sim.calls = []) : Upto clock [] (flows.take n) sim := by
  obtain ⟨t, hrecords⟩ := h.records
  refine ⟨?_, ?_, hcalls, fun f hf => ?_, ?_, ?_⟩
  · rw [hs]
    rfl
  · simp [hs, FlowScheduler.readFlowFile, h.header, h.enough]
  · rw [hs]
    refine (h.first_due clock).2 f ?_
    rw [List.head?_take] at hf
    split at hf
    · cases hf
    · exact hf
  · rw [hs]
    cases hrecords with
    | nil => exact ⟨[], _, by simpa using .nil⟩
    | @cons f flows _ _ _ hread _ htail =>
      cases n with
      | zero => exact ⟨[], _, by simpa using .nil⟩
      | succ n =>
        refine ⟨flows.drop n, t, ?_⟩
        rw [hread, List.take_succ_cons, List.tail_cons, List.take_append_drop]
        exact htail
  · rw [hs]
    rfl

end Dispatching

/-- From `begin` on the first `n` flows of the file are dispatched, in its order and each at its
own time, no event having a negative delay. -/
theorem flows_dispatched (clock : Clock) (rand : ℕ → ℕ) (uninit : ℕ) {text : List Char} {n : ℕ}
    {flows : List HostFlow} (h : FlowFile text n flows) :
    ∃ steps sim, (Simulation.begin clock
        { scheduler := .readFlowFile rand uninit text }).bind (Simulation.run clock steps) = .ok sim ∧
      sim.events = [] ∧ sim.scheduler.enabled = false ∧
      sim.calls = (flows.take n).map fun f => (clock.seconds f.tArrival, f) := by
  obtain ⟨hdue, hfirst⟩ := h.first_due clock
  have hnext : (FlowScheduler.readFlowFile rand uninit text).getNextFlow =
      { FlowScheduler.readFlowFile rand uninit text with
        currentFlow := (HostFlow.read {} (readHeader text).2).1
        stream := (HostFlow.read {} (readHeader text).2).2 } := FlowScheduler.getNextFlow_empty rfl
  let due := clock.seconds (HostFlow.read {} (readHeader text).2).1.tArrival
  let sim : Simulation := { scheduler := (FlowScheduler.readFlowFile rand uninit text).getNextFlow }
  have hbegin : Simulation.begin clock { scheduler := .readFlowFile rand uninit text } =
      .ok { sim with events := [due] } := by
    have hok := @schedule_ok sim _ hdue rfl
    rw [zero_add] at hok
    rw [Simulation.begin, hnext, sub_zero]
    exact hok
  have hsorted : flows.Pairwise fun f g => clock.seconds f.tArrival ≤ clock.seconds g.tArrival :=
    h.sorted.imp fun hle => clock.mono hle
  have hhead : ∀ f ∈ flows.head?, clock.seconds f.tArrival = due := fun f hf => by rw [← hfirst f hf]
  have hle : ∀ f ∈ flows, due ≤ clock.seconds f.tArrival := by
    cases flows with
    | nil => simp
    | cons f flows =>
      rw [← hhead f rfl]
      exact List.forall_mem_cons.mpr ⟨le_rfl, (List.pairwise_cons.mp hsorted).1⟩
  have htake : ∀ f ∈ (flows.take n).head?, clock.seconds f.tArrival = due := by
    intro f hf
    rw [List.head?_take] at hf
    split at hf
    · cases hf
    · exact hhead f hf
  have hupto : Upto clock [] (flows.take n) { sim with events := [due] } := h.upto clock hnext rfl
  obtain ⟨steps, final, hrun, hend⟩ := run_dispatches hupto rfl
    (fun f hf => hle f (List.mem_of_mem_take hf)) htake (hsorted.sublist (List.take_sublist n flows))
  refine ⟨steps, final, ?_, hend⟩
  rw [hbegin]
  exact hrun

def nanoClock : Clock where
  seconds t := ⌊t * 10 ^ 9 + 1 / 2⌋
  mono _ _ h := Int.floor_mono (by linarith)
  zero := by norm_num

def twoFlows : List HostFlow := [⟨0, 1, 3 / 2, 100⟩, ⟨1, 0, 3 / 2, 200⟩]

theorem flows_dispatched_two :
    ∃ steps sim, (Simulation.begin nanoClock
        { scheduler := .readFlowFile id 0 "2\n0 1 100 1.5\n1 0 200 1.5\n".toList }).bind
          (Simulation.run nanoClock steps) = .ok sim ∧
      sim.events = [] ∧ sim.scheduler.enabled = false ∧
      sim.calls = twoFlows.map fun f => (nanoClock.seconds f.tArrival, f) := by
  have hheader : readHeader "2\n0 1 100 1.5\n1 0 200 1.5\n".toList =
      (some 2, ⟨["0", "1", "100", "1.5", "1", "0", "200", "1.5"].map String.toList, true⟩) := by
    decide +kernel
  have hfirst : ∀ g : HostFlow, g.read ⟨["0", "1", "100", "1.5", "1", "0", "200", "1.5"].map
      String.toList, true⟩ = (⟨0, 1, 3 / 2, 100⟩, ⟨["1", "0", "200", "1.5"].map String.toList, true⟩) := by
    apply HostFlow.read_words <;> decide +kernel
  have hsecond : ∀ g : HostFlow, g.read ⟨["1", "0", "200", "1.5"].map String.toList, true⟩ =
      (⟨1, 0, 3 / 2, 200⟩, ⟨[], true⟩) := by
    apply HostFlow.read_words <;> decide +kernel
  have hfile : FlowFile "2\n0 1 100 1.5\n1 0 200 1.5\n".toList 2 twoFlows := by
    refine ⟨?_, ⟨⟨[], true⟩, ?_⟩, by simp [twoFlows], by simp [twoFlows], ?_, by simp [twoFlows]⟩
    · rw [hheader]
    · rw [hheader]
      exact .cons hfirst rfl (.cons hsecond rfl .nil)
    · intro f hf
      fin_cases hf <;> norm_num
  exact flows_dispatched nanoClock id 0 hfile

end SwarmSim.Flows
