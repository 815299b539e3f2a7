import SwarmSim.Flows.Dispatch

namespace SwarmSim.Flows

open Machine Ns3

namespace Simulation

variable (clock : Clock)

/-- The calls of the dispatcher in the first `n` events. An event that a failed assertion ends has
made the calls of its loop. -/
def callsIn : ℕ → Simulation → List (ℤ × HostFlow)
  | 0, sim => sim.calls
  | n + 1, sim =>
    match sim.events with
    | [] => sim.calls
    | due :: events =>
      let sim := { sim with now := due, events }
      match dispatchAndSchedule clock sim with
      | .ok sim => callsIn n sim
      | .error _ =>
        (dispatchLoop clock (sim.scheduler.numFlows - sim.scheduler.currentIdx) sim).calls

def dispatched (steps : ℕ) (sim : Simulation) : List (ℤ × HostFlow) :=
  match begin clock sim with
  | .ok sim => callsIn clock steps sim
  | .error _ => sim.calls

end Simulation

structure ShortFile (text : List Char) (n : ℕ) (flows : List HostFlow) (t : Stream) : Prop where
  header : (readHeader text).1 = some n
  records : Records (readHeader text).2 flows t
  ends : (HostFlow.read {} t).2.good = false
  short : flows.length < n
  sorted : flows.Pairwise fun f g => f.tArrival ≤ g.tArrival

def atTime (t : Stream) : Stream :=
  (((t.extract (scanUnsigned 16)).2.extract (scanUnsigned 16)).2.extract (scanUnsigned 32)).2

def BadTime (t : Stream) : Prop :=
  (atTime t).good = true ∧ ∃ w ∈ (atTime t).words.head?, (scanDecimal w).good = false

section Leftovers

variable {f : HostFlow} {s t : Stream}

lemma read_of_bad (h : s.good = false) : f.read s = (f, s) := by
  simp only [HostFlow.read, Stream.extract_bad h, Option.getD_none]

lemma read_tArrival (f : HostFlow) (t : Stream) :
    (f.read t).1.tArrival = ((atTime t).extract scanDecimal).1.getD f.tArrival := rfl

lemma read_stream (f : HostFlow) (t : Stream) :
    (f.read t).2 = ((atTime t).extract scanDecimal).2 := rfl

lemma extract_scanDecimal_none (h : (s.extract scanDecimal).2.good = false)
    (hs : ¬ (s.good = true ∧ ∃ w ∈ s.words.head?, (scanDecimal w).good = false)) :
    (s.extract scanDecimal).1 = none := by
  obtain ⟨ws, good⟩ := s
  cases good with
  | false => rfl
  | true =>
    cases ws with
    | nil => rfl
    | cons w ws =>
      rw [Stream.extract_cons] at h
      exact absurd ⟨rfl, w, rfl, h⟩ hs

lemma extract_scanDecimal_zero
    (hs : s.good = true ∧ ∃ w ∈ s.words.head?, (scanDecimal w).good = false) :
    (s.extract scanDecimal).1 = some 0 := by
  obtain ⟨ws, good⟩ := s
  obtain ⟨rfl, w, hw, hbad⟩ := hs
  cases ws with
  | nil => cases hw
  | cons v ws =>
    obtain rfl : v = w := Option.some.inj hw
    rw [Stream.extract_cons, scanDecimal_bad hbad]

lemma BadTime.read (h : BadTime t) (f : HostFlow) : (f.read t).1.tArrival = 0 := by
  rw [read_tArrival, extract_scanDecimal_zero h, Option.getD_some]

lemma read_kept (hends : (HostFlow.read {} t).2.good = false) (h : ¬ BadTime t) (f : HostFlow) :
    (f.read t).1.tArrival = f.tArrival := by
  rw [read_stream] at hends
  rw [read_tArrival, extract_scanDecimal_none hends h, Option.getD_none]

end Leftovers

def stamp (clock : Clock) (f : HostFlow) : ℤ × HostFlow := (clock.seconds f.tArrival, f)

/-- The flows `done` have been dispatched; the first of `todo` has been read, the stream goes on
with the others and then with `t`. -/
structure Ahead (clock : Clock) (n : ℕ) (t : Stream) (done todo : List HostFlow)
    (sim : Simulation) : Prop where
  idx : sim.scheduler.currentIdx = done.length
  num : sim.scheduler.numFlows = n
  short : done.length + todo.length < n
  calls : sim.calls = done.map (stamp clock)
  current : ∀ f ∈ todo.head?, sim.scheduler.currentFlow = f
  records : Records sim.scheduler.stream todo.tail t
  migrations : sim.scheduler.migrations = ∅

structure Over (n : ℕ) (calls : List (ℤ × HostFlow)) (flow : HostFlow) (sim : Simulation) : Prop where
  idx : sim.scheduler.currentIdx = calls.length
  num : sim.scheduler.numFlows = n
  calls : sim.calls = calls
  current : sim.scheduler.currentFlow = flow
  bad : sim.scheduler.stream.good = false
  migrations : sim.scheduler.migrations = ∅

section Running

variable {clock : Clock} {n k : ℕ} {t : Stream} {done todo : List HostFlow} {f g last : HostFlow}
  {sim : Simulation} {calls : List (ℤ × HostFlow)}

open Simulation

lemma Over.dispatch (h : Over n calls f sim) : Over n (calls ++ [(sim.now, f)]) f sim.dispatch := by
  rw [dispatch_unmigrated h.migrations, h.current, read_of_bad h.bad]
  refine ⟨?_, h.num, ?_, rfl, h.bad, h.migrations⟩
  · rw [h.idx, List.length_append, List.length_singleton]
  · rw [h.calls]

lemma Over.loop_stops (h : Over n calls f sim) (hf : clock.seconds f.tArrival ≠ sim.now) (k : ℕ) :
    dispatchLoop clock k sim = sim := by
  cases k with
  | zero => rfl
  | succ k =>
    rw [dispatchLoop, if_neg]
    rintro ⟨-, hnow⟩
    rw [h.current] at hnow
    exact hf hnow

lemma Over.loop_repeats (h : Over n calls f sim) (hf : clock.seconds f.tArrival = sim.now)
    (hk : n - calls.length ≤ k) (hle : calls.length ≤ n) :
    ∃ calls', Over n calls' f (dispatchLoop clock k sim) ∧ calls'.length = n := by
  induction k generalizing calls sim with
  | zero => exact ⟨calls, h, by omega⟩
  | succ k ih =>
    rw [dispatchLoop]
    by_cases hlt : calls.length < n
    · rw [if_pos ⟨by rwa [h.idx, h.num], by rw [h.current, hf]⟩]
      refine ih h.dispatch hf ?_ ?_
      · rw [List.length_append, List.length_singleton]
        omega
      · rwa [List.length_append, List.length_singleton]
    · rw [if_neg (by rw [h.idx, h.num]; exact fun hc => hlt hc.1)]
      exact ⟨calls, h, by omega⟩

lemma Ahead.dispatch (h : Ahead clock n t done (f :: g :: todo) sim)
    (hf : clock.seconds f.tArrival = sim.now) :
    Ahead clock n t (done ++ [f]) (g :: todo) sim.dispatch := by
  have hcurrent := h.current f rfl
  have hshort := h.short
  have hrecords := h.records
  cases hrecords with
  | cons hread _ htail =>
    rw [dispatch_unmigrated h.migrations, hread]
    refine ⟨?_, h.num, ?_, ?_, fun g' hg => ?_, htail, h.migrations⟩
    · rw [h.idx, List.length_append, List.length_singleton]
    · simp only [List.length_append, List.length_cons, List.length_nil] at hshort ⊢
      omega
    · rw [h.calls, hcurrent, ← hf, List.map_append]
      rfl
    · obtain rfl : g = g' := Option.some.inj hg
      rfl

lemma Ahead.dispatch_last (h : Ahead clock n t done [f] sim)
    (hends : (HostFlow.read {} t).2.good = false) (hf : clock.seconds f.tArrival = sim.now) :
    Over n ((done ++ [f]).map (stamp clock)) (f.read t).1 sim.dispatch := by
  have hcurrent := h.current f rfl
  have hrecords := h.records
  rw [List.tail_cons] at hrecords
  have hstream : sim.scheduler.stream = t := by
    cases hrecords
    rfl
  rw [dispatch_unmigrated h.migrations, hstream, hcurrent]
  refine ⟨?_, h.num, ?_, rfl, hends, h.migrations⟩
  · rw [h.idx, List.length_map, List.length_append, List.length_singleton]
  · rw [h.calls, ← hf, List.map_append]
    rfl

lemma Ahead.loop (h : Ahead clock n t done todo sim) (hends : (HostFlow.read {} t).2.good = false)
    (hlast : last ∈ todo.getLast?) (hk : n - done.length ≤ k) :
    (∃ done' f todo', Ahead clock n t done' (f :: todo') (dispatchLoop clock k sim) ∧
      done' ++ f :: todo' = done ++ todo ∧ f :: todo' <:+ todo ∧
      (dispatchLoop clock k sim).now = sim.now ∧
      (dispatchLoop clock k sim).events = sim.events ∧ clock.seconds f.tArrival ≠ sim.now) ∨
    ∃ k' mid, dispatchLoop clock k sim = dispatchLoop clock k' mid ∧
      n - (done ++ todo).length ≤ k' ∧
      Over n ((done ++ todo).map (stamp clock)) (last.read t).1 mid ∧ mid.now = sim.now ∧
      mid.events = sim.events ∧ clock.seconds last.tArrival = sim.now := by
  induction todo generalizing k done sim with
  | nil => cases hlast
  | cons f todo ih =>
    have hidx : sim.scheduler.currentIdx < sim.scheduler.numFlows := by
      have hshort := h.short
      rw [h.idx, h.num]
      omega
    have hcurrent := h.current f rfl
    have hlen := h.short
    rw [List.length_cons] at hlen
    obtain ⟨k, rfl⟩ : ∃ m, k = m + 1 := ⟨k - 1, by omega⟩
    by_cases hf : clock.seconds f.tArrival = sim.now
    · rw [dispatchLoop, if_pos ⟨hidx, by rw [hcurrent, hf]⟩]
      cases todo with
      | nil =>
        obtain rfl : f = last := Option.some.inj hlast
        refine Or.inr ⟨k, sim.dispatch, rfl, ?_, h.dispatch_last hends hf, rfl, rfl, hf⟩
        rw [List.length_append, List.length_singleton]
        omega
      | cons g todo =>
        have happ : done ++ [f] ++ g :: todo = done ++ f :: g :: todo := by simp
        rcases ih (h.dispatch hf) hlast (k := k) (by
          rw [List.length_append, List.length_singleton]; omega) with
          ⟨done', f', todo', hahead, happ', hsuffix, hrest⟩ | hover
        · exact Or.inl ⟨done', f', todo', hahead, happ'.trans happ,
            hsuffix.trans (List.suffix_cons f _), hrest⟩
        · rw [happ] at hover
          exact Or.inr hover
    · rw [dispatchLoop, if_neg (by rw [hcurrent]; exact fun hc => hf hc.2)]
      exact Or.inl ⟨done, f, todo, h, rfl, List.suffix_rfl, rfl, rfl, hf⟩

lemma Over.event_stops (h : Over n calls f sim) (hlt : calls.length < n)
    (hf : clock.seconds f.tArrival < sim.now) (k : ℕ) :
    (dispatchLoop clock k sim).calls = calls ∧
      (dispatchLoop clock k sim).scheduler.currentIdx <
        (dispatchLoop clock k sim).scheduler.numFlows ∧
      clock.seconds (dispatchLoop clock k sim).scheduler.currentFlow.tArrival -
        (dispatchLoop clock k sim).now < 0 := by
  rw [h.loop_stops hf.ne, h.calls, h.idx, h.num, h.current]
  exact ⟨rfl, hlt, by omega⟩

lemma Ahead.after (h : Ahead clock n t done (f :: todo) sim) (hevents : sim.events = [])
    (hnow : sim.now ≤ clock.seconds f.tArrival) :
    sim.schedule (clock.seconds sim.scheduler.currentFlow.tArrival - sim.now) =
      .ok { sim with events := [clock.seconds f.tArrival] } := by
  rw [h.current f rfl, schedule_ok (by omega) hevents, add_sub_cancel]

lemma callsIn_ok {due : ℤ} {sim' : Simulation} (hevents : sim.events = [due])
    (h : dispatchAndSchedule clock { sim with now := due, events := [] } = .ok sim') (steps : ℕ) :
    callsIn clock (steps + 1) sim = callsIn clock steps sim' := by
  rw [callsIn, hevents]
  simp only [h]

lemma callsIn_error {due : ℤ} {fault : Fault} (hevents : sim.events = [due])
    (h : dispatchAndSchedule clock { sim with now := due, events := [] } = .error fault)
    (steps : ℕ) : callsIn clock (steps + 1) sim =
      (dispatchLoop clock (sim.scheduler.numFlows - sim.scheduler.currentIdx)
        { sim with now := due, events := [] }).calls := by
  rw [callsIn, hevents]
  simp only [h]

lemma Over.finish {due : ℤ} (hover : Over n calls f sim) (hlt : calls.length < n)
    (hle : clock.seconds f.tArrival ≤ sim.now) {start : Simulation} (hevents : start.events = [due])
    (hloop : dispatchLoop clock (start.scheduler.numFlows - start.scheduler.currentIdx)
      { start with now := due, events := [] } = dispatchLoop clock k sim)
    (hk : n - calls.length ≤ k) :
    (clock.seconds f.tArrival ≠ sim.now → ∀ steps, callsIn clock (steps + 1) start = calls) ∧
      (clock.seconds f.tArrival = sim.now → (callsIn clock 1 start).length = n) := by
  constructor
  · intro hne steps
    obtain ⟨hcalls, hidx, hdelay⟩ := hover.event_stops hlt (lt_of_le_of_ne hle hne) k
    have herror : dispatchAndSchedule clock { start with now := due, events := [] } =
        .error .assertion := by
      rw [dispatchAndSchedule]
      dsimp only
      rw [hloop, if_pos hidx, schedule, if_pos hdelay]
    rw [callsIn_error hevents herror, hloop, hcalls]
  · intro heq
    obtain ⟨calls', hrepeat, hlen⟩ := hover.loop_repeats heq hk hlt.le
    have hend : ¬ (dispatchLoop clock k sim).scheduler.currentIdx <
        (dispatchLoop clock k sim).scheduler.numFlows := by
      rw [hrepeat.idx, hrepeat.num, hlen]
      exact lt_irrefl n
    have hok : dispatchAndSchedule clock { start with now := due, events := [] } =
        .ok { dispatchLoop clock k sim with scheduler := { (dispatchLoop clock k sim).scheduler with
          stream := (dispatchLoop clock k sim).scheduler.stream.close, enabled := false } } := by
      rw [dispatchAndSchedule]
      dsimp only
      rw [hloop, if_neg hend]
    rw [callsIn_ok hevents hok, callsIn]
    dsimp only
    rw [hrepeat.calls, hlen]

lemma Ahead.of_eq (h : Ahead clock n t done todo sim) {sim' : Simulation}
    (hs : sim'.scheduler = sim.scheduler) (hc : sim'.calls = sim.calls) :
    Ahead clock n t done todo sim' := by
  obtain ⟨hidx, hnum, hshort, hcalls, hcurrent, hrecords, hmigrations⟩ := h
  rw [← hs] at hidx hnum hcurrent hrecords hmigrations
  exact ⟨hidx, hnum, hshort, hc.trans hcalls, hcurrent, hrecords, hmigrations⟩

lemma Ahead.run {due : ℤ} (h : Ahead clock n t done todo sim)
    (hends : (HostFlow.read {} t).2.good = false) (hlast : last ∈ todo.getLast?)
    (hevents : sim.events = [due]) (hhead : ∀ f ∈ todo.head?, clock.seconds f.tArrival = due)
    (hsorted : todo.Pairwise fun f g => clock.seconds f.tArrival ≤ clock.seconds g.tArrival)
    (hleft : clock.seconds (last.read t).1.tArrival ≤ clock.seconds last.tArrival) :
    (clock.seconds (last.read t).1.tArrival ≠ clock.seconds last.tArrival →
      ∀ steps, callsIn clock steps sim <+: (done ++ todo).map (stamp clock)) ∧
    (clock.seconds (last.read t).1.tArrival = clock.seconds last.tArrival →
      ∃ steps, (callsIn clock steps sim).length = n) := by
  induction hc : todo.length using Nat.strong_induction_on generalizing done todo sim due with
  | _ c ih =>
    have hstart : callsIn clock 0 sim <+: (done ++ todo).map (stamp clock) := by
      rw [callsIn, h.calls, List.map_append]
      exact List.prefix_append _ _
    have hat : Ahead clock n t done todo { sim with now := due, events := [] } := h.of_eq rfl rfl
    have hk : n - done.length ≤ sim.scheduler.numFlows - sim.scheduler.currentIdx := by
      rw [h.idx, h.num]
    have hlen := h.short
    rcases hat.loop hends hlast hk with
      ⟨done', f, todo', hahead, happ, hsuffix, hnow, hev, hne⟩ |
      ⟨k', mid, hloop, hk', hover, hmid, -, hdue⟩
    · have hle : due ≤ clock.seconds f.tArrival := by
        have hmem : f ∈ todo := hsuffix.subset List.mem_cons_self
        cases todo with
        | nil => cases hlast
        | cons g todo =>
          rw [← hhead g rfl]
          rcases List.mem_cons.mp hmem with rfl | hmem
          · exact le_rfl
          · exact (List.pairwise_cons.mp hsorted).1 f hmem
      let next : Simulation :=
        { dispatchLoop clock (sim.scheduler.numFlows - sim.scheduler.currentIdx)
          { sim with now := due, events := [] } with events := [clock.seconds f.tArrival] }
      have hok : dispatchAndSchedule clock { sim with now := due, events := [] } = .ok next := by
        have hshort := hahead.short
        rw [dispatchAndSchedule]
        dsimp only
        rw [if_pos (by rw [hahead.idx, hahead.num]; omega), hahead.after hev (hnow.trans_le hle)]
      have hlt : (f :: todo').length < c := by
        rw [← hc]
        refine lt_of_le_of_ne hsuffix.length_le fun heq => ?_
        obtain rfl := hsuffix.eq_of_length heq
        exact hne (hhead f rfl)
      have hsame : last ∈ (f :: todo').getLast? := by
        obtain ⟨front, rfl⟩ := hsuffix
        rwa [List.getLast?_append_of_ne_nil _ (List.cons_ne_nil f todo')] at hlast
      have hnext : Ahead clock n t done' (f :: todo') next := hahead.of_eq rfl rfl
      obtain ⟨hnone, hrepeat⟩ := ih _ hlt hnext hsame rfl (fun g hg => by rw [Option.some.inj hg])
        (hsorted.sublist hsuffix.sublist) rfl
      rw [happ] at hnone
      refine ⟨fun hne steps => ?_, fun heq => ?_⟩
      · cases steps with
        | zero => exact hstart
        | succ steps =>
          rw [callsIn_ok hevents hok]
          exact hnone hne steps
      · obtain ⟨steps, hsteps⟩ := hrepeat heq
        exact ⟨steps + 1, by rw [callsIn_ok hevents hok, hsteps]⟩
    · have hfinish := hover.finish (by rwa [List.length_map, List.length_append])
        (by rw [hmid, ← hdue]; exact hleft) hevents hloop (by rwa [List.length_map])
      rw [hmid, ← hdue] at hfinish
      refine ⟨fun hne steps => ?_, fun heq => ⟨1, hfinish.2 heq⟩⟩
      cases steps with
      | zero => exact hstart
      | succ steps => rw [hfinish.1 hne steps]

end Running

section Files

variable {clock : Clock} {rand : ℕ → ℕ} {uninit n : ℕ} {text : List Char} {flows : List HostFlow}
  {t : Stream} {f last : HostFlow}

open Simulation

def opened (rand : ℕ → ℕ) (uninit : ℕ) (text : List Char) : FlowScheduler :=
  (FlowScheduler.readFlowFile rand uninit text).getNextFlow

lemma opened_eq (rand : ℕ → ℕ) (uninit : ℕ) (text : List Char) : opened rand uninit text =
    { FlowScheduler.readFlowFile rand uninit text with
      currentFlow := (HostFlow.read {} (readHeader text).2).1
      stream := (HostFlow.read {} (readHeader text).2).2 } := FlowScheduler.getNextFlow_empty rfl

lemma opened_numFlows (h : (readHeader text).1 = some n) : (opened rand uninit text).numFlows = n := by
  simp [opened_eq, FlowScheduler.readFlowFile, h]

lemma dispatched_ok (h : 0 ≤ clock.seconds (opened rand uninit text).currentFlow.tArrival)
    (steps : ℕ) : dispatched clock steps { scheduler := .readFlowFile rand uninit text } =
      callsIn clock steps
        { events := [clock.seconds (opened rand uninit text).currentFlow.tArrival]
          scheduler := opened rand uninit text } := by
  rw [opened] at *
  rw [dispatched, Simulation.begin, sub_zero, schedule_ok h rfl, zero_add]

lemma dispatched_negative (h : clock.seconds (opened rand uninit text).currentFlow.tArrival < 0)
    (steps : ℕ) : dispatched clock steps { scheduler := .readFlowFile rand uninit text } = [] := by
  rw [opened] at h
  rw [dispatched, Simulation.begin, sub_zero, Simulation.schedule, if_pos h]

lemma ShortFile.no_record (h : ShortFile text n [] t) (clock : Clock) (rand : ℕ → ℕ) (uninit : ℕ) :
    (dispatched clock 1 { scheduler := .readFlowFile rand uninit text }).length = n := by
  have hrecords := h.records
  cases hrecords
  have hover : Over n [] (HostFlow.read {} (readHeader text).2).1
      { scheduler := opened rand uninit text } := by
    rw [opened_eq]
    refine ⟨rfl, ?_, rfl, rfl, h.ends, rfl⟩
    rw [← opened_eq, opened_numFlows h.header]
  have hzero : clock.seconds (HostFlow.read {} (readHeader text).2).1.tArrival = 0 := by
    rw [read_bad h.ends, clock.zero]
  have hdue : clock.seconds (opened rand uninit text).currentFlow.tArrival = 0 := by
    rw [hover.current, hzero]
  rw [dispatched_ok hdue.ge, hdue]
  exact (hover.finish h.short hzero.le rfl rfl (by rw [hover.num, hover.idx])).2 hzero

lemma ShortFile.some_record (h : ShortFile text n (f :: flows) t) (clock : Clock) (rand : ℕ → ℕ)
    (uninit : ℕ) (hlast : last ∈ (f :: flows).getLast?) (hnonneg : 0 ≤ clock.seconds f.tArrival) :
    (clock.seconds (last.read t).1.tArrival ≠ clock.seconds last.tArrival → ∀ steps,
      dispatched clock steps { scheduler := .readFlowFile rand uninit text } <+:
        (f :: flows).map (stamp clock)) ∧
    (clock.seconds (last.read t).1.tArrival = clock.seconds last.tArrival → ∃ steps,
      (dispatched clock steps { scheduler := .readFlowFile rand uninit text }).length = n) := by
  have hrecords := h.records
  cases hrecords with
  | cons hread _ htail =>
    have hsorted : (f :: flows).Pairwise fun f g => clock.seconds f.tArrival ≤ clock.seconds g.tArrival :=
      h.sorted.imp fun hle => clock.mono hle
    have hlastle : clock.seconds f.tArrival ≤ clock.seconds last.tArrival := by
      rcases List.mem_cons.mp (List.mem_of_getLast? hlast) with rfl | hmem
      · exact le_rfl
      · exact (List.pairwise_cons.mp hsorted).1 last hmem
    have hleft : clock.seconds (last.read t).1.tArrival ≤ clock.seconds last.tArrival := by
      by_cases hbad : BadTime t
      · rw [hbad.read, clock.zero]
        exact hnonneg.trans hlastle
      · rw [read_kept h.ends hbad]
    have hcurrent : (opened rand uninit text).currentFlow = f := by
      rw [opened_eq, hread]
    have hahead : Ahead clock n t [] (f :: flows)
        { events := [clock.seconds f.tArrival], scheduler := opened rand uninit text } := by
      refine ⟨?_, opened_numFlows h.header, ?_, rfl, fun g hg => ?_, ?_, ?_⟩
      · rw [opened_eq]
        rfl
      · rw [List.length_nil, Nat.zero_add]
        exact h.short
      · rw [hcurrent]
        exact Option.some.inj hg
      · rw [opened_eq, hread]
        exact htail
      · rw [opened_eq]
        rfl
    have hrun := hahead.run h.ends hlast rfl (fun g hg => by rw [Option.some.inj hg]) hsorted hleft
    rw [← hcurrent] at hnonneg
    simp only [dispatched_ok hnonneg, hcurrent]
    exact hrun

lemma ShortFile.repeats (h : ShortFile text n flows t) (clock : Clock) (rand : ℕ → ℕ) (uninit : ℕ)
    (hnonneg : ∀ f ∈ flows.head?, 0 ≤ clock.seconds f.tArrival)
    (hkept : ∀ f ∈ flows.getLast?, clock.seconds (f.read t).1.tArrival = clock.seconds f.tArrival) :
    ∃ steps, (dispatched clock steps { scheduler := .readFlowFile rand uninit text }).length = n := by
  cases flows with
  | nil => exact ⟨1, h.no_record clock rand uninit⟩
  | cons f flows =>
    obtain ⟨last, hlast⟩ := Option.isSome_iff_exists.mp
      (List.getLast?_isSome.mpr (List.cons_ne_nil f flows))
    exact (h.some_record clock rand uninit hlast (hnonneg f rfl)).2 (hkept last hlast)

lemma ShortFile.kept_iff (h : ShortFile text n flows t) (clock : Clock) (f : HostFlow) :
    clock.seconds (f.read t).1.tArrival ≠ clock.seconds f.tArrival ↔
      BadTime t ∧ clock.seconds f.tArrival ≠ 0 := by
  by_cases hbad : BadTime t
  · rw [hbad.read, clock.zero]
    exact ⟨fun hne => ⟨hbad, hne.symm⟩, fun hne => hne.2.symm⟩
  · rw [read_kept h.ends hbad]
    exact ⟨fun hne => absurd rfl hne, fun hne => absurd hne.1 hbad⟩

/-- The calls are for records of the file, once each, exactly when the first record stops the
simulation at its start, or what stands behind the last one does so. -/
theorem short_file_iff (clock : Clock) (rand : ℕ → ℕ) (uninit : ℕ) (h : ShortFile text n flows t) :
    (∀ steps, ((dispatched clock steps
        { scheduler := .readFlowFile rand uninit text }).map Prod.snd).Sublist flows) ↔
      (∃ f ∈ flows.head?, clock.seconds f.tArrival < 0) ∨
        ∃ f ∈ flows.getLast?, BadTime t ∧ clock.seconds f.tArrival ≠ 0 := by
  constructor
  · intro hsub
    by_contra hnot
    rw [not_or] at hnot
    have hnonneg : ∀ f ∈ flows.head?, 0 ≤ clock.seconds f.tArrival := by
      intro f hf
      exact not_lt.mp fun hlt => hnot.1 ⟨f, hf, hlt⟩
    have hkept : ∀ f ∈ flows.getLast?, clock.seconds (f.read t).1.tArrival = clock.seconds f.tArrival := by
      intro f hf
      exact not_not.mp fun hne => hnot.2 ⟨f, hf, (h.kept_iff clock f).mp hne⟩
    obtain ⟨steps, hlen⟩ := h.repeats clock rand uninit hnonneg hkept
    have hle := (hsub steps).length_le
    rw [List.length_map, hlen] at hle
    exact absurd h.short (not_lt.mpr hle)
  · intro hcond steps
    cases flows with
    | nil => simp at hcond
    | cons f flows =>
      rcases lt_or_ge (clock.seconds f.tArrival) 0 with hneg | hnonneg
      · have hcurrent : (opened rand uninit text).currentFlow = f := by
          have hrecords := h.records
          cases hrecords with
          | cons hread => rw [opened_eq, hread]
        rw [dispatched_negative (by rwa [hcurrent])]
        exact List.nil_sublist _
      · rcases hcond with ⟨g, hg, hneg⟩ | ⟨last, hlast, hbad⟩
        · obtain rfl := Option.some.inj hg
          exact absurd hneg (not_lt.mpr hnonneg)
        · have hprefix := (h.some_record clock rand uninit hlast hnonneg).1
            ((h.kept_iff clock last).mpr hbad) steps
          have hsub := hprefix.sublist.map Prod.snd
          have hrecords : ((f :: flows).map (stamp clock)).map Prod.snd = f :: flows := by
            rw [List.map_map]
            exact List.map_id _
          rwa [hrecords] at hsub

lemma shortFile_two : ShortFile "2\n0 1 100 1.5\n".toList 2 [⟨0, 1, 3 / 2, 100⟩] ⟨[], true⟩ := by
  have hheader : readHeader "2\n0 1 100 1.5\n".toList =
      (some 2, ⟨["0", "1", "100", "1.5"].map String.toList, true⟩) := by
    decide +kernel
  have hread : ∀ g : HostFlow, g.read ⟨["0", "1", "100", "1.5"].map String.toList, true⟩ =
      (⟨0, 1, 3 / 2, 100⟩, ⟨[], true⟩) := by
    apply HostFlow.read_words <;> decide +kernel
  refine ⟨?_, ?_, rfl, by simp, by simp⟩
  · rw [hheader]
  · rw [hheader]
    exact .cons hread rfl .nil

theorem short_file_iff_two :
    (∀ steps, ((dispatched nanoClock steps
        { scheduler := .readFlowFile id 0 "2\n0 1 100 1.5\n".toList }).map Prod.snd).Sublist
          [⟨0, 1, 3 / 2, 100⟩]) ↔
      (∃ f ∈ [(⟨0, 1, 3 / 2, 100⟩ : HostFlow)].head?, nanoClock.seconds f.tArrival < 0) ∨
        ∃ f ∈ [(⟨0, 1, 3 / 2, 100⟩ : HostFlow)].getLast?,
          BadTime ⟨[], true⟩ ∧ nanoClock.seconds f.tArrival ≠ 0 :=
  short_file_iff nanoClock id 0 shortFile_two

theorem short_file_repeats :
    ¬ ∀ (text : List Char) (n : ℕ) (flows : List HostFlow) (t : Stream), ShortFile text n flows t →
      ∀ steps, ((dispatched nanoClock steps
        { scheduler := .readFlowFile id 0 text }).map Prod.snd).Sublist flows := by
  intro hall
  have hseconds : nanoClock.seconds (3 / 2) = 1500000000 := by
    norm_num [nanoClock]
  obtain ⟨steps, hlen⟩ := shortFile_two.repeats nanoClock id 0
    (fun f hf => by rw [← Option.some.inj hf, hseconds]; norm_num)
    (fun f hf => by rw [read_kept shortFile_two.ends (by rintro ⟨-, w, hw, -⟩; cases hw)])
  have hle := (hall _ 2 _ _ shortFile_two steps).length_le
  rw [List.length_map, hlen] at hle
  exact absurd hle (by decide)

end Files

end SwarmSim.Flows
