import SwarmSim.Flows.Dispatch
import SwarmSim.Flows.MigrationDraw

namespace SwarmSim.Flows

open Machine FlowScheduler

def HostFlow.erase (f : HostFlow) : HostFlow := { f with dst := 0 }

def FlowScheduler.erase (fs : FlowScheduler) : FlowScheduler :=
  { fs with currentFlow := fs.currentFlow.erase, migrations := ∅, rand := fun _ => 0 }

def Simulation.erase (sim : Simulation) : Simulation :=
  { sim with calls := sim.calls.map (Prod.map id HostFlow.erase), scheduler := sim.scheduler.erase }

section Erasing

variable {f g : HostFlow} {fs gs : FlowScheduler} {sim sim' : Simulation} {clock : Clock}

lemma erase_read (h : f.erase = g.erase) (s : Stream) :
    (f.read s).1.erase = (g.read s).1.erase ∧ (f.read s).2 = (g.read s).2 := by
  obtain ⟨src, dst, tArrival, size⟩ := f
  obtain ⟨src', dst', tArrival', size'⟩ := g
  obtain ⟨rfl, -, rfl, rfl⟩ := HostFlow.mk.injEq .. ▸ h
  exact ⟨rfl, rfl⟩

lemma erase_getNextFlow_read (fs : FlowScheduler) : fs.getNextFlow.erase = { fs.erase with
    currentFlow := (fs.currentFlow.read fs.stream).1.erase
    stream := (fs.currentFlow.read fs.stream).2 } := by
  rw [getNextFlow]
  dsimp only
  split <;> rfl

lemma erase_getNextFlow (h : fs.erase = gs.erase) : fs.getNextFlow.erase = gs.getNextFlow.erase := by
  have hstream : fs.stream = gs.stream := (congrArg FlowScheduler.stream h :)
  obtain ⟨hflow, hrest⟩ := erase_read (congrArg FlowScheduler.currentFlow h) fs.stream
  rw [erase_getNextFlow_read, erase_getNextFlow_read, h, hflow, hrest, hstream]

lemma erase_dispatch (h : sim.erase = sim'.erase) : sim.dispatch.erase = sim'.dispatch.erase := by
  have hnow : sim.now = sim'.now := (congrArg Simulation.now h :)
  have hevents : sim.events = sim'.events := (congrArg Simulation.events h :)
  have hcalls : sim.erase.calls = sim'.erase.calls := (congrArg Simulation.calls h :)
  have hscheduler : sim.scheduler.erase = sim'.scheduler.erase := (congrArg Simulation.scheduler h :)
  have hidx : sim.scheduler.currentIdx = sim'.scheduler.currentIdx :=
    (congrArg FlowScheduler.currentIdx hscheduler :)
  have hflow : sim.scheduler.currentFlow.erase = sim'.scheduler.currentFlow.erase :=
    (congrArg FlowScheduler.currentFlow hscheduler :)
  have hdispatch : ∀ sim : Simulation, sim.dispatch.erase = ⟨sim.now, sim.events,
      sim.erase.calls ++ [(sim.now, sim.scheduler.currentFlow.erase)],
      { sim.scheduler.getNextFlow.erase with currentIdx := sim.scheduler.currentIdx + 1 }⟩ := by
    intro sim
    rw [Simulation.erase, Simulation.dispatch, List.map_append]
    rfl
  rw [hdispatch, hdispatch, hnow, hevents, hcalls, hflow, hidx, erase_getNextFlow hscheduler]

lemma erase_dispatchLoop (clock : Clock) (n : ℕ) (h : sim.erase = sim'.erase) :
    (Simulation.dispatchLoop clock n sim).erase = (Simulation.dispatchLoop clock n sim').erase := by
  induction n generalizing sim sim' with
  | zero => exact h
  | succ n ih =>
    have hguard : (sim.scheduler.currentIdx < sim.scheduler.numFlows ∧
        clock.seconds sim.scheduler.currentFlow.tArrival = sim.now) ↔
        (sim'.scheduler.currentIdx < sim'.scheduler.numFlows ∧
          clock.seconds sim'.scheduler.currentFlow.tArrival = sim'.now) :=
      iff_of_eq (congrArg (fun s : Simulation => s.scheduler.currentIdx < s.scheduler.numFlows ∧
        clock.seconds s.scheduler.currentFlow.tArrival = s.now) h :)
    rw [Simulation.dispatchLoop, Simulation.dispatchLoop]
    by_cases hd : sim.scheduler.currentIdx < sim.scheduler.numFlows ∧
        clock.seconds sim.scheduler.currentFlow.tArrival = sim.now
    · rw [if_pos hd, if_pos (hguard.mp hd)]
      exact ih (erase_dispatch h)
    · rw [if_neg hd, if_neg (mt hguard.mpr hd)]
      exact h

lemma erase_schedule (delay : ℤ) (h : sim.erase = sim'.erase) :
    (sim.schedule delay).map Simulation.erase = (sim'.schedule delay).map Simulation.erase := by
  have hschedule : ∀ sim : Simulation, (sim.schedule delay).map Simulation.erase =
      sim.erase.schedule delay := by
    intro sim
    rw [Simulation.schedule, Simulation.schedule]
    split_ifs <;> rfl
  rw [hschedule, hschedule, h]

lemma erase_dispatchAndSchedule (clock : Clock) (h : sim.erase = sim'.erase) :
    (Simulation.dispatchAndSchedule clock sim).map Simulation.erase =
      (Simulation.dispatchAndSchedule clock sim').map Simulation.erase := by
  have hturns : sim.scheduler.numFlows - sim.scheduler.currentIdx =
      sim'.scheduler.numFlows - sim'.scheduler.currentIdx :=
    (congrArg (fun s : Simulation => s.scheduler.numFlows - s.scheduler.currentIdx) h :)
  rw [Simulation.dispatchAndSchedule, Simulation.dispatchAndSchedule, hturns]
  have hloop := erase_dispatchLoop clock (sim'.scheduler.numFlows - sim'.scheduler.currentIdx) h
  generalize Simulation.dispatchLoop clock _ sim = s at hloop ⊢
  generalize Simulation.dispatchLoop clock _ sim' = s' at hloop ⊢
  have hmore : s.scheduler.currentIdx < s.scheduler.numFlows ↔
      s'.scheduler.currentIdx < s'.scheduler.numFlows :=
    iff_of_eq (congrArg (fun s : Simulation => s.scheduler.currentIdx < s.scheduler.numFlows) hloop :)
  have hdelay : clock.seconds s.scheduler.currentFlow.tArrival - s.now =
      clock.seconds s'.scheduler.currentFlow.tArrival - s'.now :=
    (congrArg (fun s : Simulation => clock.seconds s.scheduler.currentFlow.tArrival - s.now) hloop :)
  by_cases hlt : s.scheduler.currentIdx < s.scheduler.numFlows
  · rw [if_pos hlt, if_pos (hmore.mp hlt), hdelay]
    exact erase_schedule _ hloop
  · rw [if_neg hlt, if_neg (mt hmore.mpr hlt)]
    exact congrArg (fun s : Simulation => Except.ok { s with scheduler :=
      { s.scheduler with stream := s.scheduler.stream.close, enabled := false } }) hloop

lemma bind_erase {x x' : Except Fault Simulation} {k : Simulation → Except Fault Simulation}
    (h : x.map Simulation.erase = x'.map Simulation.erase)
    (hk : ∀ s s' : Simulation, s.erase = s'.erase →
      (k s).map Simulation.erase = (k s').map Simulation.erase) :
    (x.bind k).map Simulation.erase = (x'.bind k).map Simulation.erase := by
  cases x with
  | error e =>
    cases x' with
    | error e' => exact h
    | ok s' => cases h
  | ok s =>
    cases x' with
    | error e' => cases h
    | ok s' => exact hk s s' (Except.ok.inj h)

theorem erase_run (clock : Clock) (n : ℕ) (h : sim.erase = sim'.erase) :
    (Simulation.run clock n sim).map Simulation.erase =
      (Simulation.run clock n sim').map Simulation.erase := by
  induction n generalizing sim sim' with
  | zero => exact congrArg Except.ok h
  | succ n ih =>
    have hevents : sim.events = sim'.events := (congrArg Simulation.events h :)
    rw [Simulation.run, Simulation.run, ← hevents]
    cases sim.events with
    | nil => exact congrArg Except.ok h
    | cons due events =>
      refine bind_erase (erase_dispatchAndSchedule clock ?_) fun s s' hs => ih hs
      exact congrArg (fun s : Simulation => { s with now := due, events }) h

lemma erase_begin (clock : Clock) (h : sim.erase = sim'.erase) :
    (Simulation.begin clock sim).map Simulation.erase =
      (Simulation.begin clock sim').map Simulation.erase := by
  have hnext := erase_getNextFlow (congrArg Simulation.scheduler h)
  have hdelay : clock.seconds sim.scheduler.getNextFlow.currentFlow.tArrival - sim.now =
      clock.seconds sim'.scheduler.getNextFlow.currentFlow.tArrival - sim'.now := by
    rw [show sim.now = sim'.now from (congrArg Simulation.now h :)]
    exact (congrArg (fun fs : FlowScheduler => clock.seconds fs.currentFlow.tArrival - sim'.now) hnext :)
  rw [Simulation.begin, Simulation.begin, hdelay]
  apply erase_schedule
  rw [Simulation.erase, Simulation.erase, hnext]
  exact congrArg (fun s : Simulation => { s with scheduler := sim'.scheduler.getNextFlow.erase }) h

lemma erase_experiment (clock : Clock) (steps : ℕ) (h : sim.erase = sim'.erase) :
    ((Simulation.begin clock sim).bind (Simulation.run clock steps)).map Simulation.erase =
      ((Simulation.begin clock sim').bind (Simulation.run clock steps)).map Simulation.erase :=
  bind_erase (erase_begin clock h) fun _ _ hs => erase_run clock steps hs

lemma migrateTraffic_table {s t : ℕ} {percent : ℤ} (h : fs.migrateTraffic s t percent = .ok gs) :
    ∃ m, gs = { fs with migrations := m } := by
  rw [migrateTraffic] at h
  split_ifs at h with hrange hpos
  · obtain rfl := Except.ok.inj h
    rw [migrateTo]
    split
    · split
      · exact ⟨_, rfl⟩
      · exact ⟨_, rfl⟩
    · exact ⟨_, rfl⟩
  · rw [migrateBack] at h
    dsimp only at h
    split_ifs at h
    · obtain rfl := Except.ok.inj h
      exact ⟨_, rfl⟩
    · obtain rfl := Except.ok.inj h
      exact ⟨_, rfl⟩

lemma migrate_table {cs : List Migration} (h : migrate cs fs = .ok gs) :
    ∃ m, gs = { fs with migrations := m } := by
  refine foldlM_ok (I := fun _ gs => ∃ m, gs = { fs with migrations := m }) ⟨fs.migrations, rfl⟩
    (fun pre c gs gs' hgs hc => ?_) h
  obtain ⟨m, rfl⟩ := hgs
  obtain ⟨m', rfl⟩ := migrateTraffic_table hc
  exact ⟨m', rfl⟩

end Erasing

/-- Whatever is in the flow file and whichever migrations are made, the run has the same events, dispatches
as many flows at the same times and with the same sources, sizes and arrival times, and ends in the
same fault if it ends in one. -/
theorem migrations_invisible (clock : Clock) (rand : ℕ → ℕ) (uninit : ℕ) (text : List Char)
    (cs : List Migration) (fs : FlowScheduler)
    (h : migrate cs (.readFlowFile rand uninit text) = .ok fs) (steps : ℕ) :
    ((Simulation.begin clock { scheduler := fs }).bind (Simulation.run clock steps)).map
        Simulation.erase =
      ((Simulation.begin clock { scheduler := .readFlowFile rand uninit text }).bind
        (Simulation.run clock steps)).map Simulation.erase := by
  obtain ⟨m, rfl⟩ := migrate_table h
  apply erase_experiment
  rfl

def twoFlowsText : List Char := "2\n0 1 100 1.5\n1 0 200 1.5\n".toList

theorem migrations_invisible_two : ∃ fs,
    migrate [⟨0, 5, 100⟩, ⟨1, 3, 20⟩] (.readFlowFile id 0 twoFlowsText) = .ok fs ∧ ∀ steps,
      ((Simulation.begin nanoClock { scheduler := fs }).bind (Simulation.run nanoClock steps)).map
          Simulation.erase =
        ((Simulation.begin nanoClock { scheduler := .readFlowFile id 0 twoFlowsText }).bind
          (Simulation.run nanoClock steps)).map Simulation.erase :=
  ⟨_, rfl, migrations_invisible nanoClock id 0 twoFlowsText [⟨0, 5, 100⟩, ⟨1, 3, 20⟩] _ rfl⟩

def redraw (migrations : AList fun _ : ℕ => Targets) : (ℕ → ℕ) → List HostFlow → List HostFlow
  | _, [] => []
  | rand, f :: flows =>
    match migrations.lookup f.src with
    | none => f :: redraw migrations rand flows
    | some targets =>
      { f with dst := getMigrationSource (BitVec.ofNat 8 (rand 0 % 100)) f.src 0 targets.inOrder % 2 ^ 16 } ::
        redraw migrations (fun i => rand (i + 1)) flows

structure Redraws (migrations : AList fun _ : ℕ => Targets) (drawn : List HostFlow) (sim : Simulation) :
    Prop where
  table : sim.scheduler.migrations = migrations
  idx : sim.scheduler.currentIdx = sim.calls.length
  enough : sim.scheduler.numFlows ≤ drawn.length
  calls : sim.calls.map Prod.snd <+: drawn
  ahead : sim.scheduler.currentIdx < sim.scheduler.numFlows →
    ∃ rest t, Records sim.scheduler.stream rest t ∧ sim.calls.map Prod.snd ++
      sim.scheduler.currentFlow :: redraw migrations sim.scheduler.rand rest = drawn

section Redrawing

variable {migrations : AList fun _ : ℕ => Targets} {rand : ℕ → ℕ} {drawn flows rest : List HostFlow}
  {f : HostFlow} {fs : FlowScheduler} {sim sim' : Simulation} {clock : Clock} {t : Stream}

lemma redraw_length (rand : ℕ → ℕ) (flows : List HostFlow) :
    (redraw migrations rand flows).length = flows.length := by
  induction flows generalizing rand with
  | nil => rfl
  | cons f flows ih =>
    rw [redraw]
    split
    · rw [List.length_cons, ih, List.length_cons]
    · rw [List.length_cons, ih, List.length_cons]

lemma redraw_empty (rand : ℕ → ℕ) (flows : List HostFlow) : redraw ∅ rand flows = flows := by
  induction flows with
  | nil => rfl
  | cons f flows ih =>
    rw [redraw, AList.lookup_empty]
    dsimp only
    rw [ih]

lemma getNextFlow_redraw (h : Records fs.stream (f :: rest) t) :
    Records fs.getNextFlow.stream rest t ∧ redraw fs.migrations fs.rand (f :: rest) =
      fs.getNextFlow.currentFlow :: redraw fs.migrations fs.getNextFlow.rand rest := by
  cases h with
  | cons hread hgood htail =>
    rw [redraw, getNextFlow, hread]
    dsimp only
    cases fs.migrations.lookup f.src with
    | none => exact ⟨htail, rfl⟩
    | some targets => exact ⟨htail, rfl⟩

lemma Redraws.dispatch (h : Redraws migrations drawn sim)
    (hlt : sim.scheduler.currentIdx < sim.scheduler.numFlows) : Redraws migrations drawn sim.dispatch := by
  obtain ⟨rest, t, hrecords, hdrawn⟩ := h.ahead hlt
  have hcalls : sim.dispatch.calls.map Prod.snd =
      sim.calls.map Prod.snd ++ [sim.scheduler.currentFlow] := by
    rw [Simulation.dispatch, List.map_append]
    rfl
  refine ⟨?_, ?_, ?_, ?_, fun hmore => ?_⟩
  · exact getNextFlow_migrations.trans h.table
  · have hidx := congrArg (· + 1) h.idx
    simpa [Simulation.dispatch] using hidx
  · exact getNextFlow_numFlows.le.trans h.enough
  · refine ⟨redraw migrations sim.scheduler.rand rest, ?_⟩
    rw [hcalls, List.append_assoc]
    exact hdrawn
  · have hmore : sim.scheduler.currentIdx + 1 < sim.scheduler.numFlows := by
      simpa [Simulation.dispatch] using hmore
    cases rest with
    | nil =>
      -- no record is left, so that this was the last flow that the loop may dispatch
      have hlength := congrArg List.length hdrawn
      rw [redraw, List.length_append, List.length_map, List.length_singleton, ← h.idx] at hlength
      have henough := h.enough
      omega
    | cons f rest =>
      obtain ⟨htail, hnext⟩ := getNextFlow_redraw hrecords
      rw [h.table] at hnext
      refine ⟨rest, t, htail, ?_⟩
      rw [hcalls, List.append_assoc]
      rw [hnext] at hdrawn
      exact hdrawn

lemma Redraws.loop (h : Redraws migrations drawn sim) (clock : Clock) (n : ℕ) :
    Redraws migrations drawn (Simulation.dispatchLoop clock n sim) := by
  induction n generalizing sim with
  | zero => exact h
  | succ n ih =>
    rw [Simulation.dispatchLoop]
    split_ifs with hguard
    · apply ih
      exact h.dispatch hguard.1
    · exact h

lemma Redraws.schedule {delay : ℤ} (h : Redraws migrations drawn sim)
    (hok : sim.schedule delay = .ok sim') : Redraws migrations drawn sim' := by
  rw [Simulation.schedule] at hok
  split_ifs at hok
  obtain rfl := Except.ok.inj hok
  exact ⟨h.table, h.idx, h.enough, h.calls, h.ahead⟩

lemma Redraws.event (h : Redraws migrations drawn sim)
    (hok : Simulation.dispatchAndSchedule clock sim = .ok sim') : Redraws migrations drawn sim' := by
  have hloop := h.loop clock (sim.scheduler.numFlows - sim.scheduler.currentIdx)
  rw [Simulation.dispatchAndSchedule] at hok
  split_ifs at hok with hlt
  · exact hloop.schedule hok
  · obtain rfl := Except.ok.inj hok
    exact ⟨hloop.table, hloop.idx, hloop.enough, hloop.calls, fun hmore => (hlt hmore).elim⟩

theorem Redraws.run (h : Redraws migrations drawn sim) {n : ℕ}
    (hok : Simulation.run clock n sim = .ok sim') : Redraws migrations drawn sim' := by
  induction n generalizing sim with
  | zero =>
    obtain rfl := Except.ok.inj hok
    exact h
  | succ n ih =>
    rw [Simulation.run] at hok
    split at hok
    · obtain rfl := Except.ok.inj hok
      exact h
    · obtain ⟨mid, hevent, hrest⟩ := bind_ok hok
      refine ih (Redraws.event ?_ hevent) hrest
      exact ⟨h.table, h.idx, h.enough, h.calls, h.ahead⟩

lemma Redraws.begin (hrecords : Records fs.stream flows t) (hidx : fs.currentIdx = 0)
    (henough : fs.numFlows ≤ flows.length)
    (hok : Simulation.begin clock { scheduler := fs } = .ok sim) :
    Redraws fs.migrations (redraw fs.migrations fs.rand flows) sim := by
  rw [Simulation.begin] at hok
  refine Redraws.schedule ⟨getNextFlow_migrations, ?_, ?_, ?_, fun hmore => ?_⟩ hok
  · rw [List.length_nil, ← hidx, getNextFlow]
    dsimp only
    split <;> rfl
  · rw [redraw_length]
    exact getNextFlow_numFlows.le.trans henough
  · exact List.nil_prefix
  · cases flows with
    | nil =>
      rw [getNextFlow_numFlows] at hmore
      exact absurd (hmore.trans_le henough) (Nat.not_lt_zero _)
    | cons f flows =>
      obtain ⟨htail, hnext⟩ := getNextFlow_redraw hrecords
      exact ⟨flows, t, htail, hnext.symm⟩

lemma Redraws.experiment {steps : ℕ} (hrecords : Records fs.stream flows t) (hidx : fs.currentIdx = 0)
    (henough : fs.numFlows ≤ flows.length)
    (hok : (Simulation.begin clock { scheduler := fs }).bind (Simulation.run clock steps) = .ok sim) :
    Redraws fs.migrations (redraw fs.migrations fs.rand flows) sim := by
  obtain ⟨mid, hbegin, hrun⟩ := bind_ok hok
  exact (Redraws.begin hrecords hidx henough hbegin).run hrun

lemma erase_times (h : sim.erase = sim'.erase) : sim.calls.map Prod.fst = sim'.calls.map Prod.fst := by
  have hcalls : sim.erase.calls.map Prod.fst = sim'.erase.calls.map Prod.fst :=
    congrArg (fun s : Simulation => s.calls.map Prod.fst) h
  simpa [Simulation.erase, Function.comp_def] using hcalls

lemma eq_zip_of_prefix {calls : List (ℤ × HostFlow)} (h : calls.map Prod.snd <+: drawn) :
    calls = (calls.map Prod.fst).zip drawn := by
  induction calls generalizing drawn with
  | nil => rfl
  | cons call calls ih =>
    obtain ⟨rest, rfl⟩ := h
    rw [List.map_cons, List.map_cons, List.cons_append, List.zip_cons_cons, ← ih ⟨rest, rfl⟩]

lemma run_redrawn {m : AList fun _ : ℕ => Targets} {steps : ℕ} {plain : Simulation}
    (hm : fs.migrations = ∅) (hrecords : Records fs.stream flows t) (hidx : fs.currentIdx = 0)
    (henough : fs.numFlows ≤ flows.length)
    (hplain : (Simulation.begin clock { scheduler := fs }).bind (Simulation.run clock steps) = .ok plain) :
    ∃ sim, (Simulation.begin clock { scheduler := { fs with migrations := m } }).bind
        (Simulation.run clock steps) = .ok sim ∧ sim.erase = plain.erase ∧
      plain.calls = (plain.calls.map Prod.fst).zip flows ∧
      sim.calls = (plain.calls.map Prod.fst).zip (redraw m fs.rand flows) := by
  have hsame : ({ scheduler := { fs with migrations := m } } : Simulation).erase =
      ({ scheduler := fs } : Simulation).erase := rfl
  have hagree := erase_experiment clock steps hsame
  rw [hplain] at hagree
  obtain ⟨sim, hsim, herase⟩ := map_ok hagree
  have hdrawn : Redraws m (redraw m fs.rand flows) sim := by
    refine Redraws.experiment (t := t) ?_ ?_ ?_ hsim
    · exact hrecords
    · exact hidx
    · exact henough
  have hread := Redraws.experiment hrecords hidx henough hplain
  rw [hm, redraw_empty] at hread
  refine ⟨sim, hsim, herase, eq_zip_of_prefix hread.calls, ?_⟩
  rw [← erase_times herase]
  exact eq_zip_of_prefix hdrawn.calls

end Redrawing

/-- In every state of the run the flows dispatched are those of the unmigrated run at the same moment, each
at its time and redrawn with the draws that are left to it by the flows before it. -/
theorem flows_redrawn (clock : Clock) (rand : ℕ → ℕ) (uninit : ℕ) (text : List Char) (n : ℕ)
    (flows : List HostFlow) (t : Stream) (hheader : (readHeader text).1 = some n)
    (hrecords : Records (readHeader text).2 flows t) (henough : n ≤ flows.length)
    (cs : List Migration) (fs : FlowScheduler)
    (h : migrate cs (.readFlowFile rand uninit text) = .ok fs) (steps : ℕ) (plain : Simulation)
    (hplain : (Simulation.begin clock { scheduler := .readFlowFile rand uninit text }).bind
      (Simulation.run clock steps) = .ok plain) :
    ∃ sim, (Simulation.begin clock { scheduler := fs }).bind (Simulation.run clock steps) = .ok sim ∧
      sim.erase = plain.erase ∧
      plain.calls = (plain.calls.map Prod.fst).zip flows ∧
      sim.calls = (plain.calls.map Prod.fst).zip (redraw fs.migrations rand flows) := by
  obtain ⟨m, rfl⟩ := migrate_table h
  have hnum : (FlowScheduler.readFlowFile rand uninit text).numFlows ≤ flows.length := by
    change (readHeader text).1.getD uninit ≤ flows.length
    rwa [hheader]
  exact run_redrawn (readFlowFile_migrations rand uninit text) hrecords rfl hnum hplain

lemma twoFlowsText_records : (readHeader twoFlowsText).1 = some 2 ∧
    Records (readHeader twoFlowsText).2 twoFlows ⟨[], true⟩ := by
  have hheader : readHeader twoFlowsText =
      (some 2, ⟨["0", "1", "100", "1.5", "1", "0", "200", "1.5"].map String.toList, true⟩) := by
    decide +kernel
  have hfirst : ∀ g : HostFlow, g.read ⟨["0", "1", "100", "1.5", "1", "0", "200", "1.5"].map
      String.toList, true⟩ = (⟨0, 1, 3 / 2, 100⟩, ⟨["1", "0", "200", "1.5"].map String.toList, true⟩) := by
    apply HostFlow.read_words <;> decide +kernel
  have hsecond : ∀ g : HostFlow, g.read ⟨["1", "0", "200", "1.5"].map String.toList, true⟩ =
      (⟨1, 0, 3 / 2, 200⟩, ⟨[], true⟩) := by
    apply HostFlow.read_words <;> decide +kernel
  rw [hheader]
  exact ⟨rfl, .cons hfirst rfl (.cons hsecond rfl .nil)⟩

theorem flows_redrawn_two : ∃ fs sim,
    migrate [⟨0, 5, 100⟩] (.readFlowFile id 0 twoFlowsText) = .ok fs ∧
      (Simulation.begin nanoClock { scheduler := fs }).bind (Simulation.run nanoClock 1) = .ok sim ∧
      sim.calls = [(1500000000, ⟨0, 5, 3 / 2, 100⟩), (1500000000, ⟨1, 0, 3 / 2, 200⟩)] := by
  obtain ⟨hheader, hrecords⟩ := twoFlowsText_records
  have htimes : ((Simulation.begin nanoClock { scheduler := .readFlowFile id 0 twoFlowsText }).bind
      (Simulation.run nanoClock 1)).toOption.map (·.calls.map Prod.fst) =
        some [1500000000, 1500000000] := by
    decide +kernel
  cases hplain : (Simulation.begin nanoClock { scheduler := .readFlowFile id 0 twoFlowsText }).bind
      (Simulation.run nanoClock 1) with
  | error e =>
    rw [hplain] at htimes
    cases htimes
  | ok plain =>
    rw [hplain] at htimes
    obtain ⟨sim, hsim, -, -, hcalls⟩ := flows_redrawn nanoClock id 0 twoFlowsText 2 twoFlows ⟨[], true⟩
      hheader hrecords (by decide) [⟨0, 5, 100⟩] _ rfl 1 plain hplain
    refine ⟨_, sim, rfl, hsim, ?_⟩
    have hfsts : plain.calls.map Prod.fst = [1500000000, 1500000000] := Option.some.inj htimes
    rw [hcalls, hfsts]
    decide +kernel

end SwarmSim.Flows
