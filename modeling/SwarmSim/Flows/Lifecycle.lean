import Mathlib.Algebra.Order.Floor.Div
import SwarmSim.Flows.SingleFlow
import SwarmSim.Machine.Calendar
import SwarmSim.Machine.Fold

/-! A `SingleFlowApplication` among the events of the simulator: it is started and stopped, its
socket connects, and it sends by events that it schedules itself. -/

namespace SwarmSim.Flows

open Ns3 Machine

inductive Action
  | startApplication
  | stopApplication
  | startSending
  | sendPacket
  deriving DecidableEq

inductive Socket
  | connecting
  | connected
  | closed
  deriving DecidableEq

/-- What does not change: the attributes, `m_reportDone`, and how times and bits are converted at the
data rate. -/
structure Attributes where
  pktSize : ℕ
  flowSize : ℕ
  cbrRate : ℕ
  reportDone : Bool
  /-- The socket connects within `Connect`, as one without a handshake does. -/
  connectsAtOnce : Bool
  startTime : ℕ
  stopTime : ℕ
  bits : ℕ → ℕ
  nextTime : ℕ → ℕ

def Action.Sends : Action → Prop
  | .startSending | .sendPacket => True
  | .startApplication | .stopApplication => False

def Attributes.Stops (c : Attributes) (a : Action) : Prop := a = .stopApplication ∧ c.stopTime ≠ 0

structure Instance where
  socket : Option Socket := none
  connected : Bool := false
  cbrRateFailSafe : ℕ := 0
  residualBits : ℕ := 0
  lastStartTime : ℕ := 0
  totBytes : ℕ := 0
  unsentPacket : Option ℕ := none
  isDone : Bool := false
  /-- `m_startEvent`, `m_stopEvent`, `m_startStopEvent` and `m_sendEvent`. -/
  events : Action → EventId := fun _ => none
  calendar : Calendar Action := .empty
  accepted : ℕ := 0

namespace Instance

variable (c : Attributes)

def schedule (delay : ℕ) (a : Action) (s : Instance) : Instance :=
  { s with
    events := Function.update s.events a s.calendar.newId
    calendar := s.calendar.schedule delay a }

def cancel (a : Action) (s : Instance) : Instance :=
  { s with calendar := s.calendar.cancel (s.events a) }

/-- `Application::DoInitialize`. -/
def doInitialize : Instance :=
  let s := ({} : Instance).schedule c.startTime .startApplication
  if c.stopTime = 0 then s else s.schedule c.stopTime .stopApplication

def cancelEvents (s : Instance) : Instance :=
  let s :=
    if s.calendar.IsRunning (s.events .sendPacket) ∧ s.cbrRateFailSafe = c.cbrRate then
      { s with
        residualBits := (s.residualBits + c.bits (s.calendar.now - s.lastStartTime)) % 2 ^ 32 }
    else s
  let s := { s with cbrRateFailSafe := c.cbrRate }
  let s := (s.cancel .sendPacket).cancel .startSending
  { s with unsentPacket := none }

def doDispose (s : Instance) : Instance :=
  let s := s.cancelEvents c
  let s := { s with socket := none, unsentPacket := none }
  (s.cancel .startApplication).cancel .stopApplication

def stopApplication (s : Instance) : Instance :=
  let s := s.cancelEvents c
  let s := { s with socket := s.socket.map fun _ => .closed }
  if c.reportDone then { s with isDone := true } else s.doDispose c

def scheduleStartEvent (s : Instance) : Instance := s.schedule 0 .startSending

def connectionSucceeded (s : Instance) : Instance :=
  { s.scheduleStartEvent with connected := true }

/-- `Socket::Connect`. -/
def connect (s : Instance) : Instance :=
  if c.connectsAtOnce then { s with socket := some .connected }.connectionSucceeded
  else { s with socket := some .connecting }

/-- `bound` says whether the socket could be bound. -/
def startApplication (bound : Bool) (s : Instance) : Except Fault Instance :=
  if s.socket = none ∧ !bound then .error (.abort "Failed to bind socket")
  else
    let s := if s.socket = none then s.connect c else s
    let s := { s with cbrRateFailSafe := c.cbrRate }.cancelEvents c
    .ok (if s.connected then s.scheduleStartEvent else s)

def scheduleNextTx (s : Instance) : Except Fault Instance :=
  if c.flowSize = 0 ∨ s.totBytes < c.flowSize then
    if c.pktSize * 8 % 2 ^ 32 < s.residualBits then
      .error (.abort "Calculation to compute next send time will overflow")
    else
      .ok (s.schedule (c.nextTime ((c.pktSize * 8 + 2 ^ 32 - s.residualBits) % 2 ^ 32)) .sendPacket)
  else .ok (s.stopApplication c)

def startSending (s : Instance) : Except Fault Instance :=
  { s with lastStartTime := s.calendar.now }.scheduleNextTx c

def sendPacket (o : Outcome) (s : Instance) : Except Fault Instance :=
  if s.calendar.IsRunning (s.events .sendPacket) then .error .assertion
  else if s.socket = none then .error .nullPointer
  else
    let packet := s.unsentPacket.getD c.pktSize
    let actual := SingleFlowApplication.actual packet o
    let s := { s with accepted := s.accepted + actual.toNat }
    let s :=
      if actual % 2 ^ 32 = c.pktSize then
        { s with totBytes := (s.totBytes + c.pktSize) % 2 ^ 64, unsentPacket := none }
      else { s with unsentPacket := some packet }
    { s with residualBits := 0, lastStartTime := s.calendar.now }.scheduleNextTx c

end Instance

/-- The next event happens, and the socket answers with `o` if it is asked; or the socket reports at
time `t` how it went with the connection. -/
inductive Input
  | tick (o : Outcome)
  | connectionSucceeded (t : ℕ)
  | connectionFailed (t : ℕ)

namespace Instance

def invoke (c : Attributes) (o : Outcome) : Action → Instance → Except Fault Instance
  | .startApplication, s => s.startApplication c (o = .accepts)
  | .stopApplication, s => .ok (s.stopApplication c)
  | .startSending, s => s.startSending c
  | .sendPacket, s => s.sendPacket c o

def step (c : Attributes) (s : Instance) : Input → Except Fault Instance
  | .tick o =>
    match s.calendar.pop with
    | none => .ok s
    | some (e, calendar) => { s with calendar }.invoke c o e.action
  | .connectionSucceeded t =>
    .ok { s with socket := some .connected, calendar := s.calendar.waitUntil t }.connectionSucceeded
  | .connectionFailed _ => .error (.abort "Can't connect")

def Legal (s : Instance) : Input → Prop
  | .tick o => ∀ e calendar, s.calendar.pop = some (e, calendar) → e.action = .startApplication →
    o = .accepts
  | .connectionSucceeded _ => s.socket = some .connecting
  | .connectionFailed _ => False

def answers (s : Instance) : Input → List Outcome
  | .tick o =>
    match s.calendar.pop with
    | some (e, _) => if e.action = .sendPacket then [o] else []
    | none => []
  | _ => []

inductive Reaches (c : Attributes) (s : Instance) : List Outcome → Instance → Prop
  | refl : Reaches c s [] s
  | step {t u : Instance} {os : List Outcome} (i : Input) : Reaches c s os t → t.Legal i →
    t.step c i = .ok u → Reaches c s (os ++ t.answers i) u

def Due (a : Action) (s : Instance) : Prop := s.calendar.Due a

def Tracked (s : Instance) : Prop := s.calendar.Tracked s.events

structure Blank (s : Instance) : Prop where
  residualBits : s.residualBits = 0
  totBytes : s.totBytes = 0
  unsentPacket : s.unsentPacket = none
  accepted : s.accepted = 0

section Operations

variable {c : Attributes} {s : Instance} {a b : Action} {delay : ℕ}

lemma tracked_schedule (h : s.Tracked) (hidle : ¬s.Due a) : (s.schedule delay a).Tracked :=
  Calendar.Tracked.schedule h hidle delay

lemma due_schedule : (s.schedule delay a).Due b ↔ b = a ∨ s.Due b := Calendar.due_schedule

lemma tracked_cancel (h : s.Tracked) : (s.cancel a).Tracked := Calendar.Tracked.cancel h _

lemma due_cancel (h : s.Tracked) : (s.cancel a).Due b ↔ b ≠ a ∧ s.Due b :=
  Calendar.Tracked.due_cancel h

lemma cancelEvents_eq : s.cancelEvents c =
    { ({ s with cbrRateFailSafe := c.cbrRate }.cancel .sendPacket).cancel .startSending with
      unsentPacket := none
      residualBits := (s.cancelEvents c).residualBits } := by
  rw [cancelEvents]
  dsimp only
  split <;> rfl

lemma tracked_cancelEvents (h : s.Tracked) : (s.cancelEvents c).Tracked := by
  have htracked : (({ s with cbrRateFailSafe := c.cbrRate }.cancel .sendPacket).cancel
      .startSending).Tracked := tracked_cancel (tracked_cancel h)
  rw [cancelEvents_eq]
  exact htracked

lemma due_cancelEvents (h : s.Tracked) :
    (s.cancelEvents c).Due b ↔ b ≠ .startSending ∧ b ≠ .sendPacket ∧ s.Due b := by
  have hdue : (({ s with cbrRateFailSafe := c.cbrRate }.cancel .sendPacket).cancel
      .startSending).Due b ↔ b ≠ .startSending ∧ b ≠ .sendPacket ∧ s.Due b := by
    have hsaved : ({ s with cbrRateFailSafe := c.cbrRate } : Instance).Tracked := h
    rw [due_cancel (tracked_cancel hsaved), due_cancel hsaved]
    rfl
  rw [cancelEvents_eq]
  exact hdue

lemma cancelEvents_residualBits (h : s.Tracked) (hidle : ¬s.Due .sendPacket) :
    (s.cancelEvents c).residualBits = s.residualBits := by
  have hstill : ¬s.calendar.IsRunning (s.events .sendPacket) := fun hrun =>
    hidle ((Calendar.Tracked.isRunning_iff h).mp hrun)
  rw [cancelEvents, if_neg fun hrun => hstill hrun.1]
  rfl

@[simp] lemma cancelEvents_socket : (s.cancelEvents c).socket = s.socket := by
  rw [cancelEvents_eq]
  rfl

@[simp] lemma cancelEvents_connected : (s.cancelEvents c).connected = s.connected := by
  rw [cancelEvents_eq]
  rfl

@[simp] lemma cancelEvents_accepted : (s.cancelEvents c).accepted = s.accepted := by
  rw [cancelEvents_eq]
  rfl

@[simp] lemma cancelEvents_totBytes : (s.cancelEvents c).totBytes = s.totBytes := by
  rw [cancelEvents_eq]
  rfl

lemma Blank.cancelEvents (hb : s.Blank) (h : s.Tracked) (hidle : ¬s.Due .sendPacket) :
    (s.cancelEvents c).Blank := by
  refine ⟨(cancelEvents_residualBits h hidle).trans hb.residualBits, ?_, ?_, ?_⟩
  · rw [cancelEvents_totBytes]
    exact hb.totBytes
  · rw [cancelEvents_eq]
  · rw [cancelEvents_accepted]
    exact hb.accepted

lemma tracked_doDispose (h : s.Tracked) : (s.doDispose c).Tracked := by
  have htracked : ({ s.cancelEvents c with socket := none, unsentPacket := none } : Instance).Tracked :=
    tracked_cancelEvents h
  exact tracked_cancel (tracked_cancel htracked)

lemma not_due_doDispose (h : s.Tracked) : ¬(s.doDispose c).Due b := by
  have htracked : ({ s.cancelEvents c with socket := none, unsentPacket := none } : Instance).Tracked :=
    tracked_cancelEvents h
  intro hdue
  obtain ⟨hstop, hdue⟩ := (due_cancel (tracked_cancel htracked)).mp hdue
  obtain ⟨hstart, hdue⟩ := (due_cancel htracked).mp hdue
  obtain ⟨hsending, hpacket, -⟩ := (due_cancelEvents (c := c) h).mp hdue
  cases b with
  | startApplication => exact hstart rfl
  | stopApplication => exact hstop rfl
  | startSending => exact hsending rfl
  | sendPacket => exact hpacket rfl

lemma tracked_stopApplication (h : s.Tracked) : (s.stopApplication c).Tracked := by
  have hclosed : ({ s.cancelEvents c with
      socket := (s.cancelEvents c).socket.map fun _ => .closed } : Instance).Tracked :=
    tracked_cancelEvents h
  rw [stopApplication]
  split
  · exact hclosed
  · exact tracked_doDispose hclosed

lemma due_stopApplication (h : s.Tracked) (hdue : (s.stopApplication c).Due b) :
    b ≠ .startSending ∧ b ≠ .sendPacket ∧ s.Due b := by
  have hclosed : ({ s.cancelEvents c with
      socket := (s.cancelEvents c).socket.map fun _ => .closed } : Instance).Tracked :=
    tracked_cancelEvents h
  rw [stopApplication] at hdue
  split at hdue
  · exact (due_cancelEvents (c := c) h).mp hdue
  · exact absurd hdue (not_due_doDispose hclosed)

lemma stopApplication_socket : (s.stopApplication c).socket = none ∨
    (s.stopApplication c).socket = s.socket.map fun _ => .closed := by
  rw [stopApplication]
  split
  · right
    rw [cancelEvents_socket]
  · exact Or.inl rfl

@[simp] lemma stopApplication_accepted : (s.stopApplication c).accepted = s.accepted := by
  rw [stopApplication]
  split
  · exact cancelEvents_accepted
  · exact cancelEvents_accepted.trans cancelEvents_accepted

@[simp] lemma stopApplication_connected : (s.stopApplication c).connected = s.connected := by
  rw [stopApplication]
  split
  · exact cancelEvents_connected
  · exact cancelEvents_connected.trans cancelEvents_connected

lemma Blank.stopApplication (hb : s.Blank) (h : s.Tracked) (hidle : ¬s.Due .sendPacket) :
    (s.stopApplication c).Blank := by
  have hcancelled := hb.cancelEvents (c := c) h hidle
  rw [Instance.stopApplication]
  split
  · exact ⟨hcancelled.residualBits, hcancelled.totBytes, hcancelled.unsentPacket, hcancelled.accepted⟩
  · let closed : Instance := { s.cancelEvents c with
      socket := (s.cancelEvents c).socket.map fun _ => .closed }
    have hclosed : closed.Blank :=
      ⟨hcancelled.residualBits, hcancelled.totBytes, hcancelled.unsentPacket, hcancelled.accepted⟩
    have htracked : closed.Tracked := tracked_cancelEvents (c := c) h
    have hstill : ¬closed.Due .sendPacket := fun hdue =>
      ((due_cancelEvents (c := c) h).mp hdue).2.1 rfl
    have hdisposed := hclosed.cancelEvents (c := c) htracked hstill
    exact ⟨hdisposed.residualBits, hdisposed.totBytes, rfl, hdisposed.accepted⟩

end Operations

/-- The application while it sends, as it is without its socket and its events. -/
def view (c : Attributes) (s : Instance) : SingleFlowApplication where
  pktSize := c.pktSize
  flowSize := c.flowSize
  residualBits := s.residualBits
  totBytes := s.totBytes
  unsentPacket := s.unsentPacket
  sendEvent := true
  accepted := s.accepted

def transmitted (c : Attributes) (os : List Outcome) : Except Fault SingleFlowApplication :=
  SingleFlowApplication.transmit os { pktSize := c.pktSize, flowSize := c.flowSize }

structure Waiting (c : Attributes) (s : Instance) : Prop where
  socket : s.socket = none
  connected : s.connected = false
  blank : s.Blank
  due : ∀ a, s.Due a → c.Stops a ∨ a = .startApplication
  starts : c.stopTime = 0 → s.Due .startApplication

inductive Phase (c : Attributes) (s : Instance) : List Outcome → Prop
  | connecting : s.socket = some .connecting → s.connected = false → s.Blank →
    (∀ a, s.Due a → c.Stops a) → Phase c s []
  | warm : s.socket = some .connected → s.Blank →
    (∀ a, s.Due a → c.Stops a ∨ a = .startSending) → s.Due .startSending → Phase c s []
  | sending (os : List Outcome) : s.socket = some .connected → s.residualBits = 0 →
    transmitted c os = .ok (s.view c) →
    (∀ a, s.Due a → c.Stops a ∨ a = .sendPacket) → s.Due .sendPacket → Phase c s os
  | stopped (os : List Outcome) (t : SingleFlowApplication) :
    s.socket = none ∨ s.socket = some .closed → (∀ a, s.Due a → c.Stops a) →
    transmitted c os = .ok t → t.accepted = s.accepted → (c.stopTime = 0 → t.stopped = true) →
    Phase c s os

section Simulation

variable {c : Attributes} {s : Instance} {os : List Outcome} {o : Outcome} {t : SingleFlowApplication}

lemma sends_concat (t : SingleFlowApplication) :
    SingleFlowApplication.sends (os ++ [o]) t = (SingleFlowApplication.sends os t).bind fun u =>
      if u.sendEvent then u.sendPacket o else .ok u := by
  induction os generalizing t with
  | nil =>
    change (if t.sendEvent = true then (t.sendPacket o).bind _ else _) = _
    rw [SingleFlowApplication.sends, Except.bind]
    split
    · cases t.sendPacket o <;> rfl
    · rfl
  | cons o' os ih =>
    rw [List.cons_append, SingleFlowApplication.sends, SingleFlowApplication.sends]
    split
    · cases t.sendPacket o' with
      | error e => rfl
      | ok u => exact ih u
    · rename_i hidle
      exact (if_neg hidle).symm

lemma transmitted_concat (h : transmitted c os = .ok t) (ht : t.sendEvent = true) :
    transmitted c (os ++ [o]) = t.sendPacket o := by
  obtain ⟨u, hu, hsends⟩ := bind_ok h
  rw [transmitted, SingleFlowApplication.transmit, hu, Except.bind, sends_concat, hsends, Except.bind,
    if_pos ht]

lemma Blank.view_eq (h : s.Blank) : { s.view c with sendEvent := false } =
    ({ pktSize := c.pktSize, flowSize := c.flowSize } : SingleFlowApplication) := by
  rw [view, h.residualBits, h.totBytes, h.unsentPacket, h.accepted]

lemma transmitted_nil (h : s.Blank) : transmitted c [] =
    SingleFlowApplication.scheduleNextTx { s.view c with sendEvent := false } := by
  rw [h.view_eq, transmitted, SingleFlowApplication.transmit]
  cases SingleFlowApplication.scheduleNextTx { pktSize := c.pktSize, flowSize := c.flowSize } <;> rfl

lemma transmitted_blank (h : s.Blank) : transmitted c [] = .ok (s.view c) := by
  have hmore : ∀ n : ℕ, n = 0 ∨ 0 < n := fun n => Nat.eq_zero_or_pos n
  rw [transmitted_nil h, h.view_eq, SingleFlowApplication.scheduleNextTx, if_pos (hmore _),
    if_neg (Nat.not_lt_zero _), view, h.residualBits, h.totBytes, h.unsentPacket, h.accepted]

lemma scheduleNextTx_phase (h : s.Tracked) (hsocket : s.socket = some .connected)
    (hbits : s.residualBits = 0) (hdue : ∀ a, s.Due a → c.Stops a)
    (hsim : transmitted c os =
      SingleFlowApplication.scheduleNextTx { s.view c with sendEvent := false }) :
    ∃ u, s.scheduleNextTx c = .ok u ∧ u.Tracked ∧ Phase c u os := by
  have hidle : ¬s.Due .sendPacket := by
    intro hpacket
    cases (hdue _ hpacket).1
  have hnone : ¬c.pktSize * 8 % 2 ^ 32 < s.residualBits := by
    rw [hbits]
    exact Nat.not_lt_zero _
  by_cases hmore : c.flowSize = 0 ∨ s.totBytes < c.flowSize
  · have hview : transmitted c os = .ok (s.view c) := by
      rw [hsim, SingleFlowApplication.scheduleNextTx]
      exact (if_pos hmore).trans (if_neg hnone)
    refine ⟨_, (if_pos hmore).trans (if_neg hnone), tracked_schedule h hidle,
      .sending os hsocket hbits hview (fun a ha => ?_) (due_schedule.mpr (Or.inl rfl))⟩
    rcases due_schedule.mp ha with rfl | ha
    · exact Or.inr rfl
    · exact Or.inl (hdue a ha)
  · refine ⟨_, if_neg hmore, tracked_stopApplication h, .stopped os _ ?_ (fun a ha => ?_)
      (hsim.trans (if_neg hmore)) stopApplication_accepted.symm fun _ => rfl⟩
    · rcases stopApplication_socket (c := c) (s := s) with hnone | hclosed
      · exact Or.inl hnone
      · rw [hsocket] at hclosed
        exact Or.inr hclosed
    · exact hdue a (due_stopApplication h ha).2.2

end Simulation

section Steps

variable {c : Attributes} {s u : Instance} {os : List Outcome} {o : Outcome}

lemma startApplication_phase (h : s.Tracked) (hsocket : s.socket = none)
    (hconnected : s.connected = false) (hblank : s.Blank)
    (hdue : ∀ a, s.Due a → c.Stops a) :
    ∃ u, s.startApplication c true = .ok u ∧ u.Tracked ∧ Phase c u [] := by
  have hidle : ∀ a, a ≠ .stopApplication → ¬s.Due a := fun a ha hd => ha (hdue a hd).1
  rw [startApplication, if_neg (by simp), if_pos hsocket, connect]
  by_cases honce : c.connectsAtOnce
  · rw [if_pos honce]
    let opened : Instance := { ({ s with socket := some .connected } : Instance).connectionSucceeded with
      cbrRateFailSafe := c.cbrRate }
    have htracked : opened.Tracked :=
      tracked_schedule (s := { s with socket := some .connected }) h (hidle .startSending (by decide))
    have hopened : opened.Blank :=
      ⟨hblank.residualBits, hblank.totBytes, hblank.unsentPacket, hblank.accepted⟩
    have hdueOpened : ∀ a, opened.Due a → a = .startSending ∨ s.Due a := fun a => due_schedule.mp
    have hpacket : ¬opened.Due .sendPacket := by
      intro hd
      rcases hdueOpened _ hd with ha | hd
      · cases ha
      · exact hidle _ (by decide) hd
    have hdueCancelled : ∀ a, (opened.cancelEvents c).Due a → c.Stops a := by
      intro a ha
      obtain ⟨hstart, -, ha⟩ := (due_cancelEvents htracked).mp ha
      exact hdue a ((hdueOpened a ha).resolve_left hstart)
    have hstart : ¬(opened.cancelEvents c).Due .startSending := by
      intro hd
      cases (hdueCancelled _ hd).1
    have hb := hopened.cancelEvents (c := c) htracked hpacket
    refine ⟨_, congrArg Except.ok (if_pos ?_), tracked_schedule (tracked_cancelEvents htracked) hstart,
      .warm ?_ ⟨hb.residualBits, hb.totBytes, hb.unsentPacket, hb.accepted⟩ (fun a ha => ?_)
      (due_schedule.mpr (Or.inl rfl))⟩
    · exact cancelEvents_connected (s := opened)
    · exact cancelEvents_socket (s := opened)
    · rcases due_schedule.mp ha with rfl | ha
      · exact Or.inr rfl
      · exact Or.inl (hdueCancelled a ha)
  · rw [if_neg honce]
    let opened : Instance := { s with socket := some .connecting, cbrRateFailSafe := c.cbrRate }
    have htracked : opened.Tracked := h
    have hopened : opened.Blank :=
      ⟨hblank.residualBits, hblank.totBytes, hblank.unsentPacket, hblank.accepted⟩
    have hwaits : (opened.cancelEvents c).connected = false := by
      rw [cancelEvents_connected]
      exact hconnected
    refine ⟨_, congrArg Except.ok (if_neg (Bool.eq_false_iff.mp hwaits)),
      tracked_cancelEvents htracked, .connecting ?_ hwaits
      (hopened.cancelEvents htracked (hidle _ (by decide))) fun a ha => ?_⟩
    · exact cancelEvents_socket (s := opened)
    · exact hdue a ((due_cancelEvents htracked).mp ha).2.2

lemma startSending_phase (h : s.Tracked) (hsocket : s.socket = some .connected) (hblank : s.Blank)
    (hdue : ∀ a, s.Due a → c.Stops a) :
    ∃ u, s.startSending c = .ok u ∧ u.Tracked ∧ Phase c u [] := by
  have hstarted : Blank { s with lastStartTime := s.calendar.now } :=
    ⟨hblank.residualBits, hblank.totBytes, hblank.unsentPacket, hblank.accepted⟩
  exact scheduleNextTx_phase h hsocket hstarted.residualBits hdue (transmitted_nil hstarted)

lemma sendPacket_phase (h : s.Tracked) (hsocket : s.socket = some .connected)
    (hdue : ∀ a, s.Due a → c.Stops a) (hsim : transmitted c os = .ok (s.view c)) :
    ∃ u, s.sendPacket c o = .ok u ∧ u.Tracked ∧ Phase c u (os ++ [o]) := by
  have hexpired : ¬s.calendar.IsRunning (s.events .sendPacket) := by
    intro hrun
    cases (hdue _ ((Calendar.Tracked.isRunning_iff h).mp hrun)).1
  have hopen : ¬s.socket = none := by
    rw [hsocket]
    exact Option.some_ne_none _
  have hnext := transmitted_concat (o := o) hsim rfl
  rw [sendPacket, if_neg hexpired, if_neg hopen]
  by_cases hsize : SingleFlowApplication.actual (s.unsentPacket.getD c.pktSize) o % 2 ^ 32 = c.pktSize
  · simp only [SingleFlowApplication.sendPacket, view, hsize, if_true] at hnext
    simp only [if_pos hsize]
    exact scheduleNextTx_phase h hsocket rfl hdue hnext
  · simp only [SingleFlowApplication.sendPacket, view, hsize, if_false] at hnext
    simp only [if_neg hsize]
    exact scheduleNextTx_phase h hsocket rfl hdue hnext

lemma Waiting.stopApplication (h : s.Tracked) (hwaiting : s.Waiting c) (hstop : c.stopTime ≠ 0) :
    (s.stopApplication c).Waiting c := by
  have hidle : ¬s.Due .sendPacket := by
    intro hpacket
    rcases hwaiting.due _ hpacket with ha | ha
    · cases ha.1
    · cases ha
  refine ⟨?_, ?_, hwaiting.blank.stopApplication h hidle,
    fun a ha => hwaiting.due a (due_stopApplication h ha).2.2, fun hzero => absurd hzero hstop⟩
  · rcases stopApplication_socket (c := c) (s := s) with hsocket | hsocket
    · exact hsocket
    · rw [hsocket, hwaiting.socket, Option.map_none]
  · rw [stopApplication_connected]
    exact hwaiting.connected

lemma Phase.stopApplication (h : s.Tracked) (hphase : Phase c s os) (hstop : c.stopTime ≠ 0) :
    Phase c (s.stopApplication c) os := by
  have hsocket := stopApplication_socket (c := c) (s := s)
  have hclosed : s.socket ≠ none → (s.stopApplication c).socket = none ∨
      (s.stopApplication c).socket = some .closed := by
    intro hopen
    obtain ⟨socket, hs⟩ := Option.ne_none_iff_exists'.mp hopen
    rwa [hs] at hsocket
  cases hphase with
  | connecting hs hconnected hb hdue =>
    exact .stopped [] _ (hclosed (by simp [hs])) (fun a ha => hdue a (due_stopApplication h ha).2.2)
      (transmitted_blank hb) stopApplication_accepted.symm fun hzero => absurd hzero hstop
  | warm hs hb hdue hstart =>
    refine .stopped [] _ (hclosed (by simp [hs])) (fun a ha => ?_) (transmitted_blank hb)
      stopApplication_accepted.symm fun hzero => absurd hzero hstop
    obtain ⟨hne, -, ha⟩ := due_stopApplication h ha
    exact (hdue a ha).resolve_right hne
  | sending os hs hbits hsim hdue hpacket =>
    refine .stopped os _ (hclosed (by simp [hs])) (fun a ha => ?_) hsim stopApplication_accepted.symm
      fun hzero => absurd hzero hstop
    obtain ⟨-, hne, ha⟩ := due_stopApplication h ha
    exact (hdue a ha).resolve_right hne
  | stopped os t hs hdue hsim haccepted hdone =>
    refine .stopped os t ?_ (fun a ha => hdue a (due_stopApplication h ha).2.2) hsim
      (haccepted.trans stopApplication_accepted.symm) hdone
    rcases hsocket with hnone | hmap
    · exact Or.inl hnone
    · rcases hs with hs | hs
      · rw [hmap, hs]
        exact Or.inl rfl
      · rw [hmap, hs]
        exact Or.inr rfl

lemma connectionSucceeded_phase (h : s.Tracked) (hsocket : s.socket = some .connected)
    (hblank : s.Blank) (hdue : ∀ a, s.Due a → c.Stops a) :
    s.connectionSucceeded.Tracked ∧ Phase c s.connectionSucceeded [] := by
  have hidle : ¬s.Due .startSending := by
    intro hstart
    cases (hdue _ hstart).1
  have hscheduled : Blank s.connectionSucceeded :=
    ⟨hblank.residualBits, hblank.totBytes, hblank.unsentPacket, hblank.accepted⟩
  refine ⟨tracked_schedule h hidle, .warm hsocket hscheduled (fun a ha => ?_)
    (due_schedule.mpr (Or.inl rfl))⟩
  rcases due_schedule.mp ha with rfl | ha
  · exact Or.inr rfl
  · exact Or.inl (hdue a ha)

variable {d : Calendar Action} {e : Scheduled Action}

lemma Blank.of_calendar (hblank : s.Blank) : Blank { s with calendar := d } :=
  ⟨hblank.residualBits, hblank.totBytes, hblank.unsentPacket, hblank.accepted⟩

lemma Waiting.of_calendar (hwaiting : s.Waiting c) (hdue : ∀ a, d.Due a → s.Due a)
    (hkeep : ∀ a, a ≠ .stopApplication → s.Due a → d.Due a) :
    Waiting c { s with calendar := d } :=
  ⟨hwaiting.socket, hwaiting.connected, hwaiting.blank.of_calendar,
    fun a ha => hwaiting.due a (hdue a ha),
    fun hzero => hkeep _ (by decide) (hwaiting.starts hzero)⟩

lemma Phase.of_calendar (hphase : Phase c s os) (hdue : ∀ a, d.Due a → s.Due a)
    (hkeep : ∀ a, a ≠ .stopApplication → s.Due a → d.Due a) :
    Phase c { s with calendar := d } os := by
  cases hphase with
  | connecting hs hconnected hb hall =>
    exact .connecting hs hconnected hb.of_calendar fun a ha => hall a (hdue a ha)
  | warm hs hb hall hstart =>
    exact .warm hs hb.of_calendar (fun a ha => hall a (hdue a ha)) (hkeep _ (by decide) hstart)
  | sending os hs hbits hsim hall hpacket =>
    exact .sending os hs hbits hsim (fun a ha => hall a (hdue a ha)) (hkeep _ (by decide) hpacket)
  | stopped os t hs hall hsim haccepted hdone =>
    exact .stopped os t hs (fun a ha => hall a (hdue a ha)) hsim haccepted hdone

lemma Phase.invoke (h : Calendar.Tracked s.events d) (hphase : Phase c s os)
    (hdue : ∀ b, d.Due b ↔ b ≠ e.action ∧ s.Due b) (hnow : s.Due e.action) :
    ∃ u, { s with calendar := d }.invoke c o e.action = .ok u ∧ u.Tracked ∧
      Phase c u (os ++ if e.action = .sendPacket then [o] else []) := by
  have htracked : Tracked { s with calendar := d } := h
  have hstop : c.Stops e.action → ∃ u,
      { s with calendar := d }.invoke c o e.action = .ok u ∧ u.Tracked ∧
        Phase c u (os ++ if e.action = .sendPacket then [o] else []) := by
    rintro ⟨ha, hstop⟩
    have hpopped : Phase c { s with calendar := d } os := by
      apply hphase.of_calendar
      · exact fun b hb => ((hdue b).mp hb).2
      · exact fun b hb hs => (hdue b).mpr ⟨ha ▸ hb, hs⟩
    rw [ha, if_neg (by decide), List.append_nil]
    exact ⟨_, rfl, tracked_stopApplication htracked, hpopped.stopApplication htracked hstop⟩
  cases hphase with
  | connecting hs hconnected hb hall => exact hstop (hall _ hnow)
  | warm hs hb hall hstart =>
    rcases hall _ hnow with ha | ha
    · exact hstop ha
    · rw [ha, if_neg (by decide), List.append_nil]
      apply startSending_phase htracked hs hb.of_calendar
      intro a hd
      obtain ⟨hne, hd⟩ := (hdue a).mp hd
      exact (hall a hd).resolve_right (ha ▸ hne)
  | sending os hs hbits hsim hall hpacket =>
    rcases hall _ hnow with ha | ha
    · exact hstop ha
    · rw [ha, if_pos rfl]
      apply sendPacket_phase htracked hs _ hsim
      intro a hd
      obtain ⟨hne, hd⟩ := (hdue a).mp hd
      exact (hall a hd).resolve_right (ha ▸ hne)
  | stopped os t hs hall hsim haccepted hdone => exact hstop (hall _ hnow)

lemma Waiting.invoke (h : Calendar.Tracked s.events d) (hwaiting : s.Waiting c)
    (hdue : ∀ b, d.Due b ↔ b ≠ e.action ∧ s.Due b) (hnow : s.Due e.action)
    (hbound : e.action = .startApplication → o = .accepts) :
    e.action ≠ .sendPacket ∧ ∃ u, { s with calendar := d }.invoke c o e.action = .ok u ∧ u.Tracked ∧
      (u.Waiting c ∨ Phase c u []) := by
  have htracked : Tracked { s with calendar := d } := h
  rcases hwaiting.due _ hnow with ⟨ha, hstop⟩ | ha
  · have hpopped : Waiting c { s with calendar := d } := by
      apply hwaiting.of_calendar
      · exact fun b hb => ((hdue b).mp hb).2
      · exact fun b hb hs => (hdue b).mpr ⟨ha ▸ hb, hs⟩
    refine ⟨by rw [ha]; decide, _, ?_, tracked_stopApplication (c := c) htracked,
      Or.inl (hpopped.stopApplication htracked hstop)⟩
    rw [ha]
    rfl
  · obtain ⟨u, hu, hopened, hphase⟩ := startApplication_phase (c := c) htracked hwaiting.socket
      hwaiting.connected hwaiting.blank.of_calendar fun a hd => by
        obtain ⟨hne, hd⟩ := (hdue a).mp hd
        exact (hwaiting.due a hd).resolve_right (ha ▸ hne)
    refine ⟨by rw [ha]; decide, u, ?_, hopened, Or.inr hphase⟩
    rw [ha, hbound ha]
    exact hu

lemma Phase.step (h : s.Tracked) (hphase : Phase c s os) {i : Input} (hi : s.Legal i) :
    ∃ u, s.step c i = .ok u ∧ u.Tracked ∧ Phase c u (os ++ s.answers i) := by
  cases i with
  | tick o =>
    rw [Instance.step, answers]
    cases hpop : s.calendar.pop with
    | none => exact ⟨s, rfl, h, by rwa [List.append_nil]⟩
    | some p =>
      exact hphase.invoke (h.pop hpop) (fun b => h.due_pop hpop) (Calendar.Tracked.due_of_pop hpop)
  | connectionSucceeded t =>
    rw [Legal] at hi
    have hwaited : ∀ a, (s.calendar.waitUntil t).Due a → s.Due a := fun a =>
      (Calendar.due_waitUntil t).mp
    cases hphase with
    | connecting hs hconnected hb hall =>
      obtain ⟨htracked, hwarm⟩ := connectionSucceeded_phase (c := c)
        (s := { s with socket := some .connected, calendar := s.calendar.waitUntil t })
        (h.waitUntil t) rfl ⟨hb.residualBits, hb.totBytes, hb.unsentPacket, hb.accepted⟩
        fun a ha => hall a (hwaited a ha)
      exact ⟨_, rfl, htracked, hwarm⟩
    | warm hs _ _ _ => simp [hs] at hi
    | sending os hs _ _ _ _ => simp [hs] at hi
    | stopped os t hs _ _ _ _ => rcases hs with hs | hs <;> simp [hs] at hi
  | connectionFailed t => exact hi.elim

lemma Waiting.step (h : s.Tracked) (hwaiting : s.Waiting c) {i : Input} (hi : s.Legal i) :
    s.answers i = [] ∧ ∃ u, s.step c i = .ok u ∧ u.Tracked ∧ (u.Waiting c ∨ Phase c u []) := by
  cases i with
  | tick o =>
    rw [Instance.step, answers]
    cases hpop : s.calendar.pop with
    | none => exact ⟨rfl, s, rfl, h, Or.inl hwaiting⟩
    | some p =>
      obtain ⟨hne, hinvoke⟩ := hwaiting.invoke (c := c) (o := o) (h.pop hpop)
        (fun b => h.due_pop hpop) (Calendar.Tracked.due_of_pop hpop) (hi _ _ hpop)
      exact ⟨if_neg hne, hinvoke⟩
  | connectionSucceeded t =>
    rw [Legal, hwaiting.socket] at hi
    cases hi
  | connectionFailed t => exact hi.elim

end Steps

section Runs

variable {c : Attributes} {s u : Instance} {os os' : List Outcome}

lemma not_sends_of_stops {a : Action} (h : c.Stops a) : ¬a.Sends := by
  rw [h.1]
  exact id

lemma Phase.due_sends (h : Phase c s os) {a : Action} (hdue : s.Due a) (ha : a.Sends) :
    s.socket = some .connected ∧ ∃ b, ∀ a, s.Due a → a.Sends → a = b := by
  cases h with
  | connecting _ _ _ hall => exact absurd ha (not_sends_of_stops (hall _ hdue))
  | warm hs _ hall _ =>
    exact ⟨hs, _, fun a hd hsends => (hall a hd).resolve_left fun hstop => not_sends_of_stops hstop hsends⟩
  | sending _ hs _ _ hall _ =>
    exact ⟨hs, _, fun a hd hsends => (hall a hd).resolve_left fun hstop => not_sends_of_stops hstop hsends⟩
  | stopped _ _ _ hall _ _ _ => exact absurd ha (not_sends_of_stops (hall _ hdue))

lemma doInitialize_waiting (c : Attributes) :
    (doInitialize c).Tracked ∧ (doInitialize c).Waiting c := by
  have hempty : Tracked {} := Calendar.tracked_empty
  have hnone : ∀ a, ¬Due a {} := fun a => Calendar.not_due_empty
  have hstart : Tracked (({} : Instance).schedule c.startTime .startApplication) :=
    tracked_schedule hempty (hnone _)
  have hdue : ∀ a, (({} : Instance).schedule c.startTime .startApplication).Due a →
      a = .startApplication := fun a ha => (due_schedule.mp ha).resolve_right (hnone a)
  rw [doInitialize]
  split
  · exact ⟨hstart, rfl, rfl, ⟨rfl, rfl, rfl, rfl⟩, fun a ha => Or.inr (hdue a ha),
      fun _ => due_schedule.mpr (Or.inl rfl)⟩
  · rename_i hstop
    have hidle : ¬(({} : Instance).schedule c.startTime .startApplication).Due .stopApplication := by
      intro ha
      cases hdue _ ha
    refine ⟨tracked_schedule hstart hidle, rfl, rfl, ⟨rfl, rfl, rfl, rfl⟩, fun a ha => ?_,
      fun hzero => absurd hzero hstop⟩
    rcases due_schedule.mp ha with ha | ha
    · exact Or.inl ⟨ha, hstop⟩
    · exact Or.inr (hdue a ha)

lemma Reaches.phase (h : Reaches c (doInitialize c) os s) :
    s.Tracked ∧ (os = [] ∧ s.Waiting c ∨ Phase c s os) := by
  induction h with
  | refl =>
    obtain ⟨htracked, hwaiting⟩ := doInitialize_waiting c
    exact ⟨htracked, Or.inl ⟨rfl, hwaiting⟩⟩
  | step i _ hi hu ih =>
    obtain ⟨htracked, ⟨rfl, hwaiting⟩ | hphase⟩ := ih
    · obtain ⟨hanswers, v, hv, htracked', hnext⟩ := hwaiting.step htracked hi
      obtain rfl := Except.ok.inj (hu.symm.trans hv)
      rw [hanswers]
      exact ⟨htracked', hnext.imp_left fun hw => ⟨rfl, hw⟩⟩
    · obtain ⟨v, hv, htracked', hnext⟩ := hphase.step htracked hi
      obtain rfl := Except.ok.inj (hu.symm.trans hv)
      exact ⟨htracked', Or.inr hnext⟩

structure Halted (c : Attributes) (s : Instance) : Prop where
  socket : s.socket = none ∨ s.socket = some .closed
  due : ∀ a, s.Due a → c.Stops a

lemma Halted.step (htracked : s.Tracked) (h : s.Halted c) {i : Input} (hi : s.Legal i)
    (hu : s.step c i = .ok u) :
    s.answers i = [] ∧ u.Tracked ∧ u.Halted c ∧ u.accepted = s.accepted := by
  cases i with
  | tick o =>
    rw [Instance.step] at hu
    rw [answers]
    cases hpop : s.calendar.pop with
    | none =>
      rw [hpop] at hu
      obtain rfl := Except.ok.inj hu
      exact ⟨rfl, htracked, h, rfl⟩
    | some p =>
      obtain ⟨e, d⟩ := p
      have ha := (h.due _ (Calendar.Tracked.due_of_pop hpop)).1
      rw [hpop] at hu
      dsimp only at hu
      rw [ha] at hu
      obtain rfl := Except.ok.inj hu
      have hpopped : Tracked { s with calendar := d } := htracked.pop hpop
      refine ⟨if_neg (by rw [ha]; decide), tracked_stopApplication hpopped, ⟨?_, fun a hd => ?_⟩,
        stopApplication_accepted⟩
      · rcases stopApplication_socket (c := c) (s := { s with calendar := d }) with hs | hs
        · exact Or.inl hs
        · rw [hs]
          rcases h.socket with hnone | hclosed
          · rw [hnone]
            exact Or.inl rfl
          · rw [hclosed]
            exact Or.inr rfl
      · obtain ⟨-, -, hd⟩ := due_stopApplication hpopped hd
        exact h.due a ((htracked.due_pop hpop).mp hd).2
  | connectionSucceeded t =>
    rw [Legal] at hi
    rcases h.socket with hs | hs <;> simp [hs] at hi
  | connectionFailed t => exact hi.elim

lemma Halted.run (htracked : s.Tracked) (h : s.Halted c) (hrun : Reaches c s os u) :
    os = [] ∧ u.Tracked ∧ u.Halted c ∧ u.accepted = s.accepted := by
  induction hrun with
  | refl => exact ⟨rfl, htracked, h, rfl⟩
  | step i _ hi hu ih =>
    obtain ⟨rfl, htracked', hhalted, haccepted⟩ := ih
    obtain ⟨hanswers, hnext, hhalted', haccepted'⟩ := hhalted.step htracked' hi hu
    exact ⟨hanswers, hnext, hhalted', haccepted'.trans haccepted⟩

def AtRest (s : Instance) : Prop := s.calendar.pending = [] ∧ s.socket ≠ some .connecting

lemma AtRest.not_due {a : Action} (h : s.AtRest) : ¬s.Due a := fun hdue => hdue.pending_ne_nil h.1

def filled (c : Attributes) : ℕ := c.flowSize ⌈/⌉ c.pktSize * c.pktSize

lemma transmitted_filled (hflow : 1 ≤ c.flowSize) (hpkt : 1 ≤ c.pktSize)
    (hbits : 8 * c.pktSize < 2 ^ 32) (hmax : c.flowSize + c.pktSize ≤ 2 ^ 64)
    {t : SingleFlowApplication} (h : transmitted c os = .ok t) :
    t.accepted ≤ filled c ∧ (t.stopped = true → t.accepted = filled c) := by
  have hceil : ∀ b, c.flowSize ⌈/⌉ c.pktSize ≤ b ↔ c.flowSize ≤ b * c.pktSize := by
    intro b
    rw [ceilDiv_le_iff_le_mul hpkt, Nat.mul_comm]
  have hfilled : filled c < 2 ^ 64 := by
    have hle : filled c ≤ c.flowSize + c.pktSize - 1 := by
      rw [filled, Nat.ceilDiv_eq_add_pred_div]
      exact Nat.div_mul_le_self _ _
    omega
  obtain ⟨start, hstart, hsent⟩ := SingleFlowApplication.start_sent c.pktSize hflow
  obtain ⟨u, b, hsends, hu, hb⟩ := hsent.sends_fill (k := c.flowSize ⌈/⌉ c.pktSize) hflow hbits hfilled
    (fun b hb => not_le.mp fun hle => ((hceil b).mp hle).not_gt hb) (Nat.zero_le _) os
  have hle : b * c.pktSize ≤ filled c := Nat.mul_le_mul_right _ hb
  have htransmitted : transmitted c os = .ok u := by
    rw [transmitted, SingleFlowApplication.transmit, hstart]
    exact hsends
  obtain rfl := Except.ok.inj (h.symm.trans htransmitted)
  refine ⟨hu.accepted ▸ hle, fun hstopped => ?_⟩
  rw [hu.stopped, Nat.mod_eq_of_lt (hle.trans_lt hfilled)] at hstopped
  have hfull : c.flowSize ≤ b * c.pktSize := by simpa using hstopped
  rw [hu.accepted, filled, hb.antisymm ((hceil b).mpr hfull)]

def onePacket : Attributes where
  pktSize := 6000
  flowSize := 6000
  cbrRate := 1000000000
  reportDone := true
  connectsAtOnce := false
  startTime := 0
  stopTime := 0
  bits := fun t => t
  nextTime := fun b => b

lemma onePacket_run : ∃ s, Reaches onePacket (doInitialize onePacket) [.accepts] s ∧ s.AtRest ∧
    s.socket = some .closed ∧ s.accepted = 6000 := by
  have htick : ∀ {s : Instance}, s.Legal (.tick .accepts) := fun _ _ _ _ => rfl
  have hstarted := Reaches.refl.step (c := onePacket) (s := doInitialize onePacket) _ htick rfl
  have hconnected := hstarted.step (.connectionSucceeded 5) rfl rfl
  have hsending := hconnected.step _ htick rfl
  have hsent := hsending.step _ htick rfl
  exact ⟨_, hsent, ⟨rfl, by decide⟩, rfl, rfl⟩

/-- What sends is scheduled once at a time, and only while the socket is connected; no legal input
fails; and the socket has accepted what it accepts of the bare sequence of sends. -/
theorem reaches_safe (h : Reaches c (doInitialize c) os s) :
    (∀ i, s.Legal i → ∃ u, s.step c i = .ok u) ∧
    (∀ e ∈ s.calendar.pending, e.action.Sends → s.socket = some .connected ∧
      ∀ e' ∈ s.calendar.pending, e'.action.Sends → e' = e) ∧
    ∃ t, transmitted c os = .ok t ∧ t.accepted = s.accepted := by
  obtain ⟨htracked, ⟨rfl, hwaiting⟩ | hphase⟩ := h.phase
  · refine ⟨fun i hi => ?_, fun e he hsends => ?_, _, transmitted_blank hwaiting.blank, rfl⟩
    · obtain ⟨-, u, hu, -⟩ := hwaiting.step htracked hi
      exact ⟨u, hu⟩
    · rcases hwaiting.due _ ⟨e, he, rfl⟩ with ha | ha
      · exact absurd hsends (not_sends_of_stops ha)
      · rw [ha] at hsends
        exact hsends.elim
  · refine ⟨fun i hi => ?_, fun e he hsends => ?_, ?_⟩
    · obtain ⟨u, hu, -⟩ := hphase.step htracked hi
      exact ⟨u, hu⟩
    · obtain ⟨hconnected, a, hall⟩ := hphase.due_sends ⟨e, he, rfl⟩ hsends
      refine ⟨hconnected, fun e' he' hsends' => htracked.eq_of_action he' he ?_⟩
      rw [hall _ ⟨e', he', rfl⟩ hsends', hall _ ⟨e, he, rfl⟩ hsends]
    · cases hphase with
      | connecting _ _ hb _ => exact ⟨_, transmitted_blank hb, rfl⟩
      | warm _ hb _ _ => exact ⟨_, transmitted_blank hb, rfl⟩
      | sending os _ _ hsim _ _ => exact ⟨_, hsim, rfl⟩
      | stopped os t _ _ hsim haccepted _ => exact ⟨t, hsim, haccepted⟩

theorem reaches_safe_one_packet : ∃ s, Reaches onePacket (doInitialize onePacket) [.accepts] s ∧
    ∃ t, transmitted onePacket [.accepts] = .ok t ∧ t.accepted = s.accepted := by
  obtain ⟨s, h, -⟩ := onePacket_run
  exact ⟨s, h, (reaches_safe h).2.2⟩

/-- The flow is never passed by a whole packet, and where the application has come to rest by itself
it is filled. -/
theorem reaches_accepted (hflow : 1 ≤ c.flowSize) (hpkt : 1 ≤ c.pktSize)
    (hbits : 8 * c.pktSize < 2 ^ 32) (hmax : c.flowSize + c.pktSize ≤ 2 ^ 64)
    (h : Reaches c (doInitialize c) os s) :
    s.accepted ≤ filled c ∧ (c.stopTime = 0 → s.AtRest → s.accepted = filled c) := by
  have hfill : ∀ {t : SingleFlowApplication}, transmitted c os = .ok t →
      t.accepted ≤ filled c ∧ (t.stopped = true → t.accepted = filled c) :=
    transmitted_filled hflow hpkt hbits hmax
  obtain ⟨-, ⟨rfl, hwaiting⟩ | hphase⟩ := h.phase
  · exact ⟨(hfill (transmitted_blank hwaiting.blank)).1,
      fun hzero hrest => absurd (hwaiting.starts hzero) hrest.not_due⟩
  · cases hphase with
    | connecting hs _ hb _ => exact ⟨(hfill (transmitted_blank hb)).1, fun _ hrest => absurd hs hrest.2⟩
    | warm _ hb _ hstart =>
      exact ⟨(hfill (transmitted_blank hb)).1, fun _ hrest => absurd hstart hrest.not_due⟩
    | sending os _ _ hsim _ hpacket =>
      exact ⟨(hfill hsim).1, fun _ hrest => absurd hpacket hrest.not_due⟩
    | stopped os t _ _ hsim haccepted hdone =>
      rw [← haccepted]
      exact ⟨(hfill hsim).1, fun hzero _ => (hfill hsim).2 (hdone hzero)⟩

theorem reaches_accepted_one_packet :
    ∃ s, Reaches onePacket (doInitialize onePacket) [.accepts] s ∧ s.accepted = filled onePacket := by
  obtain ⟨s, h, hrest, -⟩ := onePacket_run
  exact ⟨s, h, (reaches_accepted (by decide) (by decide) (by decide) (by decide) h).2 rfl hrest⟩

/-- Once its socket is closed the application sends nothing more. -/
theorem reaches_quiet (h : Reaches c (doInitialize c) os s) (hstarted : ¬s.Due .startApplication)
    (hclosed : s.socket = none ∨ s.socket = some .closed) (hrun : Reaches c s os' u) :
    os' = [] ∧ u.accepted = s.accepted ∧ (u.socket = none ∨ u.socket = some .closed) := by
  have hhalted : s.Tracked ∧ s.Halted c := by
    obtain ⟨htracked, ⟨rfl, hwaiting⟩ | hphase⟩ := h.phase
    · refine ⟨htracked, hclosed, fun a ha => (hwaiting.due a ha).resolve_right ?_⟩
      rintro rfl
      exact hstarted ha
    · cases hphase with
      | connecting hs _ _ _ => rcases hclosed with hc | hc <;> simp [hs] at hc
      | warm hs _ _ _ => rcases hclosed with hc | hc <;> simp [hs] at hc
      | sending os hs _ _ _ _ => rcases hclosed with hc | hc <;> simp [hs] at hc
      | stopped os t _ hdue _ _ _ => exact ⟨htracked, hclosed, hdue⟩
  obtain ⟨hanswers, -, hstill, haccepted⟩ := hhalted.2.run hhalted.1 hrun
  exact ⟨hanswers, haccepted, hstill.socket⟩

theorem reaches_quiet_one_packet : ∃ s, Reaches onePacket (doInitialize onePacket) [.accepts] s ∧
    ∀ os u, Reaches onePacket s os u → os = [] := by
  obtain ⟨s, h, hrest, hclosed, -⟩ := onePacket_run
  exact ⟨s, h, fun os u hrun => (reaches_quiet h hrest.not_due (Or.inr hclosed) hrun).1⟩

end Runs

end Instance

end SwarmSim.Flows
