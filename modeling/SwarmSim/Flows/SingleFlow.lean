import SwarmSim.Ns3.Ipv4

namespace SwarmSim.Flows

open Ns3

inductive Outcome
  | accepts
  | rejects
  deriving DecidableEq

def Outcome.packets : Outcome → ℕ
  | .accepts => 1
  | .rejects => 0

structure SingleFlowApplication where
  pktSize : ℕ
  flowSize : ℕ
  residualBits : ℕ := 0
  totBytes : ℕ := 0
  unsentPacket : Option ℕ := none
  sendEvent : Bool := false
  /-- `StopApplication` has closed the socket. -/
  stopped : Bool := false
  /-- The bytes that the socket has accepted; the application does not read them. -/
  accepted : ℕ := 0
  deriving DecidableEq

namespace SingleFlowApplication

-- The send event has expired when `CancelEvents` is reached: no residual bits are added.
def stopApplication (s : SingleFlowApplication) : SingleFlowApplication :=
  { s with unsentPacket := none, stopped := true }

def scheduleNextTx (s : SingleFlowApplication) : Except Fault SingleFlowApplication :=
  if s.flowSize = 0 ∨ s.totBytes < s.flowSize then
    if s.pktSize * 8 % 2 ^ 32 < s.residualBits then
      .error (.abort "Calculation to compute next send time will overflow")
    else .ok { s with sendEvent := true }
  else .ok s.stopApplication

def actual (packet : ℕ) : Outcome → ℤ
  | .accepts => packet
  | .rejects => -1

def sendPacket (o : Outcome) (s : SingleFlowApplication) : Except Fault SingleFlowApplication :=
  let packet := s.unsentPacket.getD s.pktSize
  let s := { s with
    sendEvent := false
    accepted := s.accepted + (actual packet o).toNat }
  let s :=
    if actual packet o % 2 ^ 32 = s.pktSize then
      { s with totBytes := (s.totBytes + s.pktSize) % 2 ^ 64, unsentPacket := none }
    else { s with unsentPacket := some packet }
  scheduleNextTx { s with residualBits := 0 }

def sends : List Outcome → SingleFlowApplication → Except Fault SingleFlowApplication
  | [], s => .ok s
  | o :: os, s => if s.sendEvent then (s.sendPacket o).bind (sends os) else .ok s

def transmit (outcomes : List Outcome) (s : SingleFlowApplication) :
    Except Fault SingleFlowApplication := s.scheduleNextTx.bind (sends outcomes)

def SendsItsSize (flowSize pktSize : ℕ) : Prop :=
  ∀ outcomes, ∃ s, transmit outcomes { pktSize, flowSize } = .ok s ∧ s.accepted ≤ flowSize ∧
    (s.stopped = true → s.accepted = flowSize)

structure Sent (size pkt a : ℕ) (s : SingleFlowApplication) : Prop where
  pktSize : s.pktSize = pkt
  flowSize : s.flowSize = size
  residualBits : s.residualBits = 0
  totBytes : s.totBytes = a * pkt % 2 ^ 64
  accepted : s.accepted = a * pkt
  unsentPacket : ∀ packet ∈ s.unsentPacket, packet = pkt
  sendEvent : s.sendEvent = decide (a * pkt % 2 ^ 64 < size)
  stopped : s.stopped = !decide (a * pkt % 2 ^ 64 < size)

section Sends

variable {flowSize pktSize a n k : ℕ} {s : SingleFlowApplication} {o : Outcome}

lemma scheduleNextTx_sent (hpos : 0 < flowSize) (hpkt : s.pktSize = pktSize)
    (hflow : s.flowSize = flowSize) (hbits : s.residualBits = 0)
    (htot : s.totBytes = a * pktSize % 2 ^ 64) (hacc : s.accepted = a * pktSize)
    (hunsent : ∀ packet ∈ s.unsentPacket, packet = pktSize) (hevent : s.sendEvent = false)
    (hstop : s.stopped = false) : ∃ t, s.scheduleNextTx = .ok t ∧ Sent flowSize pktSize a t := by
  unfold scheduleNextTx
  by_cases hlt : a * pktSize % 2 ^ 64 < flowSize
  · rw [if_pos (Or.inr (by rwa [htot, hflow])), if_neg (by omega)]
    refine ⟨_, rfl, hpkt, hflow, hbits, htot, hacc, hunsent, (decide_eq_true hlt).symm, ?_⟩
    rw [decide_eq_true hlt]
    exact hstop
  · rw [if_neg (by rw [htot, hflow]; omega)]
    refine ⟨_, rfl, hpkt, hflow, hbits, htot, hacc, by simp [stopApplication],
      hevent.trans (decide_eq_false hlt).symm, ?_⟩
    rw [decide_eq_false hlt]
    rfl

lemma Sent.sendPacket (h : Sent flowSize pktSize a s) (hpos : 0 < flowSize)
    (hbits : 8 * pktSize < 2 ^ 32) (hpending : s.sendEvent = true) (o : Outcome) :
    ∃ t, s.sendPacket o = .ok t ∧ Sent flowSize pktSize (a + o.packets) t := by
  have hpacket : s.unsentPacket.getD s.pktSize = pktSize := by
    cases hu : s.unsentPacket with
    | none => exact h.pktSize
    | some packet => exact h.unsentPacket packet hu
  have hrun : s.stopped = false := by
    rw [h.stopped, ← h.sendEvent, hpending]
    rfl
  unfold SingleFlowApplication.sendPacket
  rw [hpacket]
  cases o with
  | accepts =>
    have hsize : actual pktSize .accepts % 2 ^ 32 = (s.pktSize : ℤ) := by
      rw [h.pktSize, actual]
      omega
    dsimp only
    rw [if_pos hsize]
    apply scheduleNextTx_sent hpos
    · exact h.pktSize
    · exact h.flowSize
    · rfl
    · show (s.totBytes + s.pktSize) % 2 ^ 64 = (a + 1) * pktSize % 2 ^ 64
      rw [h.totBytes, h.pktSize, Nat.mod_add_mod, Nat.succ_mul]
    · show s.accepted + (actual pktSize .accepts).toNat = (a + 1) * pktSize
      rw [h.accepted, actual, Int.toNat_natCast, Nat.succ_mul]
    · simp
    · rfl
    · exact hrun
  | rejects =>
    have hsize : ¬ actual pktSize .rejects % 2 ^ 32 = (s.pktSize : ℤ) := by
      rw [h.pktSize, actual]
      omega
    dsimp only
    rw [if_neg hsize]
    apply scheduleNextTx_sent hpos
    · exact h.pktSize
    · exact h.flowSize
    · rfl
    · exact h.totBytes
    · exact h.accepted
    · simp
    · rfl
    · exact hrun

lemma start_sent (pktSize : ℕ) (hpos : 0 < flowSize) :
    ∃ s, scheduleNextTx { pktSize, flowSize } = .ok s ∧ Sent flowSize pktSize 0 s :=
  scheduleNextTx_sent hpos rfl rfl rfl (by simp) (by simp) (by simp) rfl rfl

lemma Sent.sends_fill (h : Sent flowSize pktSize a s) (hpos : 0 < flowSize)
    (hbits : 8 * pktSize < 2 ^ 32) (hmax : k * pktSize < 2 ^ 64)
    (hleast : ∀ b, b * pktSize < flowSize → b < k) (ha : a ≤ k) (outcomes : List Outcome) :
    ∃ t b, sends outcomes s = .ok t ∧ Sent flowSize pktSize b t ∧ b ≤ k := by
  induction outcomes generalizing a s with
  | nil => exact ⟨s, a, rfl, h, ha⟩
  | cons o outcomes ih =>
    cases hpending : s.sendEvent with
    | false => exact ⟨s, a, by simp [sends, hpending], h, ha⟩
    | true =>
      obtain ⟨t, hsend, ht⟩ := h.sendPacket hpos hbits hpending o
      have hmore : a < k := by
        have hlt := hpending
        rw [h.sendEvent, decide_eq_true_eq,
          Nat.mod_eq_of_lt ((Nat.mul_le_mul_right pktSize ha).trans_lt hmax)] at hlt
        exact hleast a hlt
      have hb : a + o.packets ≤ k := by
        cases o <;> simp only [Outcome.packets] <;> omega
      obtain ⟨u, b, hsends, hu⟩ := ih ht hb
      refine ⟨u, b, ?_, hu⟩
      rw [sends, hpending, if_pos rfl, hsend]
      exact hsends

lemma Sent.sends_upto (h : Sent flowSize pktSize a s) (hpos : 0 < flowSize)
    (hbits : 8 * pktSize < 2 ^ 32) (hflow : flowSize = k * pktSize) (hmax : flowSize < 2 ^ 64)
    (ha : a ≤ k) (outcomes : List Outcome) :
    ∃ t b, sends outcomes s = .ok t ∧ Sent flowSize pktSize b t ∧ b ≤ k := by
  apply h.sends_fill hpos hbits (hflow ▸ hmax) _ ha
  intro b hb
  rw [hflow] at hb
  exact lt_of_mul_lt_mul_right hb (Nat.zero_le _)

lemma Sent.sends_replicate (h : Sent flowSize pktSize a s) (hpos : 0 < flowSize)
    (hbits : 8 * pktSize < 2 ^ 32) (hmax : flowSize < 2 ^ 64)
    (hless : ∀ b < a + n, b * pktSize < flowSize) :
    ∃ t, sends (List.replicate n .accepts) s = .ok t ∧ Sent flowSize pktSize (a + n) t := by
  induction n generalizing a s with
  | zero => exact ⟨s, rfl, h⟩
  | succ n ih =>
    have hlt := hless a (by omega)
    have hpending : s.sendEvent = true := by
      rw [h.sendEvent, decide_eq_true_eq, Nat.mod_eq_of_lt (hlt.trans hmax)]
      exact hlt
    obtain ⟨t, hsend, ht⟩ := h.sendPacket hpos hbits hpending .accepts
    obtain ⟨u, hsends, hu⟩ := ih ht fun b hb => hless b (by rw [Outcome.packets] at hb; omega)
    refine ⟨u, ?_, ?_⟩
    · rw [List.replicate_succ, sends, hpending, if_pos rfl, hsend]
      exact hsends
    · rwa [Outcome.packets, Nat.add_assoc, Nat.add_comm 1 n] at hu

/-- The flow is sent in whole packets: its size is met only by a number of them. -/
theorem sendsItsSize_iff (flowSize pktSize : ℕ) (hflow : 1 ≤ flowSize) (hmax : flowSize < 2 ^ 64)
    (hpkt : 1 ≤ pktSize) (hbits : 8 * pktSize < 2 ^ 32) :
    SendsItsSize flowSize pktSize ↔ pktSize ∣ flowSize := by
  obtain ⟨s, hstart, hs⟩ := start_sent pktSize hflow
  constructor
  · intro h
    by_contra hdvd
    -- One packet more than fits into the flow.
    let n := flowSize / pktSize + 1
    have hless : ∀ b < 0 + n, b * pktSize < flowSize := by
      intro b hb
      have hle : b * pktSize ≤ flowSize :=
        (Nat.mul_le_mul_right pktSize (by omega)).trans (Nat.div_mul_le_self flowSize pktSize)
      apply hle.lt_of_ne
      rintro rfl
      exact hdvd (Nat.dvd_mul_left pktSize b)
    obtain ⟨t, hsends, ht⟩ := hs.sends_replicate hflow hbits hmax hless
    obtain ⟨u, hu, hle, -⟩ := h (List.replicate n .accepts)
    rw [transmit, hstart] at hu
    obtain rfl : t = u := Except.ok.inj (hsends.symm.trans hu)
    rw [ht.accepted, Nat.zero_add] at hle
    exact absurd hle (Nat.lt_mul_of_div_lt (Nat.lt_succ_self _) hpkt).not_ge
  · rintro ⟨k, hk⟩ outcomes
    rw [Nat.mul_comm] at hk
    obtain ⟨t, b, hsends, ht, hb⟩ := hs.sends_upto hflow hbits hk hmax (Nat.zero_le k) outcomes
    have hle : b * pktSize ≤ flowSize := hk ▸ Nat.mul_le_mul_right pktSize hb
    refine ⟨t, ?_, ht.accepted ▸ hle, fun hstopped => ?_⟩
    · rw [transmit, hstart]
      exact hsends
    · rw [ht.stopped, Nat.mod_eq_of_lt (hle.trans_lt hmax)] at hstopped
      rw [ht.accepted]
      exact hle.antisymm (by simpa using hstopped)

theorem sendsItsSize_twelve_thousand : SendsItsSize 12000 6000 ↔ 6000 ∣ 12000 :=
  sendsItsSize_iff 12000 6000 (by decide) (by decide) (by decide) (by decide)

theorem not_sendsItsSize_one : ¬ SendsItsSize 1 6000 := by
  intro h
  obtain ⟨s, hs, hle, -⟩ := h [.accepts]
  have hsent : transmit [.accepts] { pktSize := 6000, flowSize := 1 } =
      .ok ⟨6000, 1, 0, 6000, none, false, true, 6000⟩ := by decide
  rw [hsent, Except.ok.injEq] at hs
  subst hs
  exact absurd hle (by decide)

end Sends

end SingleFlowApplication

end SwarmSim.Flows
