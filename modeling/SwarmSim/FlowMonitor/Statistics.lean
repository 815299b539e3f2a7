import Mathlib.Algebra.Order.BigOperators.Group.List
import SwarmSim.FlowMonitor.Balance

namespace SwarmSim.FlowMonitor

open Ns3 Machine

inductive Resolution
  | ns
  | us
  deriving DecidableEq

/-- `Time::FromInteger(value, Time::NS)`, in ticks. -/
def fromNanoseconds : Resolution → ℕ → ℕ
  | .ns, value => value
  | .us, value => value / 1000

namespace Accounts

variable {n : ℕ}

/-- `ReportLastRx` under either resolution: the tag has the time of the send in ticks. -/
def reportLastRxIn (res : Resolution) (now : ℕ) (probe : Fin n) (flowId : FlowId)
    (packetId : FlowPacketId) (packetSize : BitVec 32) (tStart : ℕ) (s : Accounts n) : Accounts n :=
  if !s.monitor.enabled then s
  else
    { monitor := s.monitor.reportLastRx now flowId packetId packetSize.toNat tStart
      probes := Function.update s.probes probe ((s.probes probe).addPacketStats flowId
        packetSize.toNat (now - fromNanoseconds res tStart)) }

def stepIn (res : Resolution) (s : Accounts n) : MonitorCall n → Except Fault (Accounts n)
  | .reportLastRx now probe flowId packetId packetSize tStart =>
    .ok (s.reportLastRxIn res now probe flowId packetId packetSize tStart)
  | c => s.step c

def runIn (res : Resolution) (calls : List (MonitorCall n)) : Except Fault (Accounts n) :=
  calls.foldlM (stepIn res) { monitor := { enabled := true } }

end Accounts

namespace MonitorCall

variable {n : ℕ}

def Positive : MonitorCall n → Prop
  | reportFirstTx now _ _ _ packetSize => 0 < now ∧ 0 < packetSize.toNat
  | reportLastRx now _ _ _ packetSize tStart => 0 < now ∧ 0 < packetSize.toNat ∧ 0 < tStart
  | reportDrop _ _ _ packetSize _ => 0 < packetSize.toNat
  | startRightNow | stopRightNow => False

def sent (x : FlowId) : MonitorCall n → Option ℕ
  | reportFirstTx now _ flowId _ _ => if x = flowId then some now else none
  | _ => none

def received (x : FlowId) : MonitorCall n → Option (ℕ × ℕ)
  | reportLastRx now _ flowId _ packetSize _ =>
    if x = flowId then some (now, packetSize.toNat) else none
  | _ => none

def delay (since : ℕ → ℕ) (i : Fin n) (x : FlowId) : MonitorCall n → ℤ
  | reportLastRx now probe flowId _ _ tStart =>
    if i = probe then if x = flowId then now - since tStart else 0 else 0
  | _ => 0

end MonitorCall

section Events

variable {n : ℕ} (x : FlowId) (calls : List (MonitorCall n))

def sendTimes : List ℕ := calls.filterMap (MonitorCall.sent x)

def receptions : List (ℕ × ℕ) := calls.filterMap (MonitorCall.received x)

def delaySum (since : ℕ → ℕ) (i : Fin n) : ℤ := (calls.map (MonitorCall.delay since i x)).sum

end Events

structure FoldOfEvents {n : ℕ} (calls : List (MonitorCall n)) (s : Accounts n) : Prop where
  txBytes : ∀ x, (s.monitor.getStatsForFlow x).txBytes.toNat =
    totalOf (MonitorCall.txBytes x) calls
  rxBytes : ∀ x, (s.monitor.getStatsForFlow x).rxBytes.toNat =
    totalOf (MonitorCall.rxBytes x) calls
  firstTx : ∀ x, ∀ now ∈ (sendTimes x calls).head?,
    (s.monitor.getStatsForFlow x).timeFirstTxPacket = now
  lastTx : ∀ x, ∀ now ∈ (sendTimes x calls).getLast?,
    (s.monitor.getStatsForFlow x).timeLastTxPacket = now
  firstRx : ∀ x, ∀ r ∈ (receptions x calls).head?,
    (s.monitor.getStatsForFlow x).timeFirstRxPacket = r.1
  lastRx : ∀ x, ∀ r ∈ (receptions x calls).getLast?,
    (s.monitor.getStatsForFlow x).timeLastRxPacket = r.1
  delays : ∀ i x, ((s.probes i).statsOf x).delayFromFirstProbeSum = delaySum x calls id i

/-- The sequences that are counted right: no counter wraps, and a flow that is received at all is
received under nanoseconds, with a first packet of one byte and a second one in the same tick. -/
structure CountedRight {n : ℕ} (res : Resolution) (calls : List (MonitorCall n)) : Prop where
  txBytes : ∀ x, totalOf (MonitorCall.txBytes x) calls < 2 ^ 64
  rxBytes : ∀ x, totalOf (MonitorCall.rxBytes x) calls < 2 ^ 64
  reasonCode : ∀ c ∈ calls, ∀ code ∈ c.reasonCode, code + 1 ≠ 0
  received : ∀ x, receptions x calls ≠ [] → res = .ns ∧
    ∃ now size rest, receptions x calls = (now, 1) :: (now, size) :: rest

def secondAfterOne : List (ℕ × ℕ) → ℕ
  | first :: second :: _ => if first.2 = 1 then second.1 else 0
  | _ => 0

structure Entry {n : ℕ} (x : FlowId) (calls : List (MonitorCall n)) (stats : FlowStats) : Prop where
  firstTx : totalOf (MonitorCall.txBytes x) calls < 2 ^ 64 →
    ∀ now ∈ (sendTimes x calls).head?, stats.timeFirstTxPacket = now
  lastTx : ∀ now ∈ (sendTimes x calls).getLast?, stats.timeLastTxPacket = now
  firstRx : totalOf (MonitorCall.rxBytes x) calls < 2 ^ 64 →
    stats.timeFirstRxPacket = secondAfterOne (receptions x calls)
  lastRx : ∀ r ∈ (receptions x calls).getLast?, stats.timeLastRxPacket = r.1

structure Accounted {n : ℕ} (res : Resolution) (calls : List (MonitorCall n)) (s : Accounts n) :
    Prop where
  enabled : s.monitor.enabled = true
  reasonCode : ∀ c ∈ calls, ∀ code ∈ c.reasonCode, code + 1 ≠ 0
  totals : MonitorAgrees s.monitor calls
  entries : ∀ x, Entry x calls (s.monitor.getStatsForFlow x)
  delays : ∀ i x, ((s.probes i).statsOf x).delayFromFirstProbeSum =
    delaySum x calls (fromNanoseconds res) i

section Lists

variable {n : ℕ} {x : FlowId} {calls : List (MonitorCall n)} {c : MonitorCall n}

lemma sendTimes_concat : sendTimes x (calls ++ [c]) = sendTimes x calls ++ (c.sent x).toList := by
  rw [sendTimes, List.filterMap_append]
  cases h : c.sent x <;> simp [sendTimes, h]

lemma receptions_concat :
    receptions x (calls ++ [c]) = receptions x calls ++ (c.received x).toList := by
  rw [receptions, List.filterMap_append]
  cases h : c.received x <;> simp [receptions, h]

lemma delaySum_concat (since : ℕ → ℕ) (i : Fin n) :
    delaySum x (calls ++ [c]) since i = delaySum x calls since i + c.delay since i x := by
  simp [delaySum]

lemma totalOf_rxBytes :
    totalOf (MonitorCall.rxBytes x) calls = ((receptions x calls).map Prod.snd).sum := by
  induction calls using List.reverseRecOn with
  | nil => rfl
  | append_singleton calls c ih =>
    rw [totalOf_concat, receptions_concat, List.map_append, List.sum_append, ih]
    congr 1
    cases c with
    | reportLastRx now i flowId packetId packetSize tStart =>
      rw [MonitorCall.rxBytes, MonitorCall.received]
      split_ifs <;> simp
    | _ => rfl

lemma totalOf_txBytes_eq_zero (h : ∀ c ∈ calls, c.Positive) :
    totalOf (MonitorCall.txBytes x) calls = 0 ↔ sendTimes x calls = [] := by
  induction calls using List.reverseRecOn with
  | nil => simp [totalOf, sendTimes]
  | append_singleton calls c ih =>
    have hc : c.Positive := h c (List.mem_append_right _ List.mem_cons_self)
    rw [totalOf_concat, sendTimes_concat, Nat.add_eq_zero_iff, List.append_eq_nil_iff,
      ih fun d hd => h d (List.mem_append_left _ hd)]
    apply and_congr Iff.rfl
    cases c with
    | reportFirstTx now i flowId packetId packetSize =>
      have hsize := hc.2.ne'
      rw [MonitorCall.txBytes, MonitorCall.sent]
      split_ifs <;> simp [hsize]
    | _ => simp [MonitorCall.txBytes, MonitorCall.sent]

lemma receptions_pos (h : ∀ c ∈ calls, c.Positive) : ∀ r ∈ receptions x calls, 0 < r.1 ∧ 0 < r.2 := by
  intro r hr
  obtain ⟨c, hc, hr⟩ := List.mem_filterMap.mp hr
  have hpos := h c hc
  cases c with
  | reportLastRx now i flowId packetId packetSize tStart =>
    rw [MonitorCall.received] at hr
    split_ifs at hr
    obtain rfl := Option.some.inj hr
    exact ⟨hpos.1, hpos.2.1⟩
  | _ => cases hr

lemma secondAfterOne_concat {l : List (ℕ × ℕ)} (h : ∀ r ∈ l, 0 < r.2) (r : ℕ × ℕ) :
    secondAfterOne (l ++ [r]) = if (l.map Prod.snd).sum = 1 then r.1 else secondAfterOne l := by
  rcases l with _ | ⟨first, _ | ⟨second, rest⟩⟩
  · rfl
  · simp [secondAfterOne]
  · have hfirst := h first List.mem_cons_self
    have hsecond := h second (List.mem_cons_of_mem _ List.mem_cons_self)
    have hsum : ((first :: second :: rest).map Prod.snd).sum ≠ 1 := by
      simp only [List.map_cons, List.sum_cons]
      omega
    rw [if_neg hsum]
    rfl

end Lists

namespace Entry

variable {n : ℕ} {x : FlowId} {calls : List (MonitorCall n)} {c : MonitorCall n} {stats : FlowStats}
  {now tStart reasonCode : ℕ} {i : Fin n} {packetId : FlowPacketId} {packetSize : BitVec 32}

lemma totalOf_lt {amount : MonitorCall n → ℕ} (h : totalOf amount (calls ++ [c]) < 2 ^ 64) :
    totalOf amount calls < 2 ^ 64 := by
  rw [totalOf_concat] at h
  omega

lemma skip (h : Entry x calls stats) (hs : c.sent x = none) (hr : c.received x = none) :
    Entry x (calls ++ [c]) stats := by
  have hsends : sendTimes x (calls ++ [c]) = sendTimes x calls := by
    rw [sendTimes_concat, hs, Option.toList_none, List.append_nil]
  have hreceptions : receptions x (calls ++ [c]) = receptions x calls := by
    rw [receptions_concat, hr, Option.toList_none, List.append_nil]
  refine ⟨fun hlt => ?_, ?_, fun hlt => ?_, ?_⟩
  · rw [hsends]
    exact h.firstTx (totalOf_lt hlt)
  · rw [hsends]
    exact h.lastTx
  · rw [hreceptions]
    exact h.firstRx (totalOf_lt hlt)
  · rw [hreceptions]
    exact h.lastRx

lemma drop (h : Entry x calls stats) (packetSize : ℕ) :
    Entry x calls (stats.drop packetSize reasonCode) := by
  refine ⟨fun hlt => ?_, ?_, fun hlt => ?_, ?_⟩
  · rw [FlowStats.drop_timeFirstTxPacket]
    exact h.firstTx hlt
  · rw [FlowStats.drop_timeLastTxPacket]
    exact h.lastTx
  · rw [FlowStats.drop_timeFirstRxPacket]
    exact h.firstRx hlt
  · rw [FlowStats.drop_timeLastRxPacket]
    exact h.lastRx

lemma firstTx_report (h : Entry x calls stats) (hpos : ∀ c ∈ calls, c.Positive)
    (htx : stats.txBytes = BitVec.ofNat 64 (totalOf (MonitorCall.txBytes x) calls)) :
    Entry x (calls ++ [.reportFirstTx now i x packetId packetSize])
      (stats.firstTx now packetSize.toNat) := by
  have hsends : sendTimes x (calls ++ [.reportFirstTx now i x packetId packetSize]) =
      sendTimes x calls ++ [now] := by
    rw [sendTimes_concat, MonitorCall.sent, if_pos rfl, Option.toList_some]
  have hreceptions : receptions x (calls ++ [.reportFirstTx now i x packetId packetSize]) =
      receptions x calls := by
    rw [receptions_concat]
    exact List.append_nil _
  refine ⟨fun hlt => ?_, ?_, fun hlt => ?_, ?_⟩
  · have hold := totalOf_lt hlt
    have hzero : stats.txBytes = 0 ↔ sendTimes x calls = [] := by
      rw [htx, ← totalOf_txBytes_eq_zero hpos, ← BitVec.toNat_inj, toNat_ofNat_of_lt hold]
      rfl
    rw [hsends, FlowStats.firstTx_timeFirstTxPacket]
    intro t ht
    by_cases hnil : sendTimes x calls = []
    · rw [hnil] at ht
      rw [if_pos (hzero.mpr hnil)]
      exact Option.some.inj ht
    · rw [List.head?_append_of_ne_nil _ hnil] at ht
      rw [if_neg (hzero.not.mpr hnil)]
      exact h.firstTx hold t ht
  · rw [hsends, List.getLast?_concat]
    intro t ht
    exact Option.some.inj ht
  · rw [hreceptions, FlowStats.firstTx_timeFirstRxPacket]
    exact h.firstRx (totalOf_lt hlt)
  · rw [hreceptions, FlowStats.firstTx_timeLastRxPacket]
    exact h.lastRx

lemma lastRx_report (h : Entry x calls stats) (hpos : ∀ c ∈ calls, c.Positive)
    (hrx : stats.rxBytes = BitVec.ofNat 64 (totalOf (MonitorCall.rxBytes x) calls)) :
    Entry x (calls ++ [.reportLastRx now i x packetId packetSize tStart])
      (stats.lastRx now packetSize.toNat tStart) := by
  have hsends : sendTimes x (calls ++ [.reportLastRx now i x packetId packetSize tStart]) =
      sendTimes x calls := by
    rw [sendTimes_concat]
    exact List.append_nil _
  have hreceptions : receptions x (calls ++ [.reportLastRx now i x packetId packetSize tStart]) =
      receptions x calls ++ [(now, packetSize.toNat)] := by
    rw [receptions_concat, MonitorCall.received, if_pos rfl, Option.toList_some]
  refine ⟨fun hlt => ?_, ?_, fun hlt => ?_, ?_⟩
  · rw [hsends, FlowStats.lastRx_timeFirstTxPacket]
    intro t ht
    have hold := h.firstTx (totalOf_lt hlt) t ht
    have htime : 0 < t := by
      obtain ⟨c, hc, hsent⟩ := List.mem_filterMap.mp (List.mem_of_mem_head? ht)
      have hc := hpos c hc
      cases c with
      | reportFirstTx now i flowId packetId packetSize =>
        rw [MonitorCall.sent] at hsent
        split_ifs at hsent
        exact Option.some.inj hsent ▸ hc.1
      | _ => cases hsent
    rw [if_neg (by omega), hold]
  · rw [hsends, FlowStats.lastRx_timeLastTxPacket]
    exact h.lastTx
  · have hold := totalOf_lt hlt
    have hone : stats.rxBytes = 1 ↔ ((receptions x calls).map Prod.snd).sum = 1 := by
      rw [hrx, ← totalOf_rxBytes, ← BitVec.toNat_inj, toNat_ofNat_of_lt hold]
      rfl
    rw [hreceptions, secondAfterOne_concat fun r hr => (receptions_pos hpos r hr).2,
      FlowStats.lastRx_timeFirstRxPacket, h.firstRx hold]
    exact if_congr hone rfl rfl
  · rw [hreceptions, List.getLast?_concat]
    rintro r hr
    exact congrArg Prod.fst (Option.some.inj hr)

end Entry

namespace Accounted

variable {n : ℕ} {res : Resolution} {calls : List (MonitorCall n)} {c : MonitorCall n}
  {s t : Accounts n}

lemma start : Accounted res ([] : List (MonitorCall n)) { monitor := { enabled := true } } where
  enabled := rfl
  reasonCode := by simp
  totals := ⟨fun _ => rfl, fun _ => rfl, fun _ => Counts.empty⟩
  entries x := ⟨by simp [sendTimes], by simp [sendTimes], fun _ => rfl, by simp [receptions]⟩
  delays i x := rfl

lemma reasonCode_concat (h : Accounted res calls s) (hc : ∀ code ∈ c.reasonCode, code + 1 ≠ 0) :
    ∀ d ∈ calls ++ [c], ∀ code ∈ d.reasonCode, code + 1 ≠ 0 := by
  intro d hd
  rcases List.mem_append.mp hd with hd | hd
  · exact h.reasonCode d hd
  · obtain rfl := List.mem_singleton.mp hd
    exact hc

lemma delays_addPacketStats (h : Accounted res calls s) {i : Fin n} {flowId : FlowId}
    {packetSize : ℕ} {delay : ℤ} (hc : ∀ j x, c.delay (fromNanoseconds res) j x =
      if j = i then if x = flowId then delay else 0 else 0) (j : Fin n) (x : FlowId) :
    ((Function.update s.probes i ((s.probes i).addPacketStats flowId packetSize delay) j).statsOf
      x).delayFromFirstProbeSum = delaySum x (calls ++ [c]) (fromNanoseconds res) j := by
  rw [delaySum_concat, hc, ← h.delays]
  by_cases hj : j = i
  · subst hj
    rw [Function.update_self, MpiFlowProbe.addPacketStats_delay, if_pos rfl]
  · rw [Function.update_of_ne hj, if_neg hj, Int.add_zero]

lemma step (h : Accounted res calls s) (hpos : ∀ d ∈ calls, d.Positive) (hc : c.Positive)
    (hok : s.stepIn res c = .ok t) : Accounted res (calls ++ [c]) t := by
  have hon : ¬(!s.monitor.enabled) = true := by simp [h.enabled]
  cases c with
  | startRightNow | stopRightNow => cases hc
  | reportFirstTx now i flowId packetId packetSize =>
    obtain rfl : s.reportFirstTx now i flowId packetId packetSize = t := Except.ok.inj hok
    rw [Accounts.reportFirstTx, if_neg hon]
    refine ⟨MpiFlowMonitor.reportFirstTx_enabled.trans h.enabled, ?_,
      h.totals.reportFirstTx h.enabled, fun x => ?_, h.delays_addPacketStats fun _ _ => ?_⟩
    · exact h.reasonCode_concat fun _ hcode => nomatch hcode
    · rw [MpiFlowMonitor.reportFirstTx_getStatsForFlow h.enabled]
      split_ifs with hx
      · subst hx
        exact (h.entries x).firstTx_report hpos (h.totals.txBytes x)
      · exact (h.entries x).skip (if_neg hx) rfl
    · simp [MonitorCall.delay]
  | reportLastRx now i flowId packetId packetSize tStart =>
    obtain rfl : s.reportLastRxIn res now i flowId packetId packetSize tStart = t :=
      Except.ok.inj hok
    rw [Accounts.reportLastRxIn, if_neg hon]
    refine ⟨MpiFlowMonitor.reportLastRx_enabled.trans h.enabled, ?_,
      h.totals.reportLastRx h.enabled, fun x => ?_, h.delays_addPacketStats fun _ _ => rfl⟩
    · exact h.reasonCode_concat fun _ hcode => nomatch hcode
    · rw [MpiFlowMonitor.reportLastRx_getStatsForFlow h.enabled]
      split_ifs with hx
      · subst hx
        exact (h.entries x).lastRx_report hpos (h.totals.rxBytes x)
      · exact (h.entries x).skip rfl (if_neg hx)
  | reportDrop i flowId packetId packetSize reasonCode =>
    have hdrop : s.reportDrop i flowId packetId packetSize reasonCode = .ok t := hok
    rw [Accounts.reportDrop, if_neg hon] at hdrop
    by_cases hcode : reasonCode + 1 = 0
    · rw [if_pos hcode] at hdrop
      cases hdrop
    · rw [if_neg hcode] at hdrop
      obtain rfl := Except.ok.inj hdrop
      refine ⟨MpiFlowMonitor.reportDrop_enabled.trans h.enabled, ?_,
        h.totals.reportDrop h.enabled, fun x => ?_, fun j x => ?_⟩
      · exact h.reasonCode_concat fun code hcode' => Option.some.inj hcode' ▸ hcode
      · rw [MpiFlowMonitor.reportDrop_getStatsForFlow h.enabled]
        split_ifs
        · exact ((h.entries x).drop packetSize.toNat).skip rfl rfl
        · exact (h.entries x).skip rfl rfl
      · have hdelay : (MonitorCall.reportDrop i flowId packetId packetSize reasonCode).delay
            (fromNanoseconds res) j x = 0 := rfl
        rw [delaySum_concat, hdelay, Int.add_zero, ← h.delays]
        dsimp only
        by_cases hj : j = i
        · subst hj
          rw [Function.update_self, MpiFlowProbe.addPacketDropStats_delay]
        · rw [Function.update_of_ne hj]

lemma of_run (hpos : ∀ c ∈ calls, c.Positive) (h : Accounts.runIn res calls = .ok t) :
    Accounted res calls t := by
  refine foldlM_ok (I := fun calls s => (∀ c ∈ calls, c.Positive) → Accounted res calls s)
    (fun _ => start) ?_ h hpos
  intro pre c s t hs hok hpos
  have hpre : ∀ d ∈ pre, d.Positive := fun d hd => hpos d (List.mem_append_left _ hd)
  exact (hs hpre).step hpre (hpos c (List.mem_append_right _ List.mem_cons_self)) hok

end Accounted

section Statistics

variable {n : ℕ} {res : Resolution} {calls : List (MonitorCall n)} {s : Accounts n} {x : FlowId}

lemma runIn_ok (hcode : ∀ c ∈ calls, ∀ code ∈ c.reasonCode, code + 1 ≠ 0) :
    ∃ s, Accounts.runIn res calls = .ok s := by
  have hrun : ∃ s, Accounts.runIn res calls = .ok s ∧ True := by
    refine foldlM_invariant (I := fun _ _ => True) trivial ?_
    intro pre c post s hcalls _
    have hc := hcode c (hcalls ▸ List.mem_append_right _ List.mem_cons_self)
    cases c with
    | reportDrop i flowId packetId packetSize reasonCode =>
      by_cases hon : (!s.monitor.enabled) = true
      · exact ⟨s, if_pos hon, trivial⟩
      · exact ⟨_, (if_neg hon).trans (if_neg (hc reasonCode rfl)), trivial⟩
    | _ => exact ⟨_, rfl, trivial⟩
  obtain ⟨s, hs, -⟩ := hrun
  exact ⟨s, hs⟩

lemma delaySum_congr {since since' : ℕ → ℕ} {i : Fin n}
    (h : receptions x calls ≠ [] → since = since') :
    delaySum x calls since i = delaySum x calls since' i := by
  by_cases hnil : receptions x calls = []
  · have hzero : ∀ since : ℕ → ℕ, ∀ c ∈ calls, c.delay since i x = 0 := by
      intro since c hc
      have hnone := List.filterMap_eq_nil_iff.mp hnil c hc
      cases c with
      | reportLastRx now probe flowId packetId packetSize tStart =>
        have hx : ¬ x = flowId := by
          intro hx
          rw [MonitorCall.received, if_pos hx] at hnone
          cases hnone
        rw [MonitorCall.delay, if_neg hx, ite_self]
      | _ => rfl
    rw [delaySum, delaySum, List.map_congr_left (hzero since), List.map_congr_left (hzero since')]
  · rw [h hnil]

/-- Under microseconds every reception adds more than its delay: ticks are read as nanoseconds. -/
lemma delaySum_lt (hpos : ∀ c ∈ calls, c.Positive) (h : receptions x calls ≠ []) :
    ∃ i, delaySum x calls id i < delaySum x calls (fromNanoseconds .us) i := by
  obtain ⟨r, hr⟩ := List.exists_mem_of_ne_nil _ h
  obtain ⟨c, hc, hreceived⟩ := List.mem_filterMap.mp hr
  have hle : ∀ i, ∀ d ∈ calls, d.delay id i x ≤ d.delay (fromNanoseconds .us) i x := by
    intro i d _
    cases d with
    | reportLastRx now probe flowId packetId packetSize tStart =>
      simp only [MonitorCall.delay, fromNanoseconds, id]
      split_ifs <;> omega
    | _ => rfl
  have hpositive := hpos c hc
  cases c with
  | reportLastRx now i flowId packetId packetSize tStart =>
    refine ⟨i, List.sum_lt_sum _ _ (hle i) ⟨_, hc, ?_⟩⟩
    have hx : x = flowId := by
      by_contra hx
      rw [MonitorCall.received, if_neg hx] at hreceived
      cases hreceived
    have hstart := hpositive.2.2
    simp only [MonitorCall.delay, fromNanoseconds, id, hx, if_true]
    omega
  | _ => cases hreceived

/-- The entries are the fold of the events exactly for the sequences that are counted right. -/
theorem foldOfEvents_iff (res : Resolution) (calls : List (MonitorCall n))
    (hpos : ∀ c ∈ calls, c.Positive) :
    (∃ s, Accounts.runIn res calls = .ok s ∧ FoldOfEvents calls s) ↔ CountedRight res calls := by
  constructor
  · rintro ⟨s, hs, hf⟩
    have hrec := Accounted.of_run hpos hs
    refine ⟨fun x => ?_, fun x => ?_, hrec.reasonCode, fun x hne => ⟨?_, ?_⟩⟩
    · rw [← hf.txBytes x]
      exact BitVec.isLt _
    · rw [← hf.rxBytes x]
      exact BitVec.isLt _
    · by_contra hres
      obtain rfl : res = .us := by
        cases res with
        | ns => exact absurd rfl hres
        | us => rfl
      obtain ⟨i, hlt⟩ := delaySum_lt hpos hne
      rw [← hf.delays i x, hrec.delays i x] at hlt
      exact lt_irrefl _ hlt
    · have hrx : totalOf (MonitorCall.rxBytes x) calls < 2 ^ 64 := by
        rw [← hf.rxBytes x]
        exact BitVec.isLt _
      have hfirst := hf.firstRx x
      rw [(hrec.entries x).firstRx hrx] at hfirst
      have htimes := receptions_pos (x := x) hpos
      rcases hl : receptions x calls with _ | ⟨⟨now, size⟩, _ | ⟨⟨now', size'⟩, rest⟩⟩
      · exact absurd hl hne
      · rw [hl] at hfirst htimes
        have hzero : 0 = now := hfirst _ rfl
        have hnow := (htimes _ List.mem_cons_self).1
        omega
      · rw [hl] at hfirst htimes
        have hnow := (htimes _ List.mem_cons_self).1
        have htwo : (if size = 1 then now' else 0) = now := hfirst _ rfl
        split_ifs at htwo with hone
        · exact ⟨now, size', rest, by rw [hone, htwo]⟩
        · omega
  · intro h
    obtain ⟨s, hs⟩ : ∃ s, Accounts.runIn res calls = .ok s := runIn_ok h.reasonCode
    have hrec := Accounted.of_run hpos hs
    refine ⟨s, hs, fun x => ?_, fun x => ?_, fun x => ?_, fun x => ?_, fun x => ?_, fun x => ?_,
      fun i x => ?_⟩
    · rw [hrec.totals.txBytes, toNat_ofNat_of_lt (h.txBytes x)]
    · rw [hrec.totals.rxBytes, toNat_ofNat_of_lt (h.rxBytes x)]
    · exact (hrec.entries x).firstTx (h.txBytes x)
    · exact (hrec.entries x).lastTx
    · intro r hr
      have hne : receptions x calls ≠ [] := by
        intro hnil
        rw [hnil] at hr
        cases hr
      obtain ⟨-, now, size, rest, hl⟩ := h.received x hne
      rw [(hrec.entries x).firstRx (h.rxBytes x), hl]
      rw [hl] at hr
      obtain rfl := Option.some.inj hr
      rfl
    · exact (hrec.entries x).lastRx
    · rw [hrec.delays]
      apply delaySum_congr
      intro hne
      rw [(h.received x hne).1]
      rfl

theorem foldOfEvents_iff_one_byte :
    let calls : List (MonitorCall 2) := [.reportLastRx 9 1 7 0 1 5, .reportLastRx 9 1 7 1 100 6]
    (∃ s, Accounts.runIn .ns calls = .ok s ∧ FoldOfEvents calls s) ↔ CountedRight .ns calls := by
  intro calls
  apply foldOfEvents_iff .ns calls
  simp [calls, MonitorCall.Positive]

theorem not_foldOfEvents_one_packet :
    let calls : List (MonitorCall 2) := [.reportFirstTx 5 0 7 0 100, .reportLastRx 9 1 7 0 100 5]
    ∀ res, ¬ ∃ s, Accounts.runIn res calls = .ok s ∧ FoldOfEvents calls s := by
  rintro calls res ⟨s, hs, hf⟩
  obtain rfl : _ = s := Except.ok.inj hs
  cases res <;> exact absurd (hf.firstRx 7 (9, 100) rfl) (by decide)

end Statistics

end SwarmSim.FlowMonitor
