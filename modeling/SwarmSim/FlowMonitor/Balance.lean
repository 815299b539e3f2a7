import SwarmSim.FlowMonitor.ProbeStats
import SwarmSim.Machine.Fold
import SwarmSim.Machine.Ledger

/-! The monitor of a rank and the probes registered with it, while it is switched on and off. The
reports that find it switched on make up a ledger, and the statistics of the monitor and of every
probe are totals over the ledger. -/

namespace SwarmSim.FlowMonitor

open Ns3 Machine
open scoped BigOperators

inductive MonitorCall (n : ℕ)
  | reportFirstTx (now : ℕ) (probe : Fin n) (flowId : FlowId) (packetId : FlowPacketId)
      (packetSize : BitVec 32)
  | reportLastRx (now : ℕ) (probe : Fin n) (flowId : FlowId) (packetId : FlowPacketId)
      (packetSize : BitVec 32) (tStart : ℕ)
  | reportDrop (probe : Fin n) (flowId : FlowId) (packetId : FlowPacketId)
      (packetSize reasonCode : BitVec 32)
  | startRightNow
  | stopRightNow

structure Accounts (n : ℕ) where
  monitor : MpiFlowMonitor := {}
  probes : Fin n → MpiFlowProbe := fun _ => {}

namespace Accounts

variable {n : ℕ}

def reportFirstTx (now : ℕ) (probe : Fin n) (flowId : FlowId) (packetId : FlowPacketId)
    (packetSize : BitVec 32) (s : Accounts n) : Accounts n :=
  if !s.monitor.enabled then s
  else
    { monitor := s.monitor.reportFirstTx now flowId packetId packetSize.toNat
      probes := Function.update s.probes probe
        ((s.probes probe).addPacketStats flowId packetSize.toNat 0) }

def reportLastRx (now : ℕ) (probe : Fin n) (flowId : FlowId) (packetId : FlowPacketId)
    (packetSize : BitVec 32) (tStart : ℕ) (s : Accounts n) : Accounts n :=
  if !s.monitor.enabled then s
  else
    { monitor := s.monitor.reportLastRx now flowId packetId packetSize.toNat tStart
      probes := Function.update s.probes probe
        ((s.probes probe).addPacketStats flowId packetSize.toNat (now - tStart)) }

def reportDrop (probe : Fin n) (flowId : FlowId) (packetId : FlowPacketId)
    (packetSize reasonCode : BitVec 32) (s : Accounts n) : Except Fault (Accounts n) :=
  if !s.monitor.enabled then .ok s
  -- The size that the vectors should have wraps to 0: they do not grow, and the index is outside.
  else if reasonCode + 1 = 0 then .error .outOfRange
  else
    .ok
      { monitor := s.monitor.reportDrop flowId packetId packetSize.toNat reasonCode.toNat
        probes := Function.update s.probes probe
          ((s.probes probe).addPacketDropStats flowId packetSize.toNat reasonCode.toNat) }

def step (s : Accounts n) : MonitorCall n → Except Fault (Accounts n)
  | .reportFirstTx now probe flowId packetId packetSize =>
    .ok (s.reportFirstTx now probe flowId packetId packetSize)
  | .reportLastRx now probe flowId packetId packetSize tStart =>
    .ok (s.reportLastRx now probe flowId packetId packetSize tStart)
  | .reportDrop probe flowId packetId packetSize reasonCode =>
    s.reportDrop probe flowId packetId packetSize reasonCode
  | .startRightNow => .ok { s with monitor := s.monitor.startRightNow }
  | .stopRightNow => .ok { s with monitor := s.monitor.stopRightNow }

def run (calls : List (MonitorCall n)) : Except Fault (Accounts n) := calls.foldlM step {}

structure Balanced (s : Accounts n) : Prop where
  bytes : ∀ flowId, (s.monitor.getStatsForFlow flowId).txBytes.toNat +
    (s.monitor.getStatsForFlow flowId).rxBytes.toNat =
      ∑ i, ((s.probes i).statsOf flowId).bytes.toNat
  packetsDropped : ∀ flowId reason,
    ((s.monitor.getStatsForFlow flowId).packetsDropped.getD reason 0).toNat =
      ∑ i, (((s.probes i).statsOf flowId).packetsDropped.getD reason 0).toNat
  bytesDropped : ∀ flowId reason,
    ((s.monitor.getStatsForFlow flowId).bytesDropped.getD reason 0).toNat =
      ∑ i, (((s.probes i).statsOf flowId).bytesDropped.getD reason 0).toNat
  monitor_lengths : ∀ flowId stats, s.monitor.flowStats.lookup flowId = some stats →
    stats.packetsDropped.length = stats.bytesDropped.length
  probe_lengths : ∀ i flowId stats, (s.probes i).stats.lookup flowId = some stats →
    stats.packetsDropped.length = stats.bytesDropped.length

end Accounts

namespace MonitorCall

variable {n : ℕ}

def probe : MonitorCall n → Option (Fin n)
  | reportFirstTx _ probe _ _ _ | reportLastRx _ probe _ _ _ _ | reportDrop probe _ _ _ _ =>
    some probe
  | startRightNow | stopRightNow => none

def txBytes (x : FlowId) : MonitorCall n → ℕ
  | reportFirstTx _ _ flowId _ packetSize => if x = flowId then packetSize.toNat else 0
  | _ => 0

def rxBytes (x : FlowId) : MonitorCall n → ℕ
  | reportLastRx _ _ flowId _ packetSize _ => if x = flowId then packetSize.toNat else 0
  | _ => 0

def bytes (x : FlowId) (c : MonitorCall n) : ℕ := c.txBytes x + c.rxBytes x

def packetsDropped (x : FlowId) (reason : ℕ) : MonitorCall n → ℕ
  | reportDrop _ flowId _ _ reasonCode =>
    if x = flowId then if reason = reasonCode.toNat then 1 else 0 else 0
  | _ => 0

def bytesDropped (x : FlowId) (reason : ℕ) : MonitorCall n → ℕ
  | reportDrop _ flowId _ packetSize reasonCode =>
    if x = flowId then if reason = reasonCode.toNat then packetSize.toNat else 0 else 0
  | _ => 0

def reasonCode : MonitorCall n → Option (BitVec 32)
  | reportDrop _ _ _ _ reasonCode => some reasonCode
  | _ => none

end MonitorCall

structure Ledger (n : ℕ) where
  enabled : Bool := false
  reports : List (MonitorCall n) := []

namespace Ledger

variable {n : ℕ}

def next (l : Ledger n) : MonitorCall n → Ledger n
  | .startRightNow => { l with enabled := true }
  | .stopRightNow => { l with enabled := false }
  | c => if l.enabled then { l with reports := l.reports ++ [c] } else l

def ofCalls (calls : List (MonitorCall n)) : Ledger n := calls.foldl next {}

/-- No counter of the monitor or of a probe wraps, and neither does the size that a drop asks of
the vectors. -/
structure BelowWrap (l : Ledger n) : Prop where
  txBytes : ∀ x, totalOf (MonitorCall.txBytes x) l.reports < 2 ^ 64
  rxBytes : ∀ x, totalOf (MonitorCall.rxBytes x) l.reports < 2 ^ 64
  bytes : ∀ i x, totalOf (shareOf MonitorCall.probe i (MonitorCall.bytes x)) l.reports < 2 ^ 64
  packetsDropped : ∀ x reason, totalOf (MonitorCall.packetsDropped x reason) l.reports < 2 ^ 32
  bytesDropped : ∀ x reason, totalOf (MonitorCall.bytesDropped x reason) l.reports < 2 ^ 64
  reasonCode : ∀ c ∈ l.reports, ∀ code ∈ c.reasonCode, code + 1 ≠ 0

variable {l : Ledger n} {c : MonitorCall n} {i : Fin n} {code : BitVec 32}

lemma next_off (hc : c.probe = some i) (hl : l.enabled = false) : l.next c = l := by
  have hoff : ¬l.enabled = true := by rw [hl]; exact Bool.false_ne_true
  cases c with
  | startRightNow | stopRightNow => cases hc
  | _ => exact if_neg hoff

lemma next_on (hc : c.probe = some i) (hl : l.enabled = true) :
    l.next c = { l with reports := l.reports ++ [c] } := by
  cases c with
  | startRightNow | stopRightNow => cases hc
  | _ => exact if_pos hl

lemma reports_next_prefix (l : Ledger n) (c : MonitorCall n) : l.reports <+: (l.next c).reports := by
  cases hc : c.probe with
  | none =>
    cases c with
    | startRightNow | stopRightNow => exact List.prefix_rfl
    | _ => cases hc
  | some i =>
    cases hl : l.enabled with
    | false => rw [next_off hc hl]
    | true =>
      rw [next_on hc hl]
      exact List.prefix_append _ _

lemma reports_foldl_prefix (l : Ledger n) (cs : List (MonitorCall n)) :
    l.reports <+: (cs.foldl next l).reports := by
  induction cs generalizing l with
  | nil => exact List.prefix_rfl
  | cons c cs ih => exact (l.reports_next_prefix c).trans (ih (l.next c))

lemma mem_reports_next (hl : l.enabled = true) (hcode : code ∈ c.reasonCode) :
    c ∈ (l.next c).reports := by
  cases c with
  | reportDrop =>
    rw [next_on rfl hl]
    exact List.mem_append_right _ (List.mem_singleton_self _)
  | _ => cases hcode

end Ledger

namespace Counts

variable {n : ℕ} {cs : List (MonitorCall n)} {c : MonitorCall n}
  {packets bytes : ℕ → MonitorCall n → ℕ} {packetsDropped : List (BitVec 32)}
  {bytesDropped : List (BitVec 64)}

lemma skip (h : Counts (fun reason => totalOf (packets reason) cs)
      (fun reason => totalOf (bytes reason) cs) packetsDropped bytesDropped)
    (hp : ∀ reason, packets reason c = 0) (hb : ∀ reason, bytes reason c = 0) :
    Counts (fun reason => totalOf (packets reason) (cs ++ [c]))
      (fun reason => totalOf (bytes reason) (cs ++ [c])) packetsDropped bytesDropped := by
  simpa only [totalOf_concat, hp, hb, Nat.add_zero] using h

lemma record {packetSize reasonCode : ℕ} {v : List (BitVec 32) × List (BitVec 64)}
    (h : Counts (fun reason => totalOf (packets reason) cs)
      (fun reason => totalOf (bytes reason) cs) packetsDropped bytesDropped)
    (hp : ∀ reason, packets reason c = if reason = reasonCode then 1 else 0)
    (hb : ∀ reason, bytes reason c = if reason = reasonCode then packetSize else 0)
    (hv : v = FlowStats.countDrop packetSize reasonCode packetsDropped bytesDropped) :
    Counts (fun reason => totalOf (packets reason) (cs ++ [c]))
      (fun reason => totalOf (bytes reason) (cs ++ [c])) v.1 v.2 := by
  subst hv
  simpa only [totalOf_concat, hp, hb] using h.countDrop packetSize reasonCode

end Counts

structure MonitorAgrees {n : ℕ} (m : MpiFlowMonitor) (cs : List (MonitorCall n)) : Prop where
  txBytes : ∀ x, (m.getStatsForFlow x).txBytes =
    BitVec.ofNat 64 (totalOf (MonitorCall.txBytes x) cs)
  rxBytes : ∀ x, (m.getStatsForFlow x).rxBytes =
    BitVec.ofNat 64 (totalOf (MonitorCall.rxBytes x) cs)
  drops : ∀ x, Counts (fun reason => totalOf (MonitorCall.packetsDropped x reason) cs)
    (fun reason => totalOf (MonitorCall.bytesDropped x reason) cs)
    (m.getStatsForFlow x).packetsDropped (m.getStatsForFlow x).bytesDropped

structure ProbeAgrees {n : ℕ} (i : Fin n) (probe : MpiFlowProbe) (cs : List (MonitorCall n)) :
    Prop where
  bytes : ∀ x, (probe.statsOf x).bytes =
    BitVec.ofNat 64 (totalOf (shareOf MonitorCall.probe i (MonitorCall.bytes x)) cs)
  drops : ∀ x, Counts
    (fun reason => totalOf (shareOf MonitorCall.probe i (MonitorCall.packetsDropped x reason)) cs)
    (fun reason => totalOf (shareOf MonitorCall.probe i (MonitorCall.bytesDropped x reason)) cs)
    (probe.statsOf x).packetsDropped (probe.statsOf x).bytesDropped

structure Agrees {n : ℕ} (s : Accounts n) (l : Ledger n) : Prop where
  enabled : s.monitor.enabled = l.enabled
  monitor : MonitorAgrees s.monitor l.reports
  probes : ∀ i, ProbeAgrees i (s.probes i) l.reports

namespace MonitorAgrees

variable {n : ℕ} {m : MpiFlowMonitor} {cs : List (MonitorCall n)} {now tStart : ℕ} {i : Fin n}
  {flowId : FlowId} {packetId : FlowPacketId} {packetSize reasonCode : BitVec 32}

lemma reportFirstTx (h : MonitorAgrees m cs) (hon : m.enabled = true) :
    MonitorAgrees (m.reportFirstTx now flowId packetId packetSize.toNat)
      (cs ++ [.reportFirstTx now i flowId packetId packetSize]) := by
  refine ⟨fun x => ?_, fun x => ?_, fun x => ?_⟩
  · rw [MpiFlowMonitor.reportFirstTx_getStatsForFlow hon, totalOf_concat, MonitorCall.txBytes,
      BitVec.ofNat_add, ← h.txBytes]
    split_ifs
    · exact FlowStats.firstTx_txBytes _ _ _
    · exact (BitVec.add_zero _).symm
  · rw [MpiFlowMonitor.reportFirstTx_getStatsForFlow hon, totalOf_concat]
    apply Eq.trans _ (h.rxBytes x)
    split_ifs
    · exact FlowStats.firstTx_rxBytes _ _ _
    · rfl
  · rw [MpiFlowMonitor.reportFirstTx_getStatsForFlow hon]
    split_ifs
    · rw [FlowStats.firstTx_packetsDropped, FlowStats.firstTx_bytesDropped]
      exact (h.drops x).skip (fun _ => rfl) fun _ => rfl
    · exact (h.drops x).skip (fun _ => rfl) fun _ => rfl

lemma reportLastRx (h : MonitorAgrees m cs) (hon : m.enabled = true) :
    MonitorAgrees (m.reportLastRx now flowId packetId packetSize.toNat tStart)
      (cs ++ [.reportLastRx now i flowId packetId packetSize tStart]) := by
  refine ⟨fun x => ?_, fun x => ?_, fun x => ?_⟩
  · rw [MpiFlowMonitor.reportLastRx_getStatsForFlow hon, totalOf_concat]
    apply Eq.trans _ (h.txBytes x)
    split_ifs
    · exact FlowStats.lastRx_txBytes _ _ _ _
    · rfl
  · rw [MpiFlowMonitor.reportLastRx_getStatsForFlow hon, totalOf_concat, MonitorCall.rxBytes,
      BitVec.ofNat_add, ← h.rxBytes]
    split_ifs
    · exact FlowStats.lastRx_rxBytes _ _ _ _
    · exact (BitVec.add_zero _).symm
  · rw [MpiFlowMonitor.reportLastRx_getStatsForFlow hon]
    split_ifs
    · rw [FlowStats.lastRx_packetsDropped, FlowStats.lastRx_bytesDropped]
      exact (h.drops x).skip (fun _ => rfl) fun _ => rfl
    · exact (h.drops x).skip (fun _ => rfl) fun _ => rfl

lemma reportDrop (h : MonitorAgrees m cs) (hon : m.enabled = true) :
    MonitorAgrees (m.reportDrop flowId packetId packetSize.toNat reasonCode.toNat)
      (cs ++ [.reportDrop i flowId packetId packetSize reasonCode]) := by
  refine ⟨fun x => ?_, fun x => ?_, fun x => ?_⟩
  · rw [MpiFlowMonitor.reportDrop_getStatsForFlow hon, totalOf_concat]
    apply Eq.trans _ (h.txBytes x)
    split_ifs
    · exact FlowStats.drop_txBytes _ _ _
    · rfl
  · rw [MpiFlowMonitor.reportDrop_getStatsForFlow hon, totalOf_concat]
    apply Eq.trans _ (h.rxBytes x)
    split_ifs
    · exact FlowStats.drop_rxBytes _ _ _
    · rfl
  · rw [MpiFlowMonitor.reportDrop_getStatsForFlow hon]
    split_ifs with hx
    · exact (h.drops x).record (c := .reportDrop i flowId packetId packetSize reasonCode)
        (fun _ => if_pos hx) (fun _ => if_pos hx) (FlowStats.drop_countDrop _ _ _)
    · exact (h.drops x).skip (fun _ => if_neg hx) fun _ => if_neg hx

end MonitorAgrees

namespace ProbeAgrees

variable {n : ℕ} {probe : MpiFlowProbe} {cs : List (MonitorCall n)} {c : MonitorCall n} {i : Fin n}
  {flowId : FlowId} {packetSize reasonCode : ℕ} {delay : ℤ}

lemma other (h : ProbeAgrees i probe cs) (hc : c.probe ≠ some i) :
    ProbeAgrees i probe (cs ++ [c]) where
  bytes x := by
    rw [totalOf_concat, shareOf, if_neg hc, Nat.add_zero, h.bytes]
  drops x := (h.drops x).skip (fun _ => if_neg hc) fun _ => if_neg hc

lemma addPacketStats (h : ProbeAgrees i probe cs) (hc : c.probe = some i)
    (hbytes : ∀ x, c.bytes x = if x = flowId then packetSize else 0)
    (hpackets : ∀ x reason, c.packetsDropped x reason = 0)
    (hdropped : ∀ x reason, c.bytesDropped x reason = 0) :
    ProbeAgrees i (probe.addPacketStats flowId packetSize delay) (cs ++ [c]) where
  bytes x := by
    rw [MpiFlowProbe.addPacketStats_bytes, totalOf_concat, shareOf, if_pos hc, hbytes,
      BitVec.ofNat_add, h.bytes]
  drops x := by
    obtain ⟨hp, hb⟩ := MpiFlowProbe.addPacketStats_drops flowId x probe packetSize delay
    rw [hp, hb]
    exact (h.drops x).skip (fun _ => (if_pos hc).trans (hpackets x _))
      fun _ => (if_pos hc).trans (hdropped x _)

lemma addPacketDropStats (h : ProbeAgrees i probe cs) (hc : c.probe = some i)
    (hbytes : ∀ x, c.bytes x = 0)
    (hpackets : ∀ x reason, c.packetsDropped x reason =
      if x = flowId then if reason = reasonCode then 1 else 0 else 0)
    (hdropped : ∀ x reason, c.bytesDropped x reason =
      if x = flowId then if reason = reasonCode then packetSize else 0 else 0) :
    ProbeAgrees i (probe.addPacketDropStats flowId packetSize reasonCode) (cs ++ [c]) where
  bytes x := by
    rw [MpiFlowProbe.addPacketDropStats_bytes, totalOf_concat, shareOf, if_pos hc, hbytes,
      Nat.add_zero, h.bytes]
  drops x := by
    have hv := MpiFlowProbe.addPacketDropStats_drops flowId x probe packetSize reasonCode
    by_cases hx : x = flowId
    · rw [if_pos hx] at hv
      exact (h.drops x).record
        (fun reason => (if_pos hc).trans ((hpackets x reason).trans (if_pos hx)))
        (fun reason => (if_pos hc).trans ((hdropped x reason).trans (if_pos hx))) hv
    · rw [if_neg hx] at hv
      obtain ⟨hp, hb⟩ := Prod.mk.inj hv
      rw [hp, hb]
      exact (h.drops x).skip
        (fun reason => (if_pos hc).trans ((hpackets x reason).trans (if_neg hx)))
        fun reason => (if_pos hc).trans ((hdropped x reason).trans (if_neg hx))

end ProbeAgrees

namespace Agrees

variable {n : ℕ} {s : Accounts n} {l : Ledger n} {c : MonitorCall n} {i : Fin n}
  {m : MpiFlowMonitor} {probe : MpiFlowProbe}

lemma start : Agrees ({} : Accounts n) {} :=
  ⟨rfl, ⟨fun _ => rfl, fun _ => rfl, fun _ => Counts.empty⟩,
    fun _ => ⟨fun _ => rfl, fun _ => Counts.empty⟩⟩

lemma setEnabled (h : Agrees s l) (enabled : Bool) :
    Agrees { s with monitor := { s.monitor with enabled } } { l with enabled } :=
  ⟨rfl, ⟨h.monitor.txBytes, h.monitor.rxBytes, h.monitor.drops⟩, h.probes⟩

lemma ignored (h : Agrees s l) (hc : c.probe = some i) (hl : l.enabled = false) :
    ∃ t, s.step c = .ok t ∧ Agrees t (l.next c) := by
  have hoff : (!s.monitor.enabled) = true := by rw [h.enabled, hl]; rfl
  rw [Ledger.next_off hc hl]
  cases c with
  | startRightNow | stopRightNow => cases hc
  | reportFirstTx => exact ⟨_, congrArg Except.ok (if_pos hoff), h⟩
  | reportLastRx => exact ⟨_, congrArg Except.ok (if_pos hoff), h⟩
  | reportDrop => exact ⟨_, if_pos hoff, h⟩

lemma recorded (h : Agrees s l) (hl : l.enabled = true) (hc : c.probe = some i)
    (hon : m.enabled = s.monitor.enabled) (hm : MonitorAgrees m (l.reports ++ [c]))
    (hp : ProbeAgrees i probe (l.reports ++ [c])) :
    Agrees ⟨m, Function.update s.probes i probe⟩ (l.next c) := by
  rw [Ledger.next_on hc hl]
  refine ⟨hon.trans h.enabled, hm, fun j => ?_⟩
  change ProbeAgrees j (Function.update s.probes i probe j) (l.reports ++ [c])
  by_cases hj : j = i
  · subst hj
    rwa [Function.update_self]
  · rw [Function.update_of_ne hj]
    exact (h.probes j).other fun he => hj (Option.some.inj (he.symm.trans hc))

lemma reported (h : Agrees s l) (hl : l.enabled = true) (hc : c.probe = some i)
    (hcode : ∀ code ∈ c.reasonCode, code + 1 ≠ 0) :
    ∃ t, s.step c = .ok t ∧ Agrees t (l.next c) := by
  have hon : s.monitor.enabled = true := h.enabled.trans hl
  have hnot : ¬(!s.monitor.enabled) = true := by rw [hon]; exact Bool.false_ne_true
  cases c with
  | startRightNow | stopRightNow => cases hc
  | reportFirstTx now j flowId packetId packetSize =>
    obtain rfl : j = i := Option.some.inj hc
    refine ⟨_, congrArg Except.ok (if_neg hnot), ?_⟩
    apply h.recorded hl rfl MpiFlowMonitor.reportFirstTx_enabled (h.monitor.reportFirstTx hon)
    apply (h.probes j).addPacketStats rfl
    · exact fun _ => Nat.add_zero _
    · exact fun _ _ => rfl
    · exact fun _ _ => rfl
  | reportLastRx now j flowId packetId packetSize tStart =>
    obtain rfl : j = i := Option.some.inj hc
    refine ⟨_, congrArg Except.ok (if_neg hnot), ?_⟩
    apply h.recorded hl rfl MpiFlowMonitor.reportLastRx_enabled (h.monitor.reportLastRx hon)
    apply (h.probes j).addPacketStats rfl
    · exact fun _ => Nat.zero_add _
    · exact fun _ _ => rfl
    · exact fun _ _ => rfl
  | reportDrop j flowId packetId packetSize reasonCode =>
    obtain rfl : j = i := Option.some.inj hc
    have hgrows : ¬reasonCode + 1 = 0 := hcode reasonCode rfl
    refine ⟨_, (if_neg hnot).trans (if_neg hgrows), ?_⟩
    apply h.recorded hl rfl MpiFlowMonitor.reportDrop_enabled (h.monitor.reportDrop hon)
    apply (h.probes j).addPacketDropStats rfl
    · exact fun _ => rfl
    · exact fun _ _ => rfl
    · exact fun _ _ => rfl

lemma step (h : Agrees s l) (c : MonitorCall n)
    (hcode : l.enabled = true → ∀ code ∈ c.reasonCode, code + 1 ≠ 0) :
    ∃ t, s.step c = .ok t ∧ Agrees t (l.next c) := by
  cases hc : c.probe with
  | none =>
    cases c with
    | startRightNow => exact ⟨_, rfl, h.setEnabled true⟩
    | stopRightNow => exact ⟨_, rfl, h.setEnabled false⟩
    | _ => cases hc
  | some i =>
    cases hl : l.enabled with
    | false => exact h.ignored hc hl
    | true => exact h.reported hl hc (hcode hl)

end Agrees

lemma run_agrees {n : ℕ} {calls : List (MonitorCall n)} (hwrap : (Ledger.ofCalls calls).BelowWrap) :
    ∃ s, Accounts.run calls = .ok s ∧ Agrees s (Ledger.ofCalls calls) := by
  apply foldlM_invariant Agrees.start
  intro pre c post s hcalls h
  have hnext : Ledger.ofCalls (pre ++ [c]) = (Ledger.ofCalls pre).next c := by
    rw [Ledger.ofCalls, List.foldl_append]
    rfl
  rw [hnext]
  apply h.step c
  intro hl code hcode
  apply hwrap.reasonCode c _ code hcode
  have hprefix : ((Ledger.ofCalls pre).next c).reports <+: (Ledger.ofCalls calls).reports := by
    rw [hcalls, Ledger.ofCalls, Ledger.ofCalls, List.foldl_append, List.foldl_cons]
    exact Ledger.reports_foldl_prefix _ post
  exact hprefix.subset (Ledger.mem_reports_next hl hcode)

section Balance

variable {n : ℕ} {s : Accounts n} {l : Ledger n} {c : MonitorCall n}

lemma MonitorCall.no_probe (x : FlowId) (reason : ℕ) (hc : c.probe = none) :
    c.bytes x = 0 ∧ c.packetsDropped x reason = 0 ∧ c.bytesDropped x reason = 0 := by
  cases c with
  | startRightNow | stopRightNow => exact ⟨rfl, rfl, rfl⟩
  | _ => cases hc

lemma Agrees.balanced (h : Agrees s l) (hwrap : l.BelowWrap) : s.Balanced where
  bytes x := by
    have hprobes := sum_toNat_of_shares (fun c hc => (MonitorCall.no_probe x 0 hc).1)
      (fun i => (h.probes i).bytes x) fun i => hwrap.bytes i x
    rw [hprobes, h.monitor.txBytes, h.monitor.rxBytes, toNat_ofNat_of_lt (hwrap.txBytes x),
      toNat_ofNat_of_lt (hwrap.rxBytes x)]
    exact (totalOf_add _ _ _).symm
  packetsDropped x reason := by
    have hlt := hwrap.packetsDropped x reason
    have hprobes := sum_toNat_of_shares (fun c hc => (MonitorCall.no_probe x reason hc).2.1)
      (fun i => ((h.probes i).drops x).packets reason)
      fun i => (totalOf_shareOf_le _ _ i _).trans_lt hlt
    rw [hprobes, (h.monitor.drops x).packets, toNat_ofNat_of_lt hlt]
  bytesDropped x reason := by
    have hlt := hwrap.bytesDropped x reason
    have hprobes := sum_toNat_of_shares (fun c hc => (MonitorCall.no_probe x reason hc).2.2)
      (fun i => ((h.probes i).drops x).bytes reason)
      fun i => (totalOf_shareOf_le _ _ i _).trans_lt hlt
    rw [hprobes, (h.monitor.drops x).bytes, toNat_ofNat_of_lt hlt]
  monitor_lengths x stats hx := by
    have hlen := (h.monitor.drops x).length_eq
    rwa [MpiFlowMonitor.getStatsForFlow, hx] at hlen
  probe_lengths i x stats hx := by
    have hlen := ((h.probes i).drops x).length_eq
    rwa [MpiFlowProbe.statsOf, hx] at hlen

lemma MonitorCall.amounts_le (c : MonitorCall n) (x : FlowId) (reason : ℕ) :
    c.bytes x ≤ 2 ^ 32 - 1 ∧ c.packetsDropped x reason ≤ 1 ∧
      c.bytesDropped x reason ≤ 2 ^ 32 - 1 := by
  have hsize : ∀ packetSize : BitVec 32, packetSize.toNat ≤ 2 ^ 32 - 1 :=
    fun packetSize => Nat.le_sub_one_of_lt packetSize.isLt
  cases c with
  | startRightNow | stopRightNow => exact ⟨Nat.zero_le _, Nat.zero_le _, Nat.zero_le _⟩
  | reportFirstTx _ _ flowId _ packetSize | reportLastRx _ _ flowId _ packetSize _ =>
    refine ⟨?_, Nat.zero_le _, Nat.zero_le _⟩
    have h := hsize packetSize
    simp only [bytes, txBytes, rxBytes]
    split_ifs <;> omega
  | reportDrop _ flowId _ packetSize reasonCode =>
    refine ⟨Nat.zero_le _, ?_, ?_⟩
    · simp only [packetsDropped]
      split_ifs <;> omega
    · have h := hsize packetSize
      simp only [bytesDropped]
      split_ifs <;> omega

theorem Ledger.belowWrap_of_few (h : l.reports.length < 2 ^ 32)
    (hcode : ∀ c ∈ l.reports, ∀ code ∈ c.reasonCode, code + 1 ≠ 0) : l.BelowWrap := by
  have hfew : l.reports.length * (2 ^ 32 - 1) < 2 ^ 64 := by omega
  have hbytes : ∀ x, totalOf (MonitorCall.bytes x) l.reports < 2 ^ 64 := fun x =>
    (totalOf_le (fun c => (c.amounts_le x 0).1) _).trans_lt hfew
  have hsum : ∀ x, totalOf (MonitorCall.bytes x) l.reports =
      totalOf (MonitorCall.txBytes x) l.reports + totalOf (MonitorCall.rxBytes x) l.reports :=
    fun x => totalOf_add _ _ _
  refine ⟨fun x => ?_, fun x => ?_, fun i x => ?_, fun x reason => ?_, fun x reason => ?_, hcode⟩
  · exact (Nat.le_add_right _ _).trans_lt ((hsum x).symm.trans_lt (hbytes x))
  · exact (Nat.le_add_left _ _).trans_lt ((hsum x).symm.trans_lt (hbytes x))
  · exact (totalOf_shareOf_le _ _ _ _).trans_lt (hbytes x)
  · exact (totalOf_le (fun c => (c.amounts_le x reason).2.1) _).trans_lt (by omega)
  · exact (totalOf_le (fun c => (c.amounts_le x reason).2.2) _).trans_lt hfew

end Balance

/-- The accounts of the monitor and of the probes balance after every sequence of calls that wraps
no counter. -/
theorem run_balanced {n : ℕ} (calls : List (MonitorCall n))
    (hwrap : (Ledger.ofCalls calls).BelowWrap) :
    ∃ s, Accounts.run calls = .ok s ∧ s.Balanced := by
  obtain ⟨s, hs, h⟩ := run_agrees hwrap
  exact ⟨s, hs, h.balanced hwrap⟩

theorem run_balanced_two :
    ∃ s, Accounts.run (n := 2) [.startRightNow, .reportFirstTx 1 0 7 0 100,
      .reportDrop 0 7 1 60 3, .stopRightNow, .reportFirstTx 2 0 7 2 50, .startRightNow,
      .reportLastRx 5 1 7 0 100 1] = .ok s ∧ s.Balanced := by
  apply run_balanced
  apply Ledger.belowWrap_of_few
  · decide
  · simp [Ledger.ofCalls, Ledger.next, MonitorCall.reasonCode]

end SwarmSim.FlowMonitor
