import SwarmSim.FlowMonitor.Numbering
import SwarmSim.FlowMonitor.Probe

/-! The two decisions about a packet, that of the sender's classifier and that of the receiver's
probe, on any number of ranks and with clocks that nothing relates but the packet itself. -/

namespace SwarmSim.FlowMonitor

open Ns3 Machine

/-- The arguments of `ReportLastRx`, after the time. -/
structure RxReport where
  flowId : FlowId
  packetId : FlowPacketId
  packetSize : ℕ
  tStart : ℕ
  deriving DecidableEq

namespace Rank

def forwardUpReport (cfg : Config) (now : ℕ) (p : Packet) (fTag : Option Ipv4MpiFlowProbeTag) :
    Except Fault (Option RxReport) :=
  if p.tcpSourcePort = cfg.sourcePortToFilter then .ok none
  else
    match fTag with
    | some fTag =>
      if !fTag.isSrcDstValid p.ipHeader.source p.ipHeader.destination then .ok none
      else .ok (some ⟨fTag.flowId, fTag.packetId, p.size, fTag.tStart⟩)
    | none =>
      if now > cfg.monitorUntil then .ok none
      else .error (.abort "This should not happen!")

def receive (now : ℕ) (r : Rank) : Option RxReport → Rank
  | none => r
  | some report =>
    { r with
      monitor :=
        r.monitor.reportLastRx now report.flowId report.packetId report.packetSize report.tStart }

lemma forwardUpLogger_eq (cfg : Config) (now : ℕ) (p : Packet) (fTag : Option Ipv4MpiFlowProbeTag)
    (r : Rank) :
    r.forwardUpLogger cfg now p fTag = (forwardUpReport cfg now p fTag).map (r.receive now) := by
  cases fTag with
  | some fTag =>
    simp only [forwardUpLogger, forwardUpReport]
    split_ifs <;> rfl
  | none =>
    simp only [forwardUpLogger, forwardUpReport]
    split_ifs <;> rfl

lemma forwardUpLogger_of_report {cfg : Config} {now : ℕ} {p : Packet}
    {fTag : Option Ipv4MpiFlowProbeTag} {report : Option RxReport}
    (h : forwardUpReport cfg now p fTag = .ok report) (r : Rank) :
    r.forwardUpLogger cfg now p fTag = .ok (r.receive now report) := by
  rw [forwardUpLogger_eq, h]
  rfl

end Rank

section

variable {cfg : Config} {now : ℕ} {p : Packet} {c : Ipv4MpiFlowClassifier}

lemma classify_eq_none (h : (c.classify cfg now p).1 = none) :
    monitored cfg p = none ∨ cfg.monitorUntil < now := by
  cases hm : monitored cfg p with
  | none => exact .inl rfl
  | some tuple =>
    refine .inr (not_le.mp fun hnow => ?_)
    cases hl : c.flowMap.lookup tuple with
    | none =>
      rw [classify_new hm hl hnow] at h
      cases h
    | some flowId =>
      rw [classify_known now hm hl] at h
      cases h

lemma monitored_of_classify {ids : FlowId × FlowPacketId} (h : (c.classify cfg now p).1 = some ids) :
    ∃ tuple, monitored cfg p = some tuple := by
  cases hm : monitored cfg p with
  | none =>
    rw [classify_unmonitored hm] at h
    cases h
  | some tuple => exact ⟨tuple, rfl⟩

/-- Of an unfragmented TCP or UDP packet the classifier and the probe read one source port. -/
lemma monitored_isSome_iff (hf : p.ipHeader.fragmentOffset = 0)
    (hp : p.ipHeader.protocol = udpProtNumber ∨ p.ipHeader.protocol = tcpProtNumber)
    (hl : 4 ≤ p.ipPayload.length) :
    (monitored cfg p).isSome ↔ p.tcpSourcePort ≠ cfg.sourcePortToFilter := by
  constructor
  · intro h
    obtain ⟨tuple, htuple⟩ := Option.isSome_iff_exists.mp h
    exact monitored_tcpSourcePort htuple
  · intro h
    have hport : p.tcpSourcePort = p.fiveTuple.sourcePort := by
      obtain ⟨uid, header, payload, hsize⟩ := p
      rcases payload with _ | ⟨d₀, _ | ⟨d₁, rest⟩⟩
      · cases hl
      · exact absurd hl (by simp)
      · rfl
    rw [monitored_eq_some.mpr ⟨hf, hp, hl, hport ▸ h, rfl⟩]
    rfl

end

variable {R : Type} [DecidableEq R]

namespace Fleet

def classified (cfg : Config) (place : Ipv4Address → R) (s : Fleet R) (now : ℕ) (p : Packet) :
    Option (FlowId × FlowPacketId) :=
  ((s.ranks (place p.ipHeader.source)).classifier.classify cfg now p).1

def AcceptedIn (cfg : Config) (place : Ipv4Address → R) (systemId : R → BitVec 32)
    (events : List Event) (p : Packet) (flowId : FlowId) (packetId : FlowPacketId) (t : ℕ) : Prop :=
  ∃ pre post s, events = pre ++ .send t p :: post ∧ run cfg place systemId pre = .ok s ∧
    classified cfg place s t p = some (flowId, packetId)

def ReportsAccepted (cfg : Config) (place : Ipv4Address → R) (systemId : R → BitVec 32)
    (events : List Event) (s : Fleet R) (now : ℕ) (p : Packet) : Prop :=
  ∃ report,
    (∀ rank : Rank, rank.forwardUpLogger cfg now p (s.tags p) = .ok (rank.receive now report)) ∧
    ∀ r : RxReport, report = some r ↔
      AcceptedIn cfg place systemId events p r.flowId r.packetId r.tStart ∧ r.packetSize = p.size

def tagFor (p : Packet) (t : ℕ) (ids : FlowId × FlowPacketId) : Ipv4MpiFlowProbeTag :=
  ⟨ids.1, ids.2, p.size, p.ipHeader.source, p.ipHeader.destination, t, t⟩

/-- The tags hold exactly what the classifiers accepted, and what they refused either never counts
or was late. -/
structure Tagged (cfg : Config) (place : Ipv4Address → R) (systemId : R → BitVec 32)
    (events : List Event) (s : Fleet R) : Prop where
  tags : ∀ p tag, s.tags p = some tag ↔ ∃ flowId packetId t,
    AcceptedIn cfg place systemId events p flowId packetId t ∧ tag = tagFor p t (flowId, packetId)
  untagged : ∀ p, s.tags p = none → ∀ t, .send t p ∈ events →
    monitored cfg p = none ∨ cfg.monitorUntil < t

section

variable {cfg : Config} {place : Ipv4Address → R} {systemId : R → BitVec 32} {events : List Event}
  {e : Event} {s u : Fleet R} {p : Packet} {t now : ℕ} {flowId : FlowId} {packetId : FlowPacketId}

lemma acceptedIn_concat : AcceptedIn cfg place systemId (events ++ [e]) p flowId packetId t ↔
    AcceptedIn cfg place systemId events p flowId packetId t ∨
      e = .send t p ∧ ∃ s, run cfg place systemId events = .ok s ∧
        classified cfg place s t p = some (flowId, packetId) := by
  constructor
  · rintro ⟨pre, post, s, he, hrun, hc⟩
    cases post using List.reverseRecOn with
    | nil =>
      obtain ⟨rfl, hlast⟩ := List.append_inj' he rfl
      exact .inr ⟨List.singleton_inj.mp hlast, s, hrun, hc⟩
    | append_singleton post x =>
      rw [← List.cons_append, ← List.append_assoc] at he
      exact .inl ⟨pre, post, s, (List.append_inj' he rfl).1, hrun, hc⟩
  · rintro (⟨pre, post, s, rfl, hrun, hc⟩ | ⟨rfl, s, hrun, hc⟩)
    · exact ⟨pre, post ++ [e], s, by rw [List.append_assoc, List.cons_append], hrun, hc⟩
    · exact ⟨events, [], s, rfl, hrun, hc⟩

lemma acceptedIn_concat_of_ne (he : ∀ t, e ≠ .send t p) :
    AcceptedIn cfg place systemId (events ++ [e]) p flowId packetId t ↔
      AcceptedIn cfg place systemId events p flowId packetId t := by
  rw [acceptedIn_concat, or_iff_left fun h => he t h.1]

lemma step_tags_of_ne (he : ∀ t p, e ≠ .send t p) (hstep : step cfg place s e = .ok u) :
    u.tags = s.tags := by
  cases e with
  | send now p => exact absurd rfl (he now p)
  | deliver now p =>
    obtain ⟨rank, -, hu⟩ := bind_ok hstep
    obtain rfl := Except.ok.inj hu
    rfl
  | drop now host p reason =>
    obtain ⟨rank, -, hu⟩ := bind_ok hstep
    obtain rfl := Except.ok.inj hu
    rfl
  | queueDrop now host p =>
    obtain rfl := Except.ok.inj hstep
    rfl
  | queueDiscDrop now host p =>
    obtain rfl := Except.ok.inj hstep
    rfl

lemma step_send (hstep : step cfg place s (.send now p) = .ok u) :
    s.tags p = none ∧
      u.tags = Function.update s.tags p ((classified cfg place s now p).map (tagFor p now)) := by
  obtain ⟨⟨rank, fTag⟩, hsend, hu⟩ := bind_ok hstep
  obtain rfl := Except.ok.inj hu
  change (s.ranks (place p.ipHeader.source)).sendOutgoingLogger cfg now p (s.tags p) = _ at hsend
  rw [Rank.sendOutgoingLogger] at hsend
  split_ifs at hsend with hu ht
  have hnone : s.tags p = none := by simpa using ht
  refine ⟨hnone, congrArg (Function.update s.tags p) ?_⟩
  unfold classified
  split at hsend
  · rename_i hc
    obtain ⟨-, rfl⟩ := Prod.mk.inj (Except.ok.inj hsend)
    rw [hc]
    rfl
  · rename_i hc
    obtain ⟨-, rfl⟩ := Prod.mk.inj (Except.ok.inj hsend)
    rw [hc]
    rfl

namespace Tagged

lemma step_other (h : Tagged cfg place systemId events s) (he : ∀ t p, e ≠ .send t p)
    (hstep : step cfg place s e = .ok u) : Tagged cfg place systemId (events ++ [e]) u where
  tags p tag := by
    rw [step_tags_of_ne he hstep, h.tags]
    simp only [acceptedIn_concat_of_ne fun t => he t p]
  untagged p hp t ht := by
    rw [step_tags_of_ne he hstep] at hp
    rcases List.mem_append.mp ht with ht | ht
    · exact h.untagged p hp t ht
    · exact absurd (List.mem_singleton.mp ht).symm (he t p)

lemma step_send (h : Tagged cfg place systemId events s) (hrun : run cfg place systemId events = .ok s)
    (hstep : step cfg place s (.send now p) = .ok u) :
    Tagged cfg place systemId (events ++ [.send now p]) u := by
  obtain ⟨hnone, hu⟩ := Fleet.step_send hstep
  refine ⟨fun q tag => ?_, fun q hq t ht => ?_⟩
  · rw [hu]
    by_cases hq : q = p
    · subst hq
      rw [Function.update_self, Option.map_eq_some_iff]
      constructor
      · rintro ⟨⟨flowId, packetId⟩, hc, rfl⟩
        exact ⟨flowId, packetId, now, acceptedIn_concat.mpr (.inr ⟨rfl, s, hrun, hc⟩), rfl⟩
      · rintro ⟨flowId, packetId, t, hacc, rfl⟩
        rcases acceptedIn_concat.mp hacc with hold | ⟨hlast, s', hrun', hc⟩
        · -- An accepted packet is tagged, and a tagged packet is not sent again.
          have htag := (h.tags q _).mpr ⟨flowId, packetId, t, hold, rfl⟩
          rw [hnone] at htag
          cases htag
        · cases hlast
          obtain rfl := Except.ok.inj (hrun.symm.trans hrun')
          exact ⟨_, hc, rfl⟩
    · rw [Function.update_of_ne hq, h.tags]
      have hne : ∀ t, Event.send now p ≠ .send t q := fun t he => hq (Event.send.inj he).2.symm
      simp only [acceptedIn_concat_of_ne hne]
  · rw [hu] at hq
    rcases List.mem_append.mp ht with ht | ht
    · by_cases hqp : q = p
      · exact h.untagged q (hqp ▸ hnone) t ht
      · rw [Function.update_of_ne hqp] at hq
        exact h.untagged q hq t ht
    · cases List.mem_singleton.mp ht
      rw [Function.update_self] at hq
      exact classify_eq_none (Option.map_eq_none_iff.mp hq)

lemma step (h : Tagged cfg place systemId events s) (hrun : run cfg place systemId events = .ok s)
    (hstep : step cfg place s e = .ok u) : Tagged cfg place systemId (events ++ [e]) u := by
  cases e with
  | send now p => exact h.step_send hrun hstep
  | deliver | drop | queueDrop | queueDiscDrop => exact h.step_other (fun _ _ => by simp) hstep

end Tagged

lemma run_tagged (hrun : run cfg place systemId events = .ok s) :
    Tagged cfg place systemId events s := by
  induction events using List.reverseRecOn generalizing s with
  | nil =>
    obtain rfl := Except.ok.inj hrun
    refine ⟨fun p tag => ⟨fun h => ?_, ?_⟩, fun p _ t ht => absurd ht List.not_mem_nil⟩
    · cases h
    · rintro ⟨flowId, packetId, t, ⟨pre, post, _, he, -⟩, -⟩
      exact absurd he.symm (List.append_ne_nil_of_right_ne_nil pre (List.cons_ne_nil _ post))
  | append_singleton events e ih =>
    obtain ⟨t, ht, hstep⟩ := foldlM_concat_ok hrun
    exact (ih ht).step ht hstep

lemma step_abort (h : step cfg place s e = .error (.abort "This should not happen!")) :
    ∃ now p, e = .deliver now p := by
  cases e with
  | deliver now p => exact ⟨now, p, rfl⟩
  | send now p =>
    obtain he | ⟨a, -, he⟩ := bind_error h
    · rw [Rank.sendOutgoingLogger] at he
      split_ifs at he
      · exact absurd (Fault.abort.inj (Except.error.inj he)) (by decide)
      · exact absurd (Fault.abort.inj (Except.error.inj he)) (by decide)
      · split at he <;> cases he
    · cases he
  | drop now host p reason =>
    obtain he | ⟨a, -, he⟩ := bind_error h
    · unfold Rank.dropLogger at he
      split at he
      · cases he
      · split at he
        · cases he
        · exact absurd (Fault.abort.inj (Except.error.inj he)) (by decide)
    · cases he
  | queueDrop now host p => cases h
  | queueDiscDrop now host p => cases h

lemma Tagged.reportsAccepted (h : Tagged cfg place systemId events s)
    (hf : p.ipHeader.fragmentOffset = 0)
    (hp : p.ipHeader.protocol = udpProtNumber ∨ p.ipHeader.protocol = tcpProtNumber)
    (hl : 4 ≤ p.ipPayload.length) (ht : t ≤ now) (hsend : .send t p ∈ events) :
    ReportsAccepted cfg place systemId events s now p := by
  by_cases hport : p.tcpSourcePort = cfg.sourcePortToFilter
  · refine ⟨none, Rank.forwardUpLogger_of_report (if_pos hport), fun r => ⟨fun he => (by cases he), ?_⟩⟩
    rintro ⟨⟨pre, post, s', -, -, hc⟩, -⟩
    obtain ⟨tuple, hm⟩ := monitored_of_classify hc
    exact absurd hport (monitored_tcpSourcePort hm)
  unfold ReportsAccepted
  cases htag : s.tags p with
  | none =>
    have hlate : cfg.monitorUntil < now := by
      rcases h.untagged p htag t hsend with hm | hlate
      · have hsome := (monitored_isSome_iff hf hp hl).mpr hport
        rw [hm] at hsome
        cases hsome
      · exact hlate.trans_le ht
    refine ⟨none, Rank.forwardUpLogger_of_report ?_, fun r => ⟨fun he => (by cases he), ?_⟩⟩
    · rw [Rank.forwardUpReport, if_neg hport]
      exact if_pos hlate
    · rintro ⟨hacc, -⟩
      have hsome := (h.tags p _).mpr ⟨r.flowId, r.packetId, r.tStart, hacc, rfl⟩
      rw [htag] at hsome
      cases hsome
  | some tag =>
    obtain ⟨flowId, packetId, tSent, hacc, rfl⟩ := (h.tags p tag).mp htag
    have hvalid : (tagFor p tSent (flowId, packetId)).isSrcDstValid p.ipHeader.source
        p.ipHeader.destination = true := by
      simp [Ipv4MpiFlowProbeTag.isSrcDstValid, tagFor]
    refine ⟨some ⟨flowId, packetId, p.size, tSent⟩, Rank.forwardUpLogger_of_report ?_,
      fun r => ⟨?_, ?_⟩⟩
    · simp only [Rank.forwardUpReport, if_neg hport, hvalid]
      rfl
    · intro he
      obtain rfl := Option.some.inj he
      exact ⟨hacc, rfl⟩
    · obtain ⟨rFlowId, rPacketId, rSize, rStart⟩ := r
      rintro ⟨hacc', rfl⟩
      have hsome := (h.tags p _).mpr ⟨rFlowId, rPacketId, rStart, hacc', rfl⟩
      rw [htag] at hsome
      obtain ⟨rfl, rfl, -, -, -, rfl, -⟩ := Ipv4MpiFlowProbeTag.mk.inj (Option.some.inj hsome)
      rfl

end

/-- What is delivered is a whole TCP or UDP packet, sent before it is delivered and, by the clocks
of the two hosts, no later. -/
def DeliversSent (events : List Event) : Prop :=
  ∀ pre now p post, events = pre ++ .deliver now p :: post →
    p.ipHeader.fragmentOffset = 0 ∧
      (p.ipHeader.protocol = udpProtNumber ∨ p.ipHeader.protocol = tcpProtNumber) ∧
      4 ≤ p.ipPayload.length ∧ ∃ t ≤ now, .send t p ∈ pre

/-- The receiver's probe never comes to its abort, and reports exactly what was accepted. -/
theorem forwardUp_agrees (cfg : Config) (place : Ipv4Address → R) (systemId : R → BitVec 32)
    {events : List Event} (h : DeliversSent events) :
    run cfg place systemId events ≠ .error (.abort "This should not happen!") ∧
      ∀ pre now p post s, events = pre ++ .deliver now p :: post →
        run cfg place systemId pre = .ok s →
        ReportsAccepted cfg place systemId pre s now p := by
  have hdeliver : ∀ pre now p post s, events = pre ++ .deliver now p :: post →
      run cfg place systemId pre = .ok s → ReportsAccepted cfg place systemId pre s now p := by
    intro pre now p post s he hrun
    obtain ⟨hf, hp, hl, t, ht, hsend⟩ := h pre now p post he
    exact (run_tagged hrun).reportsAccepted hf hp hl ht hsend
  refine ⟨fun habort => ?_, hdeliver⟩
  obtain ⟨pre, e, post, s, he, hrun, hstep⟩ := foldlM_error habort
  obtain ⟨now, p, rfl⟩ := step_abort hstep
  obtain ⟨report, hreport, -⟩ := hdeliver pre now p post s he hrun
  simp only [step, Event.packet, hreport] at hstep
  cases hstep

theorem forwardUp_agrees_inFlight :
    run unfiltered id id [.send 3 (datagram 1), .deliver 1005 (datagram 1)] ≠
        .error (.abort "This should not happen!") ∧
      ∃ s, run unfiltered id id [.send 3 (datagram 1)] = .ok s ∧
        ReportsAccepted unfiltered id id [.send 3 (datagram 1)] s 1005 (datagram 1) := by
  have h : DeliversSent [.send 3 (datagram 1), .deliver 1005 (datagram 1)] := by
    intro pre now p post he
    rcases pre with _ | ⟨x, _ | ⟨y, pre⟩⟩
    · cases he
    · cases he
      exact ⟨rfl, .inl rfl, le_rfl, 3, by norm_num, List.mem_singleton_self _⟩
    · simp at he
  obtain ⟨hsafe, hreports⟩ := forwardUp_agrees unfiltered id id h
  exact ⟨hsafe, _, rfl, hreports [.send 3 (datagram 1)] 1005 (datagram 1) [] _ rfl rfl⟩

end Fleet

end SwarmSim.FlowMonitor
