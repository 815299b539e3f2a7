import SwarmSim.FlowMonitor.Partition

/-! The packets that a rank still tracks. Its monitor forgets a packet that is reported to it as
received or dropped, and is told of nothing that happens to the packet on another rank. -/

namespace SwarmSim.FlowMonitor

open Ns3 Machine

def System.key (s : System) (p : Packet) : Option (FlowId × FlowPacketId) :=
  (s.tags p).map fun fTag => (fTag.flowId, fTag.packetId)

def InFlight (place : Placement) (r : Fin 64) (p : Packet) (es : List Event) : Prop :=
  ∃ pre now mid, es = pre ++ .send now p :: mid ∧ place p.ipHeader.source = r ∧
    ∀ e ∈ mid, e.packet = p → place e.host ≠ r

def sentCount (cfg : Config) (es : List Event) (tuple : FiveTuple) : ℕ := (sentFlows cfg es).count tuple

def keyAt (cfg : Config) (place : Placement) (T : Trace cfg) (es : List Event) (tuple : FiveTuple) :
    FlowId × FlowPacketId :=
  (flowId cfg place T.events tuple, BitVec.ofNat 32 (sentCount cfg es tuple))

/-- The numbers of the packets that were sent in `es`, and what the ranks track of them. -/
structure Tracks {cfg : Config} (place : Placement) (T : Trace cfg) (es : List Event) (s : System) :
    Prop where
  counts (tuple : FiveTuple) : tuple ∈ sentFlows cfg es →
    (s.ranks (place tuple.sourceAddress)).classifier.flowPktIdMap.lookup
      (flowId cfg place T.events tuple) = some (BitVec.ofNat 32 (sentCount cfg es tuple - 1))
  keys (p : Packet) (key : FlowId × FlowPacketId) : s.key p = some key →
    ∃ pre now mid tuple, es = pre ++ .send now p :: mid ∧ monitored cfg p = some tuple ∧
      key = keyAt cfg place T pre tuple
  tracked (r : Fin 64) (key : FlowId × FlowPacketId) :
    key ∈ (s.ranks r).monitor.trackedPackets ↔ ∃ p, s.key p = some key ∧ InFlight place r p es

structure Trace.Numbered {cfg : Config} (place : Placement) (T : Trace cfg) : Prop where
  flows (r : Fin 64) : (flowsFrom cfg place r T.events).length ≤ 2 ^ 26
  packets (tuple : FiveTuple) : sentCount cfg T.events tuple ≤ 2 ^ 32

variable {cfg : Config} {place : Placement} {T : Trace cfg} {r : Fin 64} {es pre mid post : List Event}
  {e : Event} {p q : Packet} {now : ℕ} {tuple : FiveTuple} {s s' : System}
  {key : FlowId × FlowPacketId}

lemma inFlight_concat : InFlight place r p (es ++ [e]) ↔
    (∃ now, e = .send now p ∧ place p.ipHeader.source = r) ∨
      InFlight place r p es ∧ (e.packet = p → place e.host ≠ r) := by
  constructor
  · rintro ⟨pre, now, mid, he, hr, hmid⟩
    induction mid using List.reverseRecOn with
    | nil => exact .inl ⟨now, List.singleton_inj.mp (List.append_inj' he rfl).2, hr⟩
    | append_singleton mid e' _ =>
      rw [← List.cons_append, ← List.append_assoc] at he
      obtain ⟨hes, hlast⟩ := List.append_inj' he rfl
      obtain rfl := List.singleton_inj.mp hlast
      rw [List.forall_mem_append, List.forall_mem_singleton] at hmid
      exact .inr ⟨⟨pre, now, mid, hes, hr, hmid.1⟩, hmid.2⟩
  · rintro (⟨now, rfl, hr⟩ | ⟨⟨pre, now, mid, rfl, hr, hmid⟩, he⟩)
    · exact ⟨es, now, [], rfl, hr, fun e he => absurd he List.not_mem_nil⟩
    · refine ⟨pre, now, mid ++ [e], by simp, hr, ?_⟩
      rw [List.forall_mem_append, List.forall_mem_singleton]
      exact ⟨hmid, he⟩

section Counts

lemma sentCount_append (es es' : List Event) :
    sentCount cfg (es ++ es') tuple = sentCount cfg es tuple + sentCount cfg es' tuple := by
  rw [sentCount, sentFlows, List.filterMap_append, List.count_append]
  rfl

lemma sentCount_concat : sentCount cfg (es ++ [e]) tuple =
    sentCount cfg es tuple + if e.sentFlow cfg = some tuple then 1 else 0 := by
  rw [sentCount, sentFlows_concat, List.count_append, sentCount]
  congr 1
  cases he : e.sentFlow cfg with
  | none => rfl
  | some t =>
    rw [Option.toList_some, List.count_singleton]
    exact if_congr (by rw [beq_iff_eq, Option.some.injEq]) rfl rfl

lemma sentCount_lt (hm : monitored cfg p = some tuple) (pre mid : List Event) (now : ℕ) :
    sentCount cfg pre tuple < sentCount cfg (pre ++ .send now p :: mid) tuple := by
  have hsend : Event.sentFlow cfg (.send now p) = some tuple := hm
  rw [← List.singleton_append, ← List.append_assoc, sentCount_append, sentCount_concat, if_pos hsend]
  omega

lemma mem_sentFlows_of_send (hes : es = pre ++ .send now p :: mid) (hm : monitored cfg p = some tuple) :
    tuple ∈ sentFlows cfg es :=
  List.mem_filterMap.mpr ⟨.send now p, hes ▸ List.mem_append_right _ List.mem_cons_self, hm⟩

lemma ofNat_pred_add_one {n : ℕ} (hn : 0 < n) : (BitVec.ofNat 32 (n - 1) + 1 : BitVec 32) = BitVec.ofNat 32 n := by
  have hadd : BitVec.ofNat 32 (n - 1 + 1) = BitVec.ofNat 32 (n - 1) + BitVec.ofNat 32 1 :=
    BitVec.ofNat_add _ _
  rw [Nat.sub_add_cancel hn] at hadd
  exact hadd.symm

end Counts

lemma Trace.Numbered.keyAt_ne (hn : T.Numbered place) {other : FiveTuple} {t : ℕ}
    (hp : monitored cfg p = some tuple) (hq : monitored cfg q = some other)
    (hT : T.events = pre ++ .send now p :: mid ++ .send t q :: post) :
    keyAt cfg place T pre tuple ≠ keyAt cfg place T (pre ++ .send now p :: mid) other := by
  intro he
  obtain ⟨hid, hcount⟩ := Prod.ext_iff.mp he
  have hsent : tuple ∈ sentFlows cfg T.events :=
    mem_sentFlows_of_send (by rw [hT, List.append_assoc, List.cons_append]) hp
  obtain rfl : tuple = other := Trace.ownId_of_few hn.flows (mem_sentFlows_of_send hT hq) tuple hsent hid
  have hlt : sentCount cfg pre tuple < sentCount cfg (pre ++ .send now p :: mid) tuple :=
    sentCount_lt hp pre mid now
  have hlt' := sentCount_lt hq (pre ++ .send now p :: mid) post t
  have hfew := hn.packets tuple
  rw [hT] at hfew
  have hnat := congrArg BitVec.toNat hcount
  simp only [keyAt, BitVec.toNat_ofNat] at hnat
  omega

namespace Tracks

lemma key_inj (h : Tracks place T es s) (hn : T.Numbered place) (hT : T.events = es ++ post)
    (hp : s.key p = some key) (hq : s.key q = some key) : p = q := by
  obtain ⟨pre, now, mid, tuple, hes, hm, rfl⟩ := h.keys p key hp
  obtain ⟨pre', now', mid', tuple', hes', hm', hkey⟩ := h.keys q _ hq
  rcases List.append_eq_append_iff.mp (hes.symm.trans hes') with ⟨as, hpre, hmid⟩ | ⟨as, hpre, hmid⟩
  · cases as with
    | nil => exact (Event.send.inj (List.cons.inj hmid).1).2
    | cons a as =>
      obtain ⟨rfl, hmid⟩ := List.cons.inj hmid
      subst hpre
      have hsplit : T.events = pre ++ .send now p :: as ++ .send now' q :: (mid' ++ post) := by
        rw [hT, hes', List.append_assoc, List.cons_append]
      exact absurd hkey (hn.keyAt_ne hm hm' hsplit)
  · cases as with
    | nil => exact (Event.send.inj (List.cons.inj hmid).1).2.symm
    | cons a as =>
      obtain ⟨rfl, hmid⟩ := List.cons.inj hmid
      subst hpre
      have hsplit : T.events = pre' ++ .send now' q :: as ++ .send now p :: (mid ++ post) := by
        rw [hT, hes, List.append_assoc, List.cons_append]
      exact absurd hkey.symm (hn.keyAt_ne hm' hm hsplit)

lemma silent (h : Tracks place T es s) (hn : T.Numbered place) (hT : T.events = es ++ e :: post)
    (hnone : e.sentFlow cfg = none) (hsend : ∀ now p, e = .send now p → s.key p = none)
    (hkey : s'.key = s.key) (hclassifier : ∀ r, (s'.ranks r).classifier = (s.ranks r).classifier)
    (htracked : ∀ r key, key ∈ (s'.ranks r).monitor.trackedPackets ↔
      key ∈ (s.ranks r).monitor.trackedPackets ∧ ¬(place e.host = r ∧ s.key e.packet = some key)) :
    Tracks place T (es ++ [e]) s' := by
  have hcount : ∀ t, sentCount cfg (es ++ [e]) t = sentCount cfg es t := by
    intro t
    rw [sentCount_concat, hnone, if_neg (Option.some_ne_none t).symm, Nat.add_zero]
  refine ⟨fun t ht => ?_, fun p key hp => ?_, fun r key => ?_⟩
  · rw [sentFlows_concat, hnone, Option.toList_none, List.append_nil] at ht
    rw [hclassifier, hcount]
    exact h.counts t ht
  · obtain ⟨pre, now, mid, t, rfl, hm, rfl⟩ := h.keys p key (hkey ▸ hp)
    exact ⟨pre, now, mid ++ [e], t, by simp, hm, rfl⟩
  · rw [htracked, h.tracked, hkey]
    constructor
    · rintro ⟨⟨p, hp, hflight⟩, hlast⟩
      refine ⟨p, hp, inFlight_concat.mpr (.inr ⟨hflight, fun hpacket hhost => ?_⟩)⟩
      exact hlast ⟨hhost, hpacket ▸ hp⟩
    · rintro ⟨p, hp, hflight⟩
      rcases inFlight_concat.mp hflight with ⟨now, he, -⟩ | ⟨hflight, hlast⟩
      · cases (hsend now p he).symm.trans hp
      · refine ⟨⟨p, hp, hflight⟩, fun ⟨hhost, hpacket⟩ => ?_⟩
        exact hlast (h.key_inj hn hT hpacket hp) hhost

end Tracks

def Rank.Forgets (fTag : Option Ipv4MpiFlowProbeTag) (rank rank' : Rank) : Prop :=
  rank'.classifier = rank.classifier ∧ ∀ key, key ∈ rank'.monitor.trackedPackets ↔
    key ∈ rank.monitor.trackedPackets ∧ ¬(fTag.map fun fTag => (fTag.flowId, fTag.packetId)) = some key

section Reports

variable {rank rank' : Rank} {fTag : Option Ipv4MpiFlowProbeTag} {reason : Ipv4DropReason}
  {m : MpiFlowMonitor} {x : FlowId} {packetId : FlowPacketId} {packetSize tStart reasonCode : ℕ}

lemma mem_erase_iff {m : Map (FlowId × FlowPacketId) TrackedPacket} :
    key ∈ m.erase (x, packetId) ↔ key ∈ m ∧ ¬some (x, packetId) = some key := by
  rw [AList.mem_erase, Option.some.injEq, and_comm]
  exact and_congr_right' (not_congr eq_comm)

lemma mem_reportFirstTx (he : m.enabled = true) :
    key ∈ (m.reportFirstTx now x packetId packetSize).trackedPackets ↔
      key = (x, packetId) ∨ key ∈ m.trackedPackets := by
  rw [MpiFlowMonitor.reportFirstTx, he]
  exact AList.mem_insert _

lemma mem_reportLastRx (he : m.enabled = true) :
    key ∈ (m.reportLastRx now x packetId packetSize tStart).trackedPackets ↔
      key ∈ m.trackedPackets ∧ ¬some (x, packetId) = some key := by
  rw [MpiFlowMonitor.reportLastRx, he]
  exact mem_erase_iff

lemma mem_reportDrop (he : m.enabled = true) :
    key ∈ (m.reportDrop x packetId packetSize reasonCode).trackedPackets ↔
      key ∈ m.trackedPackets ∧ ¬some (x, packetId) = some key := by
  rw [MpiFlowMonitor.reportDrop, he]
  exact mem_erase_iff

lemma forgets_none : Rank.Forgets none rank rank := by
  refine ⟨rfl, fun key => ?_⟩
  rw [Option.map_none]
  exact (and_iff_left (Option.some_ne_none key).symm).symm

lemma forwardUpLogger_forgets (he : rank.monitor.enabled = true)
    (hvalid : ∀ t ∈ fTag, p.tcpSourcePort ≠ cfg.sourcePortToFilter ∧
      t.isSrcDstValid p.ipHeader.source p.ipHeader.destination = true)
    (h : rank.forwardUpLogger cfg now p fTag = .ok rank') : rank.Forgets fTag rank' := by
  cases fTag with
  | none =>
    simp only [Rank.forwardUpLogger] at h
    split_ifs at h
    · exact Except.ok.inj h ▸ forgets_none
    · exact Except.ok.inj h ▸ forgets_none
  | some t =>
    obtain ⟨hport, hsrc⟩ := hvalid t rfl
    simp only [Rank.forwardUpLogger, if_neg hport, hsrc] at h
    obtain rfl := Except.ok.inj h
    exact ⟨rfl, fun key => mem_reportLastRx he⟩

lemma dropLogger_forgets (he : rank.monitor.enabled = true)
    (h : rank.dropLogger p fTag reason = .ok rank') : rank.Forgets fTag rank' := by
  cases fTag with
  | none => exact Except.ok.inj h ▸ forgets_none
  | some t =>
    rw [Rank.dropLogger] at h
    split at h
    · obtain rfl := Except.ok.inj h
      exact ⟨rfl, fun key => mem_reportDrop he⟩
    · cases h

lemma tagDropLogger_forgets (he : rank.monitor.enabled = true) (reason : DropReason) :
    rank.Forgets fTag (rank.tagDropLogger reason fTag) := by
  cases fTag with
  | none => exact forgets_none
  | some t => exact ⟨rfl, fun key => mem_reportDrop he⟩

lemma Tracks.forget (h : Tracks place T es s) (hn : T.Numbered place)
    (hT : T.events = es ++ e :: post) (he : ∀ now p, e ≠ .send now p)
    (hr : (s.ranks (place e.host)).Forgets (s.tags e.packet) rank') :
    Tracks place T (es ++ [e]) (s.setRank (place e.host) rank') := by
  have hnone : e.sentFlow cfg = none := by
    cases e with
    | send now p => exact absurd rfl (he now p)
    | _ => rfl
  have hkey : System.key (s.setRank (place e.host) rank') = s.key := rfl
  apply h.silent hn hT hnone (fun now p hsend => absurd hsend (he now p)) hkey
  · intro r
    by_cases hhost : r = place e.host
    · subst hhost
      rw [Fleet.setRank_self]
      exact hr.1
    · rw [Fleet.setRank_of_ne hhost]
  · intro r key
    by_cases hhost : r = place e.host
    · subst hhost
      rw [Fleet.setRank_self, hr.2]
      exact and_congr_right' (not_congr (and_iff_right rfl).symm)
    · rw [Fleet.setRank_of_ne hhost]
      exact (and_iff_left fun hkey => hhost hkey.1.symm).symm

end Reports

section Sends

variable {rank : Rank}

lemma classify_sent_key (h : Tracks place T es s) (hT : T.events = es ++ .send now p :: post)
    (hr : RankFollows place T (place tuple.sourceAddress) es (s.ranks (place tuple.sourceAddress)))
    (hm : monitored cfg p = some tuple) (hnow : now ≤ cfg.monitorUntil) :
    ∃ c, (s.ranks (place tuple.sourceAddress)).classifier.classify cfg now p =
        (some (keyAt cfg place T es tuple), c) ∧
      c.flowPktIdMap = (s.ranks (place tuple.sourceAddress)).classifier.flowPktIdMap.insert
        (flowId cfg place T.events tuple) (BitVec.ofNat 32 (sentCount cfg es tuple)) := by
  by_cases hmem : tuple ∈ flowsFrom cfg place (place tuple.sourceAddress) es
  · have hsent := (mem_flowsFrom.mp hmem).1
    have hnum := h.counts tuple hsent
    have hc := classify_known now hm ((hr.flowMap tuple).trans (if_pos hmem))
    have hpos : 0 < sentCount cfg es tuple := List.count_pos_iff.mpr hsent
    rw [hnum, Option.getD_some, ofNat_pred_add_one hpos] at hc
    exact ⟨_, hc, rfl⟩
  · have hzero : sentCount cfg es tuple = 0 :=
      List.count_eq_zero.mpr fun hsent => hmem (mem_flowsFrom.mpr ⟨hsent, rfl⟩)
    have hc := classify_new hm ((hr.flowMap tuple).trans (if_neg hmem)) hnow
    rw [← hr.flowId_sent_new hT hm rfl hmem] at hc
    rw [keyAt, hzero]
    exact ⟨_, hc, rfl⟩

lemma inFlight_sent {k : FlowId × FlowPacketId} (hunsent : s.key p = none)
    (hkey : ∀ q, s'.key q = if q = p then some k else s.key q) :
    (∃ q, s'.key q = some key ∧ InFlight place r q (es ++ [.send now p])) ↔
      (key = k ∧ place p.ipHeader.source = r) ∨ ∃ q, s.key q = some key ∧ InFlight place r q es := by
  constructor
  · rintro ⟨q, hq, hflight⟩
    rw [hkey] at hq
    rcases inFlight_concat.mp hflight with ⟨t, ht, hr⟩ | ⟨hflight, hlast⟩
    · obtain ⟨-, rfl⟩ := Event.send.inj ht
      rw [if_pos rfl] at hq
      exact .inl ⟨(Option.some.inj hq).symm, hr⟩
    · by_cases hsame : q = p
      · subst hsame
        obtain ⟨_, _, _, _, hr, _⟩ := hflight
        exact absurd hr (hlast rfl)
      · rw [if_neg hsame] at hq
        exact .inr ⟨q, hq, hflight⟩
  · rintro (⟨rfl, hr⟩ | ⟨q, hq, hflight⟩)
    · exact ⟨p, (hkey p).trans (if_pos rfl), inFlight_concat.mpr (.inl ⟨now, rfl, hr⟩)⟩
    · have hne : q ≠ p := by
        rintro rfl
        cases hunsent.symm.trans hq
      refine ⟨q, (hkey q).trans ((if_neg hne).trans hq), inFlight_concat.mpr (.inr ⟨hflight, ?_⟩)⟩
      exact fun hpacket => absurd hpacket.symm hne

lemma Tracks.sent (h : Tracks place T es s) (hn : T.Numbered place)
    (hT : T.events = es ++ .send now p :: post) (hm : monitored cfg p = some tuple)
    (hunsent : s.key p = none)
    (hkey : ∀ q, s'.key q = if q = p then some (keyAt cfg place T es tuple) else s.key q)
    (hranks : s'.ranks = Function.update s.ranks (place tuple.sourceAddress) rank)
    (hmap : rank.classifier.flowPktIdMap =
      (s.ranks (place tuple.sourceAddress)).classifier.flowPktIdMap.insert
        (flowId cfg place T.events tuple) (BitVec.ofNat 32 (sentCount cfg es tuple)))
    (htracked : ∀ key, key ∈ rank.monitor.trackedPackets ↔ key = keyAt cfg place T es tuple ∨
      key ∈ (s.ranks (place tuple.sourceAddress)).monitor.trackedPackets) :
    Tracks place T (es ++ [.send now p]) s' := by
  have hsource : place p.ipHeader.source = place tuple.sourceAddress := by
    rw [(monitored_sourceAddress hm).1]
  have hnow : Event.sentFlow cfg (.send now p) = some tuple := hm
  have hsent : tuple ∈ sentFlows cfg T.events := mem_sentFlows_of_send hT hm
  refine ⟨fun t ht => ?_, fun q key hq => ?_, fun r key => ?_⟩
  · rw [sentCount_concat, hnow]
    by_cases hsame : t = tuple
    · subst hsame
      rw [hranks, Function.update_self, hmap, AList.lookup_insert, if_pos rfl, Nat.add_sub_cancel]
    · have hold : t ∈ sentFlows cfg es := by
        rw [sentFlows_concat, hnow, List.mem_append] at ht
        exact ht.resolve_right fun ht => hsame (List.mem_singleton.mp ht)
      have hmem : t ∈ sentFlows cfg T.events := by
        rw [hT, sentFlows, List.filterMap_append]
        exact List.mem_append_left _ hold
      have hid : flowId cfg place T.events t ≠ flowId cfg place T.events tuple :=
        mt (Trace.ownId_of_few hn.flows hsent t hmem) hsame
      rw [if_neg (by simpa using Ne.symm hsame), Nat.add_zero, ← h.counts t hold, hranks]
      by_cases hr : place t.sourceAddress = place tuple.sourceAddress
      · rw [hr, Function.update_self, hmap, AList.lookup_insert_ne hid]
      · rw [Function.update_of_ne hr]
  · rw [hkey] at hq
    split_ifs at hq with hsame
    · subst hsame
      exact ⟨es, now, [], tuple, rfl, hm, (Option.some.inj hq).symm⟩
    · obtain ⟨pre, t, mid, other, rfl, hm', rfl⟩ := h.keys q key hq
      exact ⟨pre, t, mid ++ [.send now p], other, by simp, hm', rfl⟩
  · have hold : (∃ q, s'.key q = some key ∧ InFlight place r q (es ++ [.send now p])) ↔
        (key = keyAt cfg place T es tuple ∧ place tuple.sourceAddress = r) ∨
          ∃ q, s.key q = some key ∧ InFlight place r q es := by
      rw [← hsource]
      exact inFlight_sent hunsent hkey
    rw [hold, ← h.tracked, hranks]
    by_cases hr : r = place tuple.sourceAddress
    · subst hr
      rw [Function.update_self, htracked]
      exact or_congr_left (and_iff_left rfl).symm
    · rw [Function.update_of_ne hr]
      exact (or_iff_right fun hboth => hr hboth.2.symm).symm

lemma tag_valid (hf : Follows place T es s) {fTag : Ipv4MpiFlowProbeTag} (h : fTag ∈ s.tags p) :
    p.tcpSourcePort ≠ cfg.sourcePortToFilter ∧
      fTag.isSrcDstValid p.ipHeader.source p.ipHeader.destination = true := by
  obtain ⟨packetId, hp⟩ := hf.tags p
  rw [hp, tagAfter] at h
  obtain ⟨t, -, h⟩ := Option.bind_eq_some_iff.mp h
  obtain ⟨tuple, hm, rfl⟩ := Option.map_eq_some_iff.mp h
  exact ⟨monitored_tcpSourcePort hm, by simp [Ipv4MpiFlowProbeTag.isSrcDstValid]⟩

lemma Tracks.unmonitored (h : Tracks place T es s) (hn : T.Numbered place)
    (hT : T.events = es ++ .send now p :: post) (hm : monitored cfg p = none)
    (hunsent : s.key p = none) (hkey : s'.key = s.key) (hranks : s'.ranks = s.ranks) :
    Tracks place T (es ++ [.send now p]) s' := by
  apply h.silent hn hT hm _ hkey
  · intro r
    rw [hranks]
  · intro r key
    change _ ↔ _ ∧ ¬(_ ∧ s.key p = some key)
    rw [hranks, hunsent]
    exact (and_iff_left fun hkey => (Option.some_ne_none key).symm hkey.2).symm
  · intro t q hq
    obtain ⟨-, rfl⟩ := Event.send.inj hq
    exact hunsent

lemma Tracks.step_send (h : Tracks place T es s) (hf : Follows place T es s) (hn : T.Numbered place)
    (hT : T.events = es ++ .send now p :: post)
    (hs : Fleet.step cfg place s (.send now p) = .ok s') : Tracks place T (es ++ [.send now p]) s' := by
  have hmem : Event.send now p ∈ T.events := hT ▸ List.mem_append_right _ List.mem_cons_self
  have hunicast : cfg.isUnicast p.ipHeader.source p.ipHeader.destination = true := T.accepted _ hmem
  have htag : s.tags p = none := by
    obtain ⟨packetId, hp⟩ := hf.tags p
    exact hp.trans (tagAfter_unsent hT)
  have hunsent : s.key p = none := by rw [System.key, htag, Option.map_none]
  obtain ⟨⟨rank', fTag'⟩, hsend, hs⟩ := bind_ok hs
  obtain rfl := Except.ok.inj hs
  change (s.ranks (place p.ipHeader.source)).sendOutgoingLogger cfg now p (s.tags p) = _ at hsend
  rw [htag] at hsend
  cases hm : monitored cfg p with
  | none =>
    simp only [Rank.sendOutgoingLogger, hunicast, classify_unmonitored hm] at hsend
    obtain ⟨rfl, rfl⟩ := Prod.mk.inj (Except.ok.inj hsend)
    have htags : Function.update s.tags p none = s.tags := by rw [← htag, Function.update_eq_self]
    apply h.unmonitored hn hT hm hunsent
    · funext q
      change (Function.update s.tags p none q).map _ = _
      rw [htags, System.key]
    · exact Function.update_eq_self _ _
  | some tuple =>
    obtain ⟨c, hc, hmap⟩ := classify_sent_key h hT (hf.ranks _) hm (T.time_le _ hmem)
    have hsource := (monitored_sourceAddress hm).1
    rw [← hsource] at hsend
    simp only [Rank.sendOutgoingLogger, ← hsource] at hsend hunicast
    simp only [hunicast, hc, keyAt] at hsend
    obtain ⟨rfl, rfl⟩ := Prod.mk.inj (Except.ok.inj hsend)
    apply h.sent hn hT hm hunsent
    · intro q
      change (Function.update s.tags p _ q).map _ = _
      rw [Function.update_apply]
      split_ifs <;> rfl
    · change Function.update s.ranks (place p.ipHeader.source) _ = _
      rw [hsource]
    · exact hmap
    · intro key
      rw [hsource]
      exact mem_reportFirstTx (hf.ranks _).enabled

lemma Tracks.step (h : Tracks place T es s) (hf : Follows place T es s) (hn : T.Numbered place)
    (hT : T.events = es ++ e :: post) (hs : Fleet.step cfg place s e = .ok s') :
    Tracks place T (es ++ [e]) s' := by
  cases e with
  | send now p => exact h.step_send hf hn hT hs
  | deliver now p =>
    obtain ⟨rank', hr, hs⟩ := bind_ok hs
    obtain rfl := Except.ok.inj hs
    exact h.forget hn hT (fun _ _ he => by cases he)
      (forwardUpLogger_forgets (hf.ranks _).enabled (fun _ ht => tag_valid hf ht) hr)
  | drop now host p reason =>
    obtain ⟨rank', hr, hs⟩ := bind_ok hs
    obtain rfl := Except.ok.inj hs
    exact h.forget hn hT (fun _ _ he => by cases he) (dropLogger_forgets (hf.ranks _).enabled hr)
  | queueDrop now host p =>
    obtain rfl := Except.ok.inj hs
    exact h.forget hn hT (fun _ _ he => by cases he)
      (tagDropLogger_forgets (hf.ranks _).enabled .queue)
  | queueDiscDrop now host p =>
    obtain rfl := Except.ok.inj hs
    exact h.forget hn hT (fun _ _ he => by cases he)
      (tagDropLogger_forgets (hf.ranks _).enabled .queueDisc)

end Sends

namespace Trace

lemma key_isSome (hf : Follows place T es s) :
    (s.key p).isSome = true ↔ (monitored cfg p).isSome = true ∧ ∃ t, .send t p ∈ es := by
  obtain ⟨packetId, hp⟩ := hf.tags p
  rw [System.key, hp, tagAfter, Option.isSome_map]
  constructor
  · intro h
    obtain ⟨fTag, h⟩ := Option.isSome_iff_exists.mp h
    obtain ⟨t, ht, h⟩ := Option.bind_eq_some_iff.mp h
    obtain ⟨tuple, hm, -⟩ := Option.map_eq_some_iff.mp h
    exact ⟨hm ▸ rfl, t, sendTime_mem ht⟩
  · rintro ⟨hm, t, ht⟩
    obtain ⟨t', ht'⟩ := sendTime_isSome ht
    rw [ht', Option.bind_some, Option.isSome_map]
    exact hm

/-- At the end a rank tracks the packets that it sent and has not seen received or dropped; those
that another rank received or dropped are among them. -/
theorem tracked_iff_inFlight (T : Trace cfg) (place : Placement) (hfits : T.Fits)
    (hn : T.Numbered place) : ∃ s, System.run cfg place T.events = .ok s ∧
      (∀ p, (s.key p).isSome = true ↔ (monitored cfg p).isSome = true ∧ ∃ t, .send t p ∈ T.events) ∧
      (∀ p q key, s.key p = some key → s.key q = some key → p = q) ∧
      ∀ r key, key ∈ (s.ranks r).monitor.trackedPackets ↔
        ∃ p, s.key p = some key ∧ InFlight place r p T.events := by
  have hstart : Follows place T [] System.install ∧ Tracks place T [] System.install := by
    refine ⟨Follows.install place T, fun _ ht => absurd ht List.not_mem_nil, fun p key hp => ?_,
      fun r key => ?_⟩
    · cases hp
    · refine ⟨fun hmem => absurd hmem (AList.notMem_empty key), ?_⟩
      rintro ⟨p, hp, -⟩
      cases hp
  have hstep : ∀ es e post s, T.events = es ++ e :: post → Follows place T es s ∧ Tracks place T es s →
      ∃ s', Fleet.step cfg place s e = .ok s' ∧
        Follows place T (es ++ [e]) s' ∧ Tracks place T (es ++ [e]) s' := by
    rintro es e post s hT ⟨hf, ht⟩
    obtain ⟨s', hs', hf'⟩ := hf.step hfits hT
    exact ⟨s', hs', hf', ht.step hf hn hT hs'⟩
  obtain ⟨s, hs, hf, ht⟩ := foldlM_invariant hstart hstep
  have hall : T.events = T.events ++ [] := (List.append_nil _).symm
  exact ⟨s, hs, fun p => key_isSome hf, fun p q key hp hq => ht.key_inj hn hall hp hq, ht.tracked⟩

theorem tracked_iff_inFlight_delivered_elsewhere : ∃ s key,
    System.run serverConfig apart (oneLost 1).events = .ok s ∧ s.key (segment 1) = some key ∧
      key ∈ (s.ranks 0).monitor.trackedPackets := by
  have hn : (oneLost 1).Numbered apart := by
    constructor
    · intro r
      exact (firstSeen_length_le _).trans ((List.length_filter_le _ _).trans (by decide))
    · exact fun tuple => List.count_le_length.trans (by decide)
  obtain ⟨s, hs, hkeys, -, htracked⟩ := tracked_iff_inFlight (oneLost 1) apart (oneLost_fits 1) hn
  have hsome := (hkeys (segment 1)).mpr ⟨rfl, 2, by decide⟩
  obtain ⟨key, hkey⟩ := Option.isSome_iff_exists.mp hsome
  refine ⟨s, key, hs, hkey, (htracked 0 key).mpr ⟨segment 1, hkey, [.send 1 (segment 0)], 2, _, rfl, rfl, ?_⟩⟩
  decide

end Trace

end SwarmSim.FlowMonitor
