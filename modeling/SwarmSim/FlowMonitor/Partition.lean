import SwarmSim.FlowMonitor.Rows

namespace SwarmSim.FlowMonitor

open Ns3 Machine

variable {cfg : Config} {place : Placement} {T : Trace cfg} {r : Fin 64} {s : System}
  {tuple other : FiveTuple} {row : FlowRow}

namespace Trace

def OwnId (place : Placement) (T : Trace cfg) (tuple : FiveTuple) : Prop :=
  ∀ other ∈ sentFlows cfg T.events,
    flowId cfg place T.events other = flowId cfg place T.events tuple → other = tuple

def FirstSentFirst (T : Trace cfg) (tuple : FiveTuple) : Prop :=
  headSendTime T.events (T.deliveries tuple) = headSendTime T.events (T.sends tuple)

def Discerned (place : Placement) (T : Trace cfg) : Prop :=
  ∀ tuple, T.deliveries tuple ≠ [] → T.OwnId place tuple ∧
    (place tuple.sourceAddress ≠ place tuple.destinationAddress → T.FirstSentFirst tuple)

def flowRows (T : Trace cfg) : List FlowRow :=
  ((firstSeen (sentFlows cfg T.events)).filter fun tuple => T.deliveries tuple ≠ []).map T.flowRow

lemma flowRows_nodup : T.flowRows.Nodup := by
  apply ((firstSeen_nodup _).filter _).map
  intro tuple other he
  exact congrArg FlowRow.tuple he

lemma mem_flowRows : row ∈ T.flowRows ↔
    T.deliveries row.tuple ≠ [] ∧ T.flowRow row.tuple = row := by
  simp only [flowRows, List.mem_map, List.mem_filter, mem_firstSeen, decide_eq_true_eq]
  constructor
  · rintro ⟨tuple, ⟨-, hne⟩, rfl⟩
    exact ⟨hne, rfl⟩
  · rintro ⟨hne, hrow⟩
    exact ⟨row.tuple, ⟨sent_of_deliveries hne, hne⟩, hrow⟩

section OwnId

variable (hown : T.OwnId place tuple)

include hown

lemma OwnId.deliveriesOf_here (hr : place tuple.destinationAddress = r) :
    deliveriesOf cfg (deliveredHere place T r (flowId cfg place T.events tuple)) T.events =
      T.deliveries tuple := by
  apply List.filter_congr
  intro e he
  cases hd : e.deliveredFlow cfg with
  | none => rfl
  | some t =>
    apply decide_eq_decide.mpr
    constructor
    · exact fun h => hown t (delivered_sent he hd) h.2
    · rintro rfl
      exact ⟨hr, rfl⟩

lemma OwnId.sendsOf_here (hr : place tuple.sourceAddress = r) :
    sendsOf cfg (sentHere place T r (flowId cfg place T.events tuple)) T.events =
      T.sends tuple := by
  apply List.filter_congr
  intro e he
  cases hs : e.sentFlow cfg with
  | none => rfl
  | some t =>
    apply decide_eq_decide.mpr
    constructor
    · exact fun h => hown t (mem_sentFlows.mpr ⟨e, he, hs⟩) h.2
    · rintro rfl
      exact ⟨hr, rfl⟩

lemma OwnId.sendsOf_elsewhere (hr : place tuple.sourceAddress ≠ r) :
    sendsOf cfg (sentHere place T r (flowId cfg place T.events tuple)) T.events = [] := by
  apply List.eq_nil_iff_forall_not_mem.mpr
  intro e he
  obtain ⟨hmem, t, hs, hsel⟩ := mem_sendsOf.mp he
  obtain ⟨hrank, hid⟩ := of_decide_eq_true hsel
  obtain rfl : t = tuple := hown t (mem_sentFlows.mpr ⟨e, hmem, hs⟩) hid
  exact hr hrank

lemma OwnId.rank_eq (h : T.HeldAt place r tuple) :
    T.deliveries tuple ≠ [] ∧ place tuple.destinationAddress = r := by
  obtain ⟨e, he⟩ := List.exists_mem_of_ne_nil _ h.2
  obtain ⟨hmem, t, hd, hsel⟩ := mem_deliveriesOf.mp he
  obtain ⟨hrank, hid⟩ := of_decide_eq_true hsel
  obtain rfl : t = tuple := hown t (delivered_sent hmem hd) hid
  exact ⟨deliveries_ne_nil.mpr ⟨e, hmem, hd⟩, hrank⟩

lemma OwnId.heldRow_local (hr : place tuple.destinationAddress = r)
    (hs : place tuple.sourceAddress = r) (hsent : tuple ∈ sentFlows cfg T.events) :
    T.heldRow place r tuple = T.flowRow tuple := by
  have hne : T.sends tuple ≠ [] := by
    obtain ⟨e, he, ht⟩ := mem_sentFlows.mp hsent
    exact List.ne_nil_of_mem (mem_sendsOf.mpr ⟨he, tuple, ht, decide_eq_true rfl⟩)
  rw [heldRow, flowRow, hown.deliveriesOf_here hr, hown.sendsOf_here hs, headSendTime_append hne]

lemma OwnId.heldRow_remote (hr : place tuple.destinationAddress = r)
    (hs : place tuple.sourceAddress ≠ r) :
    T.heldRow place r tuple = T.flowRow tuple ↔ T.FirstSentFirst tuple := by
  rw [heldRow, flowRow, hown.deliveriesOf_here hr, hown.sendsOf_elsewhere hs, List.nil_append,
    FlowRow.mk.injEq]
  simp only [true_and, and_true]
  rfl

end OwnId

lemma Discerned.heldRow (h : T.Discerned place) (hne : T.deliveries tuple ≠ []) :
    T.heldRow place (place tuple.destinationAddress) tuple = T.flowRow tuple := by
  obtain ⟨hown, hfirst⟩ := h tuple hne
  by_cases hs : place tuple.sourceAddress = place tuple.destinationAddress
  · exact hown.heldRow_local rfl hs (sent_of_deliveries hne)
  · exact (hown.heldRow_remote rfl hs).mpr (hfirst hs)

lemma discerned_oneRank (hfits : T.Fits) : T.Discerned oneRank := by
  intro tuple hne
  refine ⟨fun other hother hid => ?_, fun h => absurd rfl h⟩
  have hflows : flowsFrom cfg oneRank 0 T.events = firstSeen (sentFlows cfg T.events) :=
    congrArg firstSeen (List.filter_eq_self.mpr fun _ _ => decide_eq_true rfl)
  have hlt : ∀ t ∈ sentFlows cfg T.events, (firstSeen (sentFlows cfg T.events)).idxOf t < 2 ^ 32 :=
    fun t ht => (List.idxOf_lt_length_of_mem (mem_firstSeen.mpr ht)).trans_le hfits.flows
  have htuple := hlt tuple (sent_of_deliveries hne)
  have hother' := hlt other hother
  simp only [flowId, oneRank, hflows] at hid
  have hnat := congrArg BitVec.toNat hid
  simp only [BitVec.toNat_ofNat, Fin.val_zero] at hnat
  have hidx : (firstSeen (sentFlows cfg T.events)).idxOf other =
      (firstSeen (sentFlows cfg T.events)).idxOf tuple := by omega
  exact (List.idxOf_inj (mem_firstSeen.mpr hother)).mp hidx

lemma ownId_of_few (hfew : ∀ r, (flowsFrom cfg place r T.events).length ≤ 2 ^ 26)
    (hsent : tuple ∈ sentFlows cfg T.events) : T.OwnId place tuple := by
  intro other hother hid
  have hmem : ∀ t ∈ sentFlows cfg T.events,
      t ∈ flowsFrom cfg place (place t.sourceAddress) T.events :=
    fun t ht => mem_flowsFrom.mpr ⟨ht, rfl⟩
  have hlt : ∀ t ∈ sentFlows cfg T.events,
      (flowsFrom cfg place (place t.sourceAddress) T.events).idxOf t < 2 ^ 26 :=
    fun t ht => (List.idxOf_lt_length_of_mem (hmem t ht)).trans_le (hfew _)
  have htuple := hlt tuple hsent
  have hother' := hlt other hother
  have hr := (place tuple.sourceAddress).isLt
  have hr' := (place other.sourceAddress).isLt
  have hnat := congrArg BitVec.toNat hid
  simp only [flowId, BitVec.toNat_ofNat] at hnat
  have hrank : place other.sourceAddress = place tuple.sourceAddress := Fin.ext (by omega)
  rw [hrank] at hnat hother'
  have hidx : (flowsFrom cfg place (place tuple.sourceAddress) T.events).idxOf other =
      (flowsFrom cfg place (place tuple.sourceAddress) T.events).idxOf tuple := by omega
  exact (List.idxOf_inj (hrank ▸ hmem other hother)).mp hidx

end Trace

namespace Follows

lemma mem_rankRows_discerned (h : Follows place T T.events s) (hd : T.Discerned place) :
    row ∈ s.rankRows r ↔ row ∈ T.flowRows ∧ place row.tuple.destinationAddress = r := by
  rw [h.mem_rankRows, Trace.mem_flowRows]
  constructor
  · rintro ⟨hheld, hrow⟩
    obtain ⟨e, he⟩ := List.exists_mem_of_ne_nil _ hheld.2
    obtain ⟨hmem, t, ht, hsel⟩ := mem_deliveriesOf.mp he
    have hne : T.deliveries t ≠ [] := Trace.deliveries_ne_nil.mpr ⟨e, hmem, ht⟩
    -- the delivery was one of `t`, and the number of `t` is its own
    obtain rfl : row.tuple = t := (hd t hne).1 _ hheld.1 (of_decide_eq_true hsel).2.symm
    obtain ⟨-, hr⟩ := (hd _ hne).1.rank_eq hheld
    rw [← hr, hd.heldRow hne] at hrow
    exact ⟨⟨hne, hrow⟩, hr⟩
  · rintro ⟨⟨hne, hrow⟩, hr⟩
    exact ⟨Trace.heldAt_of_deliveries hne hr, by rw [← hr, hd.heldRow hne, hrow]⟩

lemma rows_perm (h : Follows place T T.events s) (hd : T.Discerned place) :
    s.rows.Perm T.flowRows := by
  have hnodup : s.rows.Nodup := by
    apply List.nodup_flatMap.mpr
    refine ⟨fun r _ => h.rankRows_nodup r, (List.nodup_finRange 64).imp ?_⟩
    intro r r' hne row hr hr'
    exact hne (((h.mem_rankRows_discerned hd).mp hr).2.symm.trans
      ((h.mem_rankRows_discerned hd).mp hr').2)
  apply (List.perm_ext_iff_of_nodup hnodup Trace.flowRows_nodup).mpr
  intro row
  simp only [System.mem_rows, h.mem_rankRows_discerned hd, exists_and_left, exists_eq', and_true]

end Follows

namespace Trace

lemma bytes_add_le (cfg : Config) (sel : FiveTuple → Bool) (hne : other ≠ tuple)
    (ho : sel other = true) (ht : sel tuple = true) (es : List Event) :
    bytes (deliveriesOf cfg (· = tuple) es) + bytes (deliveriesOf cfg (· = other) es) ≤
      bytes (deliveriesOf cfg sel es) := by
  induction es using List.reverseRecOn with
  | nil => rfl
  | append_singleton es e ih =>
    simp only [deliveriesOf_concat, bytes_append]
    cases hd : e.deliveredFlow cfg with
    | none => simpa using ih
    | some t =>
      simp only [Option.any_some]
      by_cases h : t = tuple
      · subst h
        rw [if_pos (decide_eq_true rfl), if_neg (by simpa using hne.symm), if_pos ht, bytes_nil]
        omega
      · by_cases h' : t = other
        · subst h'
          rw [if_neg (by simpa using h), if_pos (decide_eq_true rfl), if_pos ho, bytes_nil]
          omega
        · rw [if_neg (by simpa using h), if_neg (by simpa using h'), bytes_nil]
          omega

lemma bytes_lt (hfits : T.Fits) (sel : FiveTuple → Bool) :
    bytes (deliveriesOf cfg sel T.events) < 2 ^ 64 := by
  apply (bytes_le _).trans_lt hfits.delivered
  apply List.monotone_filter_right
  intro e he
  obtain ⟨tuple, ht, -⟩ := (Option.any_eq_true _ _).mp he
  simp [ht]

lemma heldRow_of_rows (h : Follows place T T.events s) (hrows : s.rows.Perm T.flowRows)
    (hheld : T.HeldAt place r tuple) :
    T.deliveries tuple ≠ [] ∧ T.heldRow place r tuple = T.flowRow tuple := by
  have hmem := hrows.mem_iff.mp (System.mem_rows.mpr ⟨r, h.heldRow_mem hheld⟩)
  obtain ⟨hd, hrow⟩ := mem_flowRows.mp hmem
  exact ⟨hd, hrow.symm⟩

/-- Two delivered flows of one number would have their bytes added up in one row. -/
lemma ownId_of_rows (hfits : T.Fits) (h : Follows place T T.events s) (hrows : s.rows.Perm T.flowRows)
    (hone : ∀ r r', ∀ row ∈ s.rankRows r, ∀ row' ∈ s.rankRows r', row.tuple = row'.tuple → r = r')
    (hne : T.deliveries tuple ≠ []) : T.OwnId place tuple := by
  intro other hother hid
  have ht : T.HeldAt place (place tuple.destinationAddress) tuple := heldAt_of_deliveries hne rfl
  have ho : T.HeldAt place (place tuple.destinationAddress) other := ⟨hother, hid ▸ ht.2⟩
  obtain ⟨hdo, -⟩ := heldRow_of_rows h hrows ho
  have hplace : place tuple.destinationAddress = place other.destinationAddress :=
    hone _ _ _ (h.heldRow_mem ho) _ (h.heldRow_mem (heldAt_of_deliveries hdo rfl)) rfl
  by_contra hdiff
  have hbytes := congrArg (fun row => row.rxBytes.toNat) (heldRow_of_rows h hrows ht).2
  simp only [heldRow, flowRow, BitVec.toNat_ofNat, Nat.mod_eq_of_lt (bytes_lt hfits _)] at hbytes
  have hadd := bytes_add_le cfg (deliveredHere place T (place tuple.destinationAddress)
    (flowId cfg place T.events tuple)) hdiff (decide_eq_true ⟨hplace.symm, hid⟩)
    (decide_eq_true ⟨rfl, rfl⟩) T.events
  have hpos := bytes_pos hdo
  rw [hbytes] at hadd
  unfold deliveries at hadd hpos hbytes
  omega

lemma discerned_of_rows (hfits : T.Fits) (h : Follows place T T.events s)
    (hrows : s.rows.Perm T.flowRows)
    (hone : ∀ r r', ∀ row ∈ s.rankRows r, ∀ row' ∈ s.rankRows r', row.tuple = row'.tuple → r = r') :
    T.Discerned place := by
  intro tuple hne
  have hown := ownId_of_rows hfits h hrows hone hne
  refine ⟨hown, fun hs => ?_⟩
  exact (hown.heldRow_remote rfl hs).mp
    (heldRow_of_rows h hrows (heldAt_of_deliveries hne rfl)).2

lemma discerned_of_invisible (hfits : T.Fits) (h : T.PlacementInvisible place) :
    T.Discerned place := by
  obtain ⟨s, s₁, hs, hs₁, hperm, hone⟩ := h
  obtain ⟨_, ht, hf⟩ := run_follows place T hfits
  obtain ⟨_, ht₁, hf₁⟩ := run_follows oneRank T hfits
  obtain rfl := Except.ok.inj (hs.symm.trans ht)
  obtain rfl := Except.ok.inj (hs₁.symm.trans ht₁)
  exact discerned_of_rows hfits hf (hperm.trans (hf₁.rows_perm (discerned_oneRank hfits))) hone

lemma invisible_of_discerned (hfits : T.Fits) (h : T.Discerned place) :
    T.PlacementInvisible place := by
  obtain ⟨s, hs, hf⟩ := run_follows place T hfits
  obtain ⟨s₁, hs₁, hf₁⟩ := run_follows oneRank T hfits
  refine ⟨s, s₁, hs, hs₁, (hf.rows_perm h).trans (hf₁.rows_perm (discerned_oneRank hfits)).symm, ?_⟩
  intro r r' row hr row' hr' he
  obtain ⟨-, hplace⟩ := (hf.mem_rankRows_discerned h).mp hr
  obtain ⟨-, hplace'⟩ := (hf.mem_rankRows_discerned h).mp hr'
  rw [← hplace, ← hplace', he]

end Trace

section Servers

def serverA : Ipv4Address := Ipv4Address.ofOctets 10 0 0 2
def serverB : Ipv4Address := Ipv4Address.ofOctets 10 1 0 2

def serverConfig : Config where
  sourcePortToFilter := 0
  monitorUntil := 1000
  isUnicast _ dst := !dst.isMulticast && dst ≠ 0xffffffff#32

def apart : Placement := fun host => ⟨if host = serverA then 0 else 1, by split <;> norm_num⟩

def segment (uid : ℕ) : Packet where
  uid := uid
  ipHeader := ⟨serverA, serverB, tcpProtNumber, 0⟩
  ipPayload := [0, 20, 0, 10] ++ List.replicate 16 0
  size_lt := by norm_num [Ipv4Header.getSerializedSize]

def segmentFlow : FiveTuple := ⟨serverA, serverB, tcpProtNumber, 20, 10⟩

def oneLost (kept : Fin 2) : Trace serverConfig where
  events := [.send 1 (segment 0), .send 2 (segment 1),
    .queueDrop 3 serverA (segment (1 - kept : Fin 2)), .deliver 4 (segment kept)]
  sent_once pre now p post h := by
    rcases pre with _ | ⟨a, _ | ⟨b, _ | ⟨c, _ | ⟨d, pre⟩⟩⟩⟩ <;> simp at h
    · simp
    · obtain ⟨rfl, ⟨rfl, rfl⟩, rfl⟩ := h
      simp [segment]
  follows_send pre now p post h := by
    rcases pre with _ | ⟨a, _ | ⟨b, _ | ⟨c, _ | ⟨d, pre⟩⟩⟩⟩ <;> simp at h
    obtain ⟨rfl, rfl, rfl, ⟨rfl, rfl⟩, rfl⟩ := h
    exact ⟨kept + 1, by fin_cases kept <;> simp⟩
  accepted e he := by
    simp only [List.mem_cons, List.not_mem_nil, or_false] at he
    rcases he with rfl | rfl | rfl | rfl
    · exact rfl
    · exact rfl
    · trivial
    · exact .inr rfl
  time_pos := by simp [Event.time]
  time_le := by simp [Event.time, serverConfig]

lemma oneLost_fits (kept : Fin 2) : (oneLost kept).Fits := by
  fin_cases kept <;> constructor <;> decide

lemma oneLost_delivered {kept : Fin 2} {tuple : FiveTuple}
    (h : (oneLost kept).deliveries tuple ≠ []) : tuple = segmentFlow := by
  obtain ⟨e, he, hd⟩ := Trace.deliveries_ne_nil.mp h
  simp only [oneLost, List.mem_cons, List.not_mem_nil, or_false] at he
  rcases he with rfl | rfl | rfl | rfl <;> cases hd
  rfl

end Servers

namespace Trace

/-- The placement of the hosts leaves the output as it is exactly if every flow that is delivered
has its number for itself and, where it crosses ranks, the packet received first was sent when the
first packet was. -/
theorem placementInvisible_iff (T : Trace cfg) (place : Placement) (hfits : T.Fits) :
    T.PlacementInvisible place ↔
      ∀ tuple, T.deliveries tuple ≠ [] → T.OwnId place tuple ∧
        (place tuple.sourceAddress ≠ place tuple.destinationAddress → T.FirstSentFirst tuple) :=
  ⟨discerned_of_invisible hfits, invisible_of_discerned hfits⟩

theorem placementInvisible_iff_second_lost : (oneLost 0).PlacementInvisible apart := by
  apply (placementInvisible_iff (oneLost 0) apart (oneLost_fits 0)).mpr
  intro tuple hne
  obtain rfl := oneLost_delivered hne
  refine ⟨fun other hother _ => ?_, fun _ => ?_⟩
  · have hsent : sentFlows serverConfig (oneLost 0).events = [segmentFlow, segmentFlow] := by decide
    simpa [hsent] using hother
  · unfold FirstSentFirst
    decide

theorem first_lost_visible : ¬(oneLost 1).PlacementInvisible apart := by
  intro h
  obtain ⟨-, hfirst⟩ := discerned_of_invisible (oneLost_fits 1) h segmentFlow (by decide)
  have hvisible : ¬(oneLost 1).FirstSentFirst segmentFlow := by
    unfold FirstSentFirst
    decide
  exact hvisible (hfirst (by decide))

end Trace

end SwarmSim.FlowMonitor
