import SwarmSim.FlowMonitor.Probe
import SwarmSim.FlowMonitor.Partition
import SwarmSim.Machine.Buffer
import SwarmSim.Machine.Fold

namespace SwarmSim.FlowMonitor

open Ns3 Machine

/-- How a `TagBuffer` and `Ipv4Address::Serialize` lay out their words. -/
structure WireFormat where
  u32 : Codec (BitVec 32)
  u64 : Codec (BitVec 64)
  ipv4Address : Codec Ipv4Address
  u32_size : u32.size = 4
  u64_size : u64.size = 8
  ipv4Address_size : ipv4Address.size = 4

namespace Ipv4MpiFlowProbeTag

variable (L : WireFormat)

def getSerializedSize : ℕ := 4 + 4 + 4 + 8 + 16

def serialize (fTag : Ipv4MpiFlowProbeTag) (buf : Buffer) : Option Buffer :=
  (L.u32.write fTag.flowId buf).bind fun buf =>
  (L.u32.write fTag.packetId buf).bind fun buf =>
  (L.u32.write (BitVec.ofNat 32 fTag.packetSize) buf).bind fun buf =>
  (L.ipv4Address.write fTag.src buf).bind fun buf =>
  (L.ipv4Address.write fTag.dst buf).bind fun buf =>
  (L.u64.write (BitVec.ofNat 64 fTag.tStart) buf).bind fun buf =>
  L.u64.write (BitVec.ofNat 64 fTag.tLastRx) buf

def deserialize (buf : List Octet) : Option Ipv4MpiFlowProbeTag :=
  (L.u32.read buf).bind fun (flowId, buf) =>
  (L.u32.read buf).bind fun (packetId, buf) =>
  (L.u32.read buf).bind fun (packetSize, buf) =>
  (L.ipv4Address.read buf).bind fun (src, buf) =>
  (L.ipv4Address.read buf).bind fun (dst, buf) =>
  (L.u64.read buf).bind fun (tStart, buf) =>
  (L.u64.read buf).map fun (tLastRx, _) =>
    ⟨flowId, packetId, packetSize.toNat, src, dst, tStart.toNat, tLastRx.toNat⟩

def fields : Codec (BitVec 32 × BitVec 32 × BitVec 32 × Ipv4Address × Ipv4Address × BitVec 64 ×
    BitVec 64) :=
  L.u32.pair (L.u32.pair (L.u32.pair (L.ipv4Address.pair (L.ipv4Address.pair (L.u64.pair L.u64)))))

def toBytes (fTag : Ipv4MpiFlowProbeTag) : List Octet :=
  (fields L).encode (fTag.flowId, fTag.packetId, BitVec.ofNat 32 fTag.packetSize, fTag.src, fTag.dst,
    BitVec.ofNat 64 fTag.tStart, BitVec.ofNat 64 fTag.tLastRx)

structure Fits (fTag : Ipv4MpiFlowProbeTag) : Prop where
  packetSize : fTag.packetSize < 2 ^ 32
  tStart : fTag.tStart < 2 ^ 64
  tLastRx : fTag.tLastRx < 2 ^ 64

lemma fields_size : (fields L).size = getSerializedSize := by
  change L.u32.size + (L.u32.size + (L.u32.size + (L.ipv4Address.size + (L.ipv4Address.size +
    (L.u64.size + L.u64.size))))) = _
  rw [L.u32_size, L.u64_size, L.ipv4Address_size]
  rfl

lemma length_toBytes (fTag : Ipv4MpiFlowProbeTag) : (fTag.toBytes L).length = getSerializedSize :=
  ((fields L).length_encode _).trans (fields_size L)

lemma serialize_exact (fTag : Ipv4MpiFlowProbeTag) :
    fTag.serialize L ⟨[], getSerializedSize⟩ = some ⟨fTag.toBytes L, 0⟩ := by
  simp only [serialize, Codec.write_pair]
  rw [← fields_size L]
  exact (fields L).write_exact _

lemma deserialize_toBytes {fTag : Ipv4MpiFlowProbeTag} (h : fTag.Fits) :
    deserialize L (fTag.toBytes L) = some fTag := by
  have hlast := fun v : BitVec 64 => L.u64.read_encode v []
  simp only [List.append_nil] at hlast
  simp only [toBytes, fields, Codec.pair, deserialize, Codec.read_encode, hlast,
    Option.bind_some, Option.map_some, BitVec.toNat_ofNat, Nat.mod_eq_of_lt h.packetSize,
    Nat.mod_eq_of_lt h.tStart, Nat.mod_eq_of_lt h.tLastRx]

end Ipv4MpiFlowProbeTag

/-- The byte tag that `FindFirstMatchingByteTag` finds and deserializes. -/
def findFirstMatchingByteTag (L : WireFormat) : Option (List Octet) →
    Except Fault (Option Ipv4MpiFlowProbeTag)
  | none => .ok none
  | some buf =>
    match Ipv4MpiFlowProbeTag.deserialize L buf with
    | none => .error .assertion
    | some fTag => .ok (some fTag)

/-- `AddByteTag`, for a tag if there is one. -/
def addByteTag (L : WireFormat) : Option Ipv4MpiFlowProbeTag → Except Fault (Option (List Octet))
  | none => .ok none
  | some fTag =>
    match fTag.serialize L ⟨[], Ipv4MpiFlowProbeTag.getSerializedSize⟩ with
    | none => .error .assertion
    | some buf => .ok (some buf.written)

structure WireSystem where
  ranks : Fin 64 → Rank
  byteTags : Packet → Option (List Octet)

namespace WireSystem

variable (L : WireFormat) (cfg : Config) (place : Placement)

def install : WireSystem where
  ranks r := Rank.install (BitVec.ofNat 32 r)
  byteTags _ := none

def setRank (r : Fin 64) (rank : Rank) (w : WireSystem) : WireSystem :=
  { w with ranks := Function.update w.ranks r rank }

def step (w : WireSystem) (e : Event) : Except Fault WireSystem :=
  let r := place e.host
  let rank := w.ranks r
  (findFirstMatchingByteTag L (w.byteTags e.packet)).bind fun fTag =>
  match e with
  | .send now p =>
    (rank.sendOutgoingLogger cfg now p fTag).bind fun (rank, fTag) =>
    (addByteTag L fTag).map fun byteTag =>
      { w.setRank r rank with byteTags := Function.update w.byteTags p byteTag }
  | .deliver now p => (rank.forwardUpLogger cfg now p fTag).map fun rank => w.setRank r rank
  | .drop _ _ p reason => (rank.dropLogger p fTag reason).map fun rank => w.setRank r rank
  | .queueDrop _ _ _ => .ok (w.setRank r (rank.queueDropLogger fTag))
  | .queueDiscDrop _ _ _ => .ok (w.setRank r (rank.queueDiscDropLogger fTag))

def run (es : List Event) : Except Fault WireSystem := es.foldlM (step L cfg place) install

def Carries (s : System) (w : WireSystem) : Prop :=
  w.ranks = s.ranks ∧ ∀ p, findFirstMatchingByteTag L (w.byteTags p) = .ok (s.tags p) ∧
    ∀ buf ∈ w.byteTags p, buf.length = Ipv4MpiFlowProbeTag.getSerializedSize

def ofSystem (s : System) : WireSystem where
  ranks := s.ranks
  byteTags p := (s.tags p).map (Ipv4MpiFlowProbeTag.toBytes L)

end WireSystem

def System.TagsFit (s : System) : Prop := ∀ p, ∀ fTag ∈ s.tags p, fTag.Fits

section Steps

variable {L : WireFormat} {cfg : Config} {place : Placement} {s s' : System} {e : Event} {p : Packet}
  {rank rank' : Rank} {now : ℕ} {fTag fTag' : Option Ipv4MpiFlowProbeTag}

lemma addByteTag_ok (fTag : Option Ipv4MpiFlowProbeTag) :
    addByteTag L fTag = .ok (fTag.map (Ipv4MpiFlowProbeTag.toBytes L)) := by
  cases fTag with
  | none => rfl
  | some fTag =>
    rw [addByteTag, Ipv4MpiFlowProbeTag.serialize_exact]
    rfl

lemma System.TagsFit.find (h : s.TagsFit) (p : Packet) :
    findFirstMatchingByteTag L ((WireSystem.ofSystem L s).byteTags p) = .ok (s.tags p) := by
  change findFirstMatchingByteTag L ((s.tags p).map (Ipv4MpiFlowProbeTag.toBytes L)) = _
  cases hp : s.tags p with
  | none => rfl
  | some fTag =>
    rw [Option.map_some, findFirstMatchingByteTag,
      Ipv4MpiFlowProbeTag.deserialize_toBytes L (h p fTag hp)]

lemma sendOutgoingLogger_fits (hnow : now < 2 ^ 64)
    (h : rank.sendOutgoingLogger cfg now p fTag = .ok (rank', fTag')) : ∀ t ∈ fTag', t.Fits := by
  have hsize : p.size < 2 ^ 32 := p.size_lt.trans (by norm_num)
  rw [Rank.sendOutgoingLogger] at h
  split_ifs at h
  split at h
  · cases h
    exact fun t ht => absurd ht (Option.not_mem_none t)
  · cases h
    rintro t ⟨⟩
    exact ⟨hsize, hnow, hnow⟩

lemma step_ofSystem (h : s.TagsFit) : (Fleet.step cfg place s e).map (WireSystem.ofSystem L) =
    WireSystem.step L cfg place (WireSystem.ofSystem L s) e := by
  rw [WireSystem.step, h.find]
  cases e with
  | send now p =>
    change Except.map _ (((s.ranks _).sendOutgoingLogger cfg now p (s.tags p)).bind _) =
      ((s.ranks _).sendOutgoingLogger cfg now p (s.tags p)).bind _
    cases (s.ranks (place (Event.send now p).host)).sendOutgoingLogger cfg now p (s.tags p) with
    | error x => rfl
    | ok sent =>
      change _ = (addByteTag L sent.2).map _
      rw [addByteTag_ok]
      refine congrArg Except.ok (WireSystem.mk.injEq .. ▸ ⟨rfl, ?_⟩)
      exact funext fun q => Function.apply_update (fun _ => Option.map _) s.tags p sent.2 q
  | deliver now p =>
    change Except.map _ (((s.ranks _).forwardUpLogger cfg now p (s.tags p)).bind _) =
      ((s.ranks _).forwardUpLogger cfg now p (s.tags p)).map _
    cases (s.ranks (place (Event.deliver now p).host)).forwardUpLogger cfg now p (s.tags p) <;> rfl
  | drop now host p reason =>
    change Except.map _ (((s.ranks _).dropLogger p (s.tags p) reason).bind _) =
      ((s.ranks _).dropLogger p (s.tags p) reason).map _
    cases (s.ranks (place (Event.drop now host p reason).host)).dropLogger p (s.tags p) reason <;> rfl
  | queueDrop now host p => rfl
  | queueDiscDrop now host p => rfl

lemma step_fits (h : s.TagsFit) (he : e.time < 2 ^ 64) (hs : Fleet.step cfg place s e = .ok s') :
    s'.TagsFit := by
  cases e with
  | send now p =>
    obtain ⟨sent, hsend, hs⟩ := bind_ok hs
    obtain rfl := Except.ok.inj hs
    intro q t ht
    change t ∈ Function.update s.tags p sent.2 q at ht
    by_cases hq : q = p
    · subst hq
      rw [Function.update_self] at ht
      exact sendOutgoingLogger_fits he hsend t ht
    · rw [Function.update_of_ne hq] at ht
      exact h q t ht
  | deliver now p =>
    obtain ⟨rank, -, hs⟩ := bind_ok hs
    exact Except.ok.inj hs ▸ h
  | drop now host p reason =>
    obtain ⟨rank, -, hs⟩ := bind_ok hs
    exact Except.ok.inj hs ▸ h
  | queueDrop now host p => exact Except.ok.inj hs ▸ h
  | queueDiscDrop now host p => exact Except.ok.inj hs ▸ h

lemma System.TagsFit.carries (h : s.TagsFit) : WireSystem.Carries L s (WireSystem.ofSystem L s) := by
  refine ⟨rfl, fun p => ⟨h.find p, fun buf hbuf => ?_⟩⟩
  obtain ⟨t, -, rfl⟩ := Option.mem_map.mp hbuf
  exact t.length_toBytes L

end Steps

namespace WireSystem

/-- The run over bytes aborts when and as the run over tags does, and ends in its state. -/
theorem run_carries (L : WireFormat) (cfg : Config) (place : Placement) (es : List Event)
    (htime : ∀ e ∈ es, e.time < 2 ^ 64) :
    (∃ x, System.run cfg place es = .error x ∧ run L cfg place es = .error x) ∨
      ∃ s w, System.run cfg place es = .ok s ∧ run L cfg place es = .ok w ∧ Carries L s w := by
  have hinstall : System.install.TagsFit := fun p t ht => absurd ht (Option.not_mem_none t)
  obtain ⟨hmap, hfits⟩ := foldlM_simulates (f := Fleet.step cfg place) (g := ofSystem L) hinstall
    (fun s e _ hs => step_ofSystem hs) fun s t e he hs => step_fits hs (htime e he)
  cases hrun : System.run cfg place es with
  | error x =>
    refine .inl ⟨x, rfl, ?_⟩
    exact hmap.symm.trans (congrArg (Except.map (ofSystem L)) hrun)
  | ok s =>
    refine .inr ⟨s, ofSystem L s, rfl, ?_, (hfits s hrun).carries⟩
    exact hmap.symm.trans (congrArg (Except.map (ofSystem L)) hrun)

def tagBufferFormat : WireFormat where
  u32 := littleEndian 4 rfl
  u64 := littleEndian 8 rfl
  ipv4Address := bigEndian 4 rfl
  u32_size := rfl
  u64_size := rfl
  ipv4Address_size := rfl

theorem run_carries_one_lost : ∃ s w, System.run serverConfig apart (oneLost 0).events = .ok s ∧
    run tagBufferFormat serverConfig apart (oneLost 0).events = .ok w ∧
    Carries tagBufferFormat s w := by
  obtain ⟨s, hs, -⟩ := run_follows apart (oneLost 0) (oneLost_fits 0)
  have htime : ∀ e ∈ (oneLost 0).events, e.time < 2 ^ 64 := by decide
  rcases run_carries tagBufferFormat serverConfig apart (oneLost 0).events htime with
    ⟨x, hx, -⟩ | h
  · cases hx.symm.trans hs
  · exact h

end WireSystem

end SwarmSim.FlowMonitor
