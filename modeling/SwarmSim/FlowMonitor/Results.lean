import SwarmSim.FlowMonitor.Drops
import SwarmSim.FlowMonitor.Partition
import SwarmSim.FlowMonitor.ResultParser
import SwarmSim.Offline.ReadAllCsv

namespace SwarmSim.FlowMonitor

open Ns3 Machine

section Files

variable {order : List ℕ} {files : List Char → Option (List Char)}

/-- `std::string::find`. -/
def find (needle text : List Char) : Option ℕ :=
  (List.range (text.length + 1)).find? fun i => needle.isPrefixOf (text.drop i)

def fileNameWithSystemId (fileName : List Char) (systemId : ℕ) : List Char :=
  match find ".xml".toList fileName with
  | some pos => fileName.take pos ++ '-' :: (digits systemId ++ ".xml".toList)
  | none => fileName ++ '-' :: (digits systemId ++ ".xml".toList)

structure ResultArgs where
  dir : List Char
  name : List Char
  mpi : ℕ

def ResultArgs.path (args : ResultArgs) (i : ℕ) : List Char :=
  Offline.pathJoin args.dir (args.name ++ '-' :: (digits i ++ ".xml".toList))

lemma ResultArgs.path_injective (args : ResultArgs) : Function.Injective args.path := by
  intro i j h
  have hname : args.name ++ '-' :: (digits i ++ ".xml".toList) =
      args.name ++ '-' :: (digits j ++ ".xml".toList) := by
    apply Offline.pathJoin_inj _ h
    cases args with
    | mk dir name mpi => cases name <;> rfl
  exact Offline.digits_injective
    (List.append_cancel_right (List.cons_injective (List.append_cancel_left hname)))

namespace FlowMonitorXmlParser

end FlowMonitorXmlParser

namespace System

variable (text : Ns3Text) (s : System)

def document (i : ℕ) : List Char :=
  let rank := s.ranks ⟨i % 64, Nat.mod_lt i (by decide)⟩
  rank.monitor.serializeToXmlFile text [rank.classifier]

/-- The ranks write their files to the directory `dir`, those in front of `order` first. -/
def serialize (dir fileName : List Char) (order : List ℕ) (files : List Char → Option (List Char)) :
    List Char → Option (List Char) :=
  Offline.written (fun i => Offline.pathJoin dir (fileNameWithSystemId fileName i)) (s.document text)
    order files

def shownFlows : List (FlowId × FlowStats) :=
  (List.range 64).flatMap fun i => (s.ranks ⟨i % 64, Nat.mod_lt i (by decide)⟩).monitor.shownInOrder

variable {text s}

end System

end Files

variable {cfg : Config} {place : Placement} {T : Trace cfg} {r : Fin 64} {s : System}
  {tuple : FiveTuple} {row : FlowRow} {x : FlowId}

def FlowRow.stats (row : FlowRow) : FlowStats where
  timeFirstTxPacket := row.timeFirstTxPacket
  timeLastRxPacket := row.timeLastRxPacket
  rxBytes := row.rxBytes

def FlowStats.read (stats : FlowStats) : FlowStats where
  timeFirstTxPacket := stats.timeFirstTxPacket
  timeLastRxPacket := stats.timeLastRxPacket
  rxBytes := stats.rxBytes

variable {stats : FlowStats} {text : Ns3Text} {flows flows' : List (FlowId × FlowStats)}
  {p q : FlowMonitorXmlParser} {keep : FlowStats → Prop} {value : FlowStats → ℤ × ℚ}
  {map : Map ℤ (ℤ × ℚ)}

namespace System

lemma mem_shownFlows {flow : FlowId × FlowStats} :
    flow ∈ s.shownFlows ↔ ∃ r, flow ∈ (s.ranks r).monitor.shownFlows := by
  simp only [shownFlows, List.mem_flatMap, List.mem_range, mem_shownInOrder]
  constructor
  · rintro ⟨i, -, hflow⟩
    exact ⟨_, hflow⟩
  · rintro ⟨r, hflow⟩
    refine ⟨r, r.isLt, ?_⟩
    have hr : (⟨r % 64, Nat.mod_lt r (by decide)⟩ : Fin 64) = r := Fin.ext (Nat.mod_eq_of_lt r.isLt)
    rwa [hr]

end System

namespace Follows

lemma row_of_shown (h : Follows place T T.events s) (hd : T.Discerned place)
    (hshown : (x, stats) ∈ (s.ranks r).monitor.shownFlows) :
    ∃ row ∈ T.flowRows, flowId cfg place T.events row.tuple = x ∧ row.stats = stats.read ∧
      place row.tuple.destinationAddress = r := by
  obtain ⟨-, hne⟩ := h.mem_shownFlows.mp hshown
  obtain ⟨e, he⟩ := List.exists_mem_of_ne_nil _ hne
  obtain ⟨hmem, tuple, ht, hsel⟩ := mem_deliveriesOf.mp he
  obtain ⟨hr, hid⟩ := of_decide_eq_true hsel
  have hflow : (tuple, x) ∈ s.flowIds := h.mem_flowIds.mpr ⟨Trace.delivered_sent hmem ht, hid⟩
  have hrow : (⟨tuple, stats.timeFirstTxPacket, stats.timeLastRxPacket, stats.rxBytes⟩ : FlowRow) ∈
      s.rankRows r := by
    apply List.mem_flatMap.mpr
    refine ⟨(x, stats), hshown, List.mem_map.mpr ⟨(tuple, x), ?_, rfl⟩⟩
    exact List.mem_filter.mpr ⟨hflow, decide_eq_true rfl⟩
  exact ⟨_, ((h.mem_rankRows_discerned hd).mp hrow).1, hid, rfl, hr⟩

lemma shownFlows_nodup (h : Follows place T T.events s) (hd : T.Discerned place) :
    (s.shownFlows.map Prod.fst).Nodup := by
  rw [System.shownFlows, List.map_flatMap]
  apply List.nodup_flatMap.mpr
  refine ⟨fun i _ => shownInOrder_nodup, List.nodup_range.imp_of_mem ?_⟩
  intro i j hi hj hij x hx hy
  obtain ⟨⟨_, stats⟩, hshown, rfl⟩ := List.mem_map.mp hx
  obtain ⟨⟨_, stats'⟩, hshown', rfl⟩ := List.mem_map.mp hy
  obtain ⟨row, hrow, hid, -, hplace⟩ := h.row_of_shown hd (mem_shownInOrder.mp hshown)
  obtain ⟨row', hrow', hid', -, hplace'⟩ := h.row_of_shown hd (mem_shownInOrder.mp hshown')
  obtain ⟨hne, -⟩ := Trace.mem_flowRows.mp hrow
  obtain ⟨hne', -⟩ := Trace.mem_flowRows.mp hrow'
  have hsame : row'.tuple = row.tuple :=
    (hd _ hne).1 _ (Trace.sent_of_deliveries hne') (hid'.trans hid.symm)
  rw [← hsame, hplace'] at hplace
  have hvalue := congrArg Fin.val hplace
  simp only [Nat.mod_eq_of_lt (List.mem_range.mp hi),
    Nat.mod_eq_of_lt (List.mem_range.mp hj)] at hvalue
  exact hij hvalue.symm

end Follows

section Reading

end Reading

namespace Trace

end Trace

end SwarmSim.FlowMonitor
