import SwarmSim.FlowMonitor.FindFlow
import SwarmSim.FlowMonitor.Monitor
import SwarmSim.Machine.Print
import SwarmSim.Machine.Xml

namespace SwarmSim.FlowMonitor

open Ns3 Machine Machine.Xml

/-- What a time printed `As(Time::NS)` and an address come to: the time goes through a `double` and
the precision of the stream, and its unit follows. -/
structure Ns3Text where
  asNs : ℕ → List Char
  printed : ℕ → ℚ
  address : Ipv4Address → List Char
  asNs_number : ∀ t, ∃ number, asNs t = number ++ ['n', 's'] ∧
    scanDecimal number = ⟨printed t, [], true⟩
  asNs_plain : ∀ t, ∀ c ∈ asNs t, isPlain c = true
  address_plain : ∀ a, ∀ c ∈ address a, isPlain c = true

abbrev XmlLine := ℕ × Markup

def line (indent : BitVec 16) (m : Markup) : XmlLine := (indent.toNat, m)

def classifierFlowLines (text : Ns3Text) (indent : BitVec 16) (flow : FlowEntry) : List XmlLine :=
  [line indent (.start "Flow"
    [("flowId", digits flow.2.toNat),
      ("sourceAddress", text.address flow.1.sourceAddress),
      ("destinationAddress", text.address flow.1.destinationAddress),
      ("protocol", digits flow.1.protocol.toNat),
      ("sourcePort", digits flow.1.sourcePort.toNat),
      ("destinationPort", digits flow.1.destinationPort.toNat)]),
    line indent (.stop "Flow")]

def Ipv4MpiFlowClassifier.serializeToXmlStream (text : Ns3Text) (indent : BitVec 16)
    (c : Ipv4MpiFlowClassifier) : List XmlLine :=
  line indent (.start "Ipv4FlowClassifier" []) ::
    (c.flowsInOrder.flatMap (classifierFlowLines text (indent + 2)) ++
      [line indent (.stop "Ipv4FlowClassifier")])

def dropMarkups {n : ℕ} (tag amount : String) (counters : List (BitVec n)) : List Markup :=
  counters.zipIdx.map fun (counter, reasonCode) =>
    .empty tag [("reasonCode", digits reasonCode), (amount, digits counter.toNat)]

def flowAttributes (text : Ns3Text) (flowId : FlowId) (stats : FlowStats) : Attributes :=
  [("flowId", digits flowId.toNat),
    ("timeFirstTxPacket", text.asNs stats.timeFirstTxPacket),
    ("timeFirstRxPacket", text.asNs stats.timeFirstRxPacket),
    ("timeLastTxPacket", text.asNs stats.timeLastTxPacket),
    ("timeLastRxPacket", text.asNs stats.timeLastRxPacket),
    ("txBytes", digits stats.txBytes.toNat),
    ("rxBytes", digits stats.rxBytes.toNat)]

def flowLines (text : Ns3Text) (indent : BitVec 16) (flow : FlowId × FlowStats) : List XmlLine :=
  line indent (.start "Flow" (flowAttributes text flow.1 flow.2)) ::
    ((dropMarkups "packetsDropped" "number" flow.2.packetsDropped).map (line (indent + 2)) ++
      (dropMarkups "bytesDropped" "bytes" flow.2.bytesDropped).map (line (indent + 2)) ++
      [line indent (.stop "Flow")])

namespace MpiFlowMonitor

def shownInOrder (m : MpiFlowMonitor) : List (FlowId × FlowStats) :=
  m.shownFlows.insertionSort fun a b => a.1.toNat ≤ b.1.toNat

def xmlLines (text : Ns3Text) (indent : BitVec 16) (classifiers : List Ipv4MpiFlowClassifier)
    (m : MpiFlowMonitor) : List XmlLine :=
  line indent (.start "FlowMonitor" []) ::
    line (indent + 2) (.start "FlowStats" []) ::
    (m.shownInOrder.flatMap (flowLines text (indent + 4)) ++
      line (indent + 2) (.stop "FlowStats") ::
      (classifiers.flatMap (Ipv4MpiFlowClassifier.serializeToXmlStream text (indent + 2)) ++
        [line indent (.stop "FlowMonitor")]))

def serializeToXmlStream (text : Ns3Text) (indent : BitVec 16)
    (classifiers : List Ipv4MpiFlowClassifier) (m : MpiFlowMonitor) : List Char :=
  (m.xmlLines text indent classifiers).flatMap indented

def serializeToXmlFile (text : Ns3Text) (classifiers : List Ipv4MpiFlowClassifier)
    (m : MpiFlowMonitor) : List Char :=
  "<?xml version=\"1.0\" ?>\n".toList ++ m.serializeToXmlStream text 0 classifiers

end MpiFlowMonitor

section Markups

variable (text : Ns3Text)

def flowContent (flow : FlowId × FlowStats) : List Markup :=
  dropMarkups "packetsDropped" "number" flow.2.packetsDropped ++
    dropMarkups "bytesDropped" "bytes" flow.2.bytesDropped

def flowMarkups (flow : FlowId × FlowStats) : List Markup :=
  .start "Flow" (flowAttributes text flow.1 flow.2) :: (flowContent flow ++ [.stop "Flow"])

def classifierMarkups (c : Ipv4MpiFlowClassifier) : List Markup :=
  (c.serializeToXmlStream text 0).map Prod.snd

def MpiFlowMonitor.markups (classifiers : List Ipv4MpiFlowClassifier) (m : MpiFlowMonitor) :
    List Markup :=
  (.start "FlowStats" [] :: (m.shownInOrder.flatMap (flowMarkups text) ++ [.stop "FlowStats"])) ++
    classifiers.flatMap (classifierMarkups text)

end Markups

section

variable {text : Ns3Text} {indent : BitVec 16} {flow : FlowId × FlowStats}
  {c : Ipv4MpiFlowClassifier} {classifiers : List Ipv4MpiFlowClassifier} {m : MpiFlowMonitor}

lemma isPlain_of_isDigit {c : Char} (h : c.isDigit = true) : isPlain c = true := by
  simp only [Char.isDigit, Bool.and_eq_true, decide_eq_true_eq] at h
  have hne : ∀ d : Char, d.val < 48 ∨ 57 < d.val → c ≠ d := by
    rintro d hd rfl
    rcases hd with hd | hd
    · exact absurd h.1 (UInt32.not_le.mpr hd)
    · exact absurd h.2 (UInt32.not_le.mpr hd)
  simp [isPlain, Xml.isSpace, hne]

lemma digits_plain (n : ℕ) : ∀ c ∈ digits n, isPlain c = true :=
  fun c hc => isPlain_of_isDigit (List.all_eq_true.mp (digits_all n) c hc)

lemma mem_shownInOrder : flow ∈ m.shownInOrder ↔ flow ∈ m.shownFlows := List.mem_insertionSort _

lemma shownInOrder_nodup : (m.shownInOrder.map Prod.fst).Nodup :=
  ((List.perm_insertionSort _ m.shownFlows).map Prod.fst).nodup_iff.mpr
    MpiFlowMonitor.shownFlows_nodup

lemma flowAttributes_wellNamed (flowId : FlowId) (stats : FlowStats) :
    WellNamed "Flow" (flowAttributes text flowId stats) := by
  refine ⟨by decide, by simp [flowAttributes], ?_, ?_⟩
  · simp only [flowAttributes, List.forall_mem_cons]
    exact ⟨by decide, by decide, by decide, by decide, by decide, by decide, by decide, by simp⟩
  · simp only [flowAttributes, List.forall_mem_cons]
    exact ⟨digits_plain _, text.asNs_plain _, text.asNs_plain _, text.asNs_plain _,
      text.asNs_plain _, digits_plain _, digits_plain _, by simp⟩

lemma dropMarkups_wellFormed {n : ℕ} {tag amount : String} (counters : List (BitVec n))
    (htag : isName tag = true) (hamount : isName amount = true) (hne : "reasonCode" ≠ amount) :
    ∀ m ∈ dropMarkups tag amount counters, m.WellFormed := by
  simp only [dropMarkups, List.forall_mem_map]
  rintro ⟨counter, reasonCode⟩ -
  refine ⟨htag, by simp [hne], ?_, ?_⟩
  · simp only [List.forall_mem_cons]
    exact ⟨by decide, hamount, by simp⟩
  · simp only [List.forall_mem_cons]
    exact ⟨digits_plain _, digits_plain _, by simp⟩

lemma dropMarkups_balanced {n : ℕ} {tag amount : String} (counters : List (BitVec n))
    (hne : "reasonCode" ≠ amount) : Scanner.Balanced (dropMarkups tag amount counters) := by
  rw [dropMarkups, List.map_eq_flatMap]
  exact Scanner.balanced_flatMap fun _ _ => Scanner.balanced_empty (by simp [hne])

lemma flowContent_balanced : Scanner.Balanced (flowContent flow) :=
  (dropMarkups_balanced _ (by decide)).append (dropMarkups_balanced _ (by decide))

lemma flowMarkups_balanced : Scanner.Balanced (flowMarkups text flow) :=
  flowContent_balanced.element (flowAttributes_wellNamed _ _).nodup

lemma map_line {ms : List Markup} : (ms.map (line indent)).map Prod.snd = ms := by
  rw [List.map_map]
  exact List.map_id ms

lemma flowLines_markups : (flowLines text indent flow).map Prod.snd = flowMarkups text flow := by
  simp only [flowLines, flowMarkups, flowContent, List.map_cons, List.map_append, map_line, line,
    List.map_nil]

lemma serializeToXmlStream_markups :
    (c.serializeToXmlStream text indent).map Prod.snd = classifierMarkups text c := by
  simp only [classifierMarkups, Ipv4MpiFlowClassifier.serializeToXmlStream, List.map_cons,
    List.map_append, List.map_flatMap, line, List.map_nil]
  rfl

lemma xmlLines_markups : (m.xmlLines text indent classifiers).map Prod.snd =
    .start "FlowMonitor" [] :: (m.markups text classifiers ++ [.stop "FlowMonitor"]) := by
  simp only [MpiFlowMonitor.xmlLines, MpiFlowMonitor.markups, List.map_cons, List.map_append,
    List.map_flatMap, flowLines_markups, serializeToXmlStream_markups, line, List.map_nil,
    List.cons_append, List.append_assoc, List.nil_append]

lemma flowMarkups_wellFormed : ∀ m ∈ flowMarkups text flow, m.WellFormed := by
  simp only [flowMarkups, flowContent, List.forall_mem_cons, List.forall_mem_append]
  exact ⟨flowAttributes_wellNamed _ _,
    ⟨dropMarkups_wellFormed _ (by decide) (by decide) (by decide),
      dropMarkups_wellFormed _ (by decide) (by decide) (by decide)⟩, wellFormed_stop (by decide),
    by simp⟩

lemma classifierFlowLines_wellNamed (entry : FlowEntry) : WellNamed "Flow"
    [("flowId", digits entry.2.toNat),
      ("sourceAddress", text.address entry.1.sourceAddress),
      ("destinationAddress", text.address entry.1.destinationAddress),
      ("protocol", digits entry.1.protocol.toNat),
      ("sourcePort", digits entry.1.sourcePort.toNat),
      ("destinationPort", digits entry.1.destinationPort.toNat)] := by
  refine ⟨by decide, by simp, ?_, ?_⟩
  · simp only [List.forall_mem_cons]
    exact ⟨by decide, by decide, by decide, by decide, by decide, by decide, by simp⟩
  · simp only [List.forall_mem_cons]
    exact ⟨digits_plain _, text.address_plain _, text.address_plain _, digits_plain _,
      digits_plain _, digits_plain _, by simp⟩

lemma classifierMarkups_eq : classifierMarkups text c =
    .start "Ipv4FlowClassifier" [] ::
      (c.flowsInOrder.flatMap (fun entry => (classifierFlowLines text 0 entry).map Prod.snd) ++
        [.stop "Ipv4FlowClassifier"]) := by
  simp only [classifierMarkups, Ipv4MpiFlowClassifier.serializeToXmlStream, List.map_cons,
    List.map_append, List.map_flatMap, line, List.map_nil]
  rfl

lemma classifierMarkups_wellFormed : ∀ m ∈ classifierMarkups text c, m.WellFormed := by
  rw [classifierMarkups_eq]
  simp only [List.forall_mem_cons, List.forall_mem_append, List.mem_flatMap]
  refine ⟨wellNamed_nil (by decide), ?_, wellFormed_stop (by decide), by simp⟩
  rintro m ⟨entry, -, hm⟩
  simp only [classifierFlowLines, line, List.map_cons, List.map_nil, List.mem_cons, List.not_mem_nil,
    or_false] at hm
  rcases hm with rfl | rfl
  · exact classifierFlowLines_wellNamed entry
  · exact wellFormed_stop (by decide)

lemma classifierMarkups_balanced : Scanner.Balanced (classifierMarkups text c) := by
  rw [classifierMarkups_eq]
  refine Scanner.Balanced.element ?_ List.nodup_nil
  exact Scanner.balanced_flatMap fun entry _ =>
    Scanner.balanced_nil.element (classifierFlowLines_wellNamed entry).nodup

lemma markups_balanced : Scanner.Balanced (m.markups text classifiers) := by
  apply Scanner.Balanced.append
  · exact (Scanner.balanced_flatMap fun _ _ => flowMarkups_balanced).element List.nodup_nil
  · exact Scanner.balanced_flatMap fun _ _ => classifierMarkups_balanced

lemma xmlLines_wellFormed : ∀ l ∈ m.xmlLines text indent classifiers, l.2.WellFormed := by
  rw [← List.forall_mem_map, xmlLines_markups, MpiFlowMonitor.markups]
  simp only [List.forall_mem_cons, List.forall_mem_append, List.mem_flatMap]
  refine ⟨wellNamed_nil (by decide), ⟨⟨wellNamed_nil (by decide), ?_, wellFormed_stop (by decide),
    by simp⟩, ?_⟩, wellFormed_stop (by decide), by simp⟩
  · rintro l ⟨flow, -, hl⟩
    exact flowMarkups_wellFormed l hl
  · rintro l ⟨c, -, hl⟩
    exact classifierMarkups_wellFormed l hl

theorem iterparse_serializeToXmlStream :
    iterparse (m.serializeToXmlStream text indent classifiers) =
      some (.start "FlowMonitor" [] ::
        ((m.markups text classifiers).flatMap Markup.events ++ [.stop "FlowMonitor"])) :=
  iterparse_lines xmlLines_markups xmlLines_wellFormed List.nodup_nil markups_balanced

end

def octet (a : Ipv4Address) (i : ℕ) : List Char := digits (a.toNat / 256 ^ i % 256)

lemma formatGeneral_plain (n : ℕ) : ∀ c ∈ formatGeneral n, isPlain c = true := by
  intro c hc
  rw [formatGeneral] at hc
  split_ifs at hc
  · exact digits_plain n c hc
  · simp only [formatExponent, List.mem_append, List.mem_cons] at hc
    rcases hc with hc | hc | rfl | rfl | hc
    · exact digits_plain _ c (List.mem_of_mem_take hc)
    · split_ifs at hc
      · cases hc
      · rcases List.mem_cons.mp hc with rfl | hc
        · decide
        · exact digits_plain _ c (List.mem_of_mem_tail ((List.rdropWhile_prefix _ _).subset hc))
    · decide
    · decide
    · exact isPlain_of_isDigit (List.all_eq_true.mp leftpad_digits_all c hc)

/-- Addresses in octets with points between them, and times below `2 ^ 53` with a sign and six digits. -/
def sixDigitText : Ns3Text where
  asNs t := '+' :: (formatGeneral t ++ ['n', 's'])
  printed t := generalValue t
  address a := octet a 3 ++ '.' :: (octet a 2 ++ '.' :: (octet a 1 ++ '.' :: octet a 0))
  asNs_number t := by
    refine ⟨'+' :: formatGeneral t, rfl, ?_⟩
    have hscan := scanDecimal_formatGeneral t
    rw [scanDecimal, scanSign_formatGeneral] at hscan
    rw [scanDecimal, scanSign, hscan]
  asNs_plain t := by
    simp only [List.forall_mem_cons, List.forall_mem_append]
    exact ⟨by decide, formatGeneral_plain t, by decide, by decide, by simp⟩
  address_plain a := by
    simp only [octet, List.forall_mem_cons, List.forall_mem_append]
    exact ⟨digits_plain _, by decide, digits_plain _, by decide, digits_plain _, by decide,
      digits_plain _⟩

end SwarmSim.FlowMonitor
