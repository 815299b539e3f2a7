import SwarmSim.FlowMonitor.Balance
import SwarmSim.FlowMonitor.Document
import SwarmSim.Machine.Double
import SwarmSim.Machine.Fold

/-! The parser of the results: it counts levels over the events of a document, and records the flows
that start late enough. -/

namespace SwarmSim.FlowMonitor

open Ns3 Machine

inductive PyError
  | valueError
  | assertionError
  | keyError
  | zeroDivisionError
  | parseError
  deriving DecidableEq

/-- `int` of a word that is no more than digits and a sign. -/
def pyInt (w : List Char) : Except PyError ℤ :=
  match intLiteral w with
  | some v => .ok v
  | none => .error .valueError

def pyFloat (w : List Char) : Except PyError ℚ :=
  let r := scanDecimal w
  if r.good ∧ r.rest = [] then .ok (double r.value) else .error .valueError

def getAttribute (attrib : Xml.Attributes) (name : String) : Except PyError (List Char) :=
  match attrib.lookup name with
  | some value => .ok value
  | none => .error .keyError

def nano : ℚ := double (1 / 10 ^ 9)

def tStartMin : ℚ := 3 / 2

def smallFlowThreshold : ℤ := 150 * 1024

structure FlowMonitorXmlParser where
  fctsSmall : Map ℤ (ℤ × ℚ) := ∅
  tpsLarge : Map ℤ (ℤ × ℚ) := ∅
  minStartTx : Option ℚ := none
  maxLastRx : Option ℚ := none

namespace FlowMonitorXmlParser

def parseTimeNs (tm : List Char) : Except PyError ℚ :=
  if ['n', 's'].isSuffixOf tm then pyFloat (tm.take (tm.length - 2)) else .error .valueError

def recordFlow (flowId rxBytes : ℤ) (tStart tFinish : ℚ) (p : FlowMonitorXmlParser) :
    Except PyError FlowMonitorXmlParser :=
  if rxBytes < smallFlowThreshold then
    .ok { p with fctsSmall := p.fctsSmall.insert flowId (rxBytes, double (tFinish - tStart)) }
  else if double (tFinish - tStart) = 0 then .error .zeroDivisionError
  else
    .ok { p with tpsLarge :=
            p.tpsLarge.insert flowId (rxBytes, double (double rxBytes / double (tFinish - tStart))) }

/-- A time that is zero counts as none. -/
def widen (tStart tFinish : ℚ) (p : FlowMonitorXmlParser) : FlowMonitorXmlParser :=
  { p with
    minStartTx :=
      match p.minStartTx with
      | none => some tStart
      | some t => if t = 0 ∨ t > tStart then some tStart else some t
    maxLastRx :=
      match p.maxLastRx with
      | none => some tFinish
      | some t => if t = 0 ∨ t < tFinish then some tFinish else some t }

def startFlow (attrib : Xml.Attributes) (p : FlowMonitorXmlParser) :
    Except PyError FlowMonitorXmlParser := do
  let flowId ← pyInt (← getAttribute attrib "flowId")
  if (p.fctsSmall.lookup flowId).isSome ∨ (p.tpsLarge.lookup flowId).isSome then
    .error .assertionError
  else
    let first ← parseTimeNs (← getAttribute attrib "timeFirstTxPacket")
    let last ← parseTimeNs (← getAttribute attrib "timeLastRxPacket")
    let tStart := double (first * nano)
    let tFinish := double (last * nano)
    if tStart ≥ tStartMin then
      let rxBytes ← pyInt (← getAttribute attrib "rxBytes")
      let p ← p.recordFlow flowId rxBytes tStart tFinish
      .ok (p.widen tStart tFinish)
    else .ok p

end FlowMonitorXmlParser

structure FileProgress where
  level : ℕ := 0
  parsingFlowStats : Bool := false
  parsingFlowClass : Bool := false
  parser : FlowMonitorXmlParser

namespace FileProgress

def start (tag : String) (attrib : Xml.Attributes) (s : FileProgress) :
    Except PyError FileProgress :=
  match s.level with
  | 0 => if tag = "FlowMonitor" then .ok { s with level := 1 } else .error .valueError
  | 1 =>
    if tag = "FlowStats" then .ok { s with level := 2, parsingFlowStats := true }
    else if tag = "Ipv4FlowClassifier" then .ok { s with level := 2, parsingFlowClass := true }
    else .error .valueError
  | 2 =>
    if tag ≠ "Flow" then .error .assertionError
    else if s.parsingFlowStats then do
      let parser ← s.parser.startFlow attrib
      .ok { s with level := 3, parser }
    else if s.parsingFlowClass then .ok { s with level := 3 }
    else .ok s
  | _ => .error .valueError

def stop (tag : String) (s : FileProgress) : Except PyError FileProgress :=
  match s.level with
  | 0 => .error .valueError
  | 1 => if tag = "FlowMonitor" then .ok { s with level := 0 } else .error .assertionError
  | 2 =>
    if tag = "FlowStats" then .ok { s with level := 1, parsingFlowStats := false }
    else if tag = "Ipv4FlowClassifier" then .ok { s with level := 1, parsingFlowClass := false }
    else .error .valueError
  | 3 => if tag = "Flow" then .ok { s with level := 2 } else .error .assertionError
  | _ => .error .valueError

def Skipped (tag : String) : Prop := tag = "Dscp" ∨ tag = "Ipv6FlowClassifier"

instance (tag : String) : Decidable (Skipped tag) :=
  inferInstanceAs (Decidable (tag = "Dscp" ∨ tag = "Ipv6FlowClassifier"))

def step (s : FileProgress) : Xml.Event → Except PyError FileProgress
  | .start tag attrib => if Skipped tag then .ok s else s.start tag attrib
  | .stop tag => if Skipped tag then .ok s else s.stop tag

end FileProgress

def FlowMonitorXmlParser.parseFlowFile (document : List Char) (p : FlowMonitorXmlParser) :
    Except PyError FlowMonitorXmlParser :=
  match Xml.iterparse document with
  | none => .error .parseError
  | some events => (events.foldlM FileProgress.step { parser := p }).map FileProgress.parser

def seconds (ns : ℚ) : ℚ := double (double ns * nano)

lemma nano_eq : nano = 4835703278458517 / 2 ^ 82 := by
  have h := @double_eq (1 / 10 ^ 9) (-82) 4835703278458517 (by norm_num) (by norm_num)
    (by norm_num [abs_lt])
  rw [nano, h]
  norm_num

lemma seconds_tStartMin : seconds (1500000000 : ℕ) = tStartMin := by
  have hns : double ((1500000000 : ℕ) : ℚ) = 1500000000 := double_natCast (by norm_num)
  have h := @double_eq (1500000000 * nano) (-52) 6755399441055744
    (by norm_num [nano_eq]) (by norm_num [nano_eq]) (by norm_num [nano_eq, abs_lt])
  rw [seconds, hns, h, tStartMin]
  norm_num

lemma abs_seconds_sub_le (ns : ℕ) : |seconds ns - ns * nano| ≤ ns * nano / 2 ^ 51 := by
  have hnano : 0 < nano := by norm_num [nano_eq]
  have hns := abs_le.mp (abs_double_sub_le ns)
  rw [abs_of_nonneg (Nat.cast_nonneg ns)] at hns
  have hd : 0 ≤ double ns := by linarith [hns.1, (Nat.cast_nonneg ns : (0 : ℚ) ≤ ns)]
  have hs := abs_le.mp (abs_double_sub_le (double ns * nano))
  rw [abs_of_nonneg (mul_nonneg hd hnano.le)] at hs
  have hlo : ns * nano - ns * nano / 2 ^ 53 ≤ double ns * nano := by
    nlinarith [hns.1]
  have hhi : double ns * nano ≤ ns * nano + ns * nano / 2 ^ 53 := by
    nlinarith [hns.2]
  have hpos : 0 ≤ ns * nano := by positivity
  rw [abs_le, seconds]
  constructor <;> linarith [hs.1, hs.2]

lemma tStartMin_le_seconds {ns : ℕ} : seconds ns ≥ tStartMin ↔ 1500000000 ≤ ns := by
  have h := abs_le.mp (abs_seconds_sub_le ns)
  rw [nano_eq] at h
  rcases lt_trichotomy ns 1500000000 with hlt | rfl | hgt
  · have hle : (ns : ℚ) ≤ 1499999999 := by exact_mod_cast Nat.le_of_lt_succ hlt
    refine iff_of_false ?_ (not_le.mpr hlt)
    rw [tStartMin, not_le]
    linarith [h.2]
  · exact iff_of_true seconds_tStartMin.ge le_rfl
  · have hle : (1500000001 : ℚ) ≤ ns := by exact_mod_cast hgt
    refine iff_of_true ?_ hgt.le
    rw [tStartMin, ge_iff_le]
    linarith [h.1]

lemma seconds_ne {first last : ℕ} (h : first < last) (hlast : last ≤ 2 ^ 52) :
    seconds first ≠ seconds last := by
  have hlt : (first : ℚ) + 1 ≤ last := by exact_mod_cast h
  have hbound : (last : ℚ) ≤ 2 ^ 52 := by exact_mod_cast hlast
  rw [seconds, seconds, double_natCast (by omega), double_natCast (by omega)]
  apply double_ne
  · rw [nano_eq]
    positivity
  · rw [nano_eq]
    linarith
  · rw [nano_eq]
    linarith

namespace FlowStats

section

variable (text : Ns3Text) (stats : FlowStats)

def tStart : ℚ := seconds (text.printed stats.timeFirstTxPacket)

def tFinish : ℚ := seconds (text.printed stats.timeLastRxPacket)

def completionTime : ℚ := double (stats.tFinish text - stats.tStart text)

def throughput : ℚ := double (double stats.rxBytes.toNat / stats.completionTime text)

def fct : ℤ × ℚ := (stats.rxBytes.toNat, stats.completionTime text)

def tp : ℤ × ℚ := (stats.rxBytes.toNat, stats.throughput text)

def Late : Prop := tStartMin ≤ stats.tStart text

def Small : Prop := stats.rxBytes.toNat < 150 * 1024

def Measurable : Prop := stats.Late text → ¬stats.Small → stats.tStart text ≠ stats.tFinish text

instance : Decidable (stats.Late text) := inferInstanceAs (Decidable (tStartMin ≤ stats.tStart text))

instance : Decidable stats.Small := inferInstanceAs (Decidable (stats.rxBytes.toNat < 150 * 1024))

end

variable {text : Ns3Text} {stats : FlowStats}

lemma late_iff (h : text.printed stats.timeFirstTxPacket = stats.timeFirstTxPacket) :
    stats.Late text ↔ 1500000000 ≤ stats.timeFirstTxPacket := by
  rw [Late, tStart, h]
  exact tStartMin_le_seconds

lemma measurable (hfirst : text.printed stats.timeFirstTxPacket = stats.timeFirstTxPacket)
    (hlast : text.printed stats.timeLastRxPacket = stats.timeLastRxPacket)
    (h : stats.timeFirstTxPacket < stats.timeLastRxPacket) (hmax : stats.timeLastRxPacket ≤ 2 ^ 52) :
    stats.Measurable text := by
  intro _ _
  rw [tStart, tFinish, hfirst, hlast]
  exact seconds_ne h hmax

end FlowStats

namespace FlowMonitorXmlParser

variable {text : Ns3Text} {flowId : FlowId} {stats : FlowStats} {flow : FlowId × FlowStats}
  {p q : FlowMonitorXmlParser}

lemma pyInt_digits (n : ℕ) : pyInt (digits n) = .ok (n : ℤ) := by
  rw [pyInt, intLiteral_digits]

lemma parseTimeNs_asNs (text : Ns3Text) (t : ℕ) : parseTimeNs (text.asNs t) =
    .ok (double (text.printed t)) := by
  obtain ⟨number, ht, hn⟩ := text.asNs_number t
  have hsuffix : ['n', 's'].isSuffixOf (number ++ ['n', 's']) = true :=
    List.isSuffixOf_iff_suffix.mpr (List.suffix_append _ _)
  have htake : (number ++ ['n', 's']).take ((number ++ ['n', 's']).length - 2) = number := by simp
  rw [parseTimeNs, ht, if_pos hsuffix, htake, pyFloat, hn]
  rfl

def Unseen (flowId : FlowId) (p : FlowMonitorXmlParser) : Prop :=
  p.fctsSmall.lookup (flowId.toNat : ℤ) = none ∧ p.tpsLarge.lookup (flowId.toNat : ℤ) = none

lemma startFlow_written (h : p.Unseen flowId) :
    p.startFlow (flowAttributes text flowId stats) =
      if stats.Late text then
        (p.recordFlow flowId.toNat stats.rxBytes.toNat (stats.tStart text) (stats.tFinish text)).map
          (widen (stats.tStart text) (stats.tFinish text))
      else .ok p := by
  have hid : getAttribute (flowAttributes text flowId stats) "flowId" =
      .ok (digits flowId.toNat) := rfl
  have hfirst : getAttribute (flowAttributes text flowId stats) "timeFirstTxPacket" =
      .ok (text.asNs stats.timeFirstTxPacket) := rfl
  have hlast : getAttribute (flowAttributes text flowId stats) "timeLastRxPacket" =
      .ok (text.asNs stats.timeLastRxPacket) := rfl
  have hrx : getAttribute (flowAttributes text flowId stats) "rxBytes" =
      .ok (digits stats.rxBytes.toNat) := rfl
  have hunseen : ¬((p.fctsSmall.lookup (flowId.toNat : ℤ)).isSome = true ∨
      (p.tpsLarge.lookup (flowId.toNat : ℤ)).isSome = true) := by
    simp [h.1, h.2]
  have hstart : double (double (text.printed stats.timeFirstTxPacket) * nano) = stats.tStart text := rfl
  have hfinish : double (double (text.printed stats.timeLastRxPacket) * nano) = stats.tFinish text := rfl
  have hlate : stats.tStart text ≥ tStartMin ↔ stats.Late text := Iff.rfl
  have hok : ∀ {α β : Type} (a : α) (f : α → Except PyError β), (Except.ok a >>= f) = f a := ok_bind
  rw [startFlow, hid, hfirst, hlast, hrx]
  simp only [hok, pyInt_digits, parseTimeNs_asNs, if_neg hunseen, hstart, hfinish, hlate]
  split_ifs
  · cases recordFlow flowId.toNat stats.rxBytes.toNat (stats.tStart text) (stats.tFinish text) p <;> rfl
  · rfl

end FlowMonitorXmlParser

def readFlow (text : Ns3Text) (p : FlowMonitorXmlParser) (flow : FlowId × FlowStats) :
    Except PyError FlowMonitorXmlParser := do
  let p ← p.startFlow (flowAttributes text flow.1 flow.2)
  if flowContent flow = [] then .ok p else .error .valueError

namespace FileProgress

variable {text : Ns3Text} {p q : FlowMonitorXmlParser} {flow : FlowId × FlowStats}
  {c : Ipv4MpiFlowClassifier} {m : MpiFlowMonitor}

def amongFlows (p : FlowMonitorXmlParser) : FileProgress := ⟨2, true, false, p⟩

def withinFlow (p : FlowMonitorXmlParser) : FileProgress := ⟨3, true, false, p⟩

lemma dropMarkups_eq_nil {n : ℕ} {tag amount : String} {counters : List (BitVec n)} :
    dropMarkups tag amount counters = [] ↔ counters = [] := by
  rw [dropMarkups, List.map_eq_nil_iff, List.zipIdx_eq_nil_iff]

lemma flowContent_eq_nil :
    flowContent flow = [] ↔ flow.2.packetsDropped = [] ∧ flow.2.bytesDropped = [] := by
  rw [flowContent, List.append_eq_nil_iff, dropMarkups_eq_nil, dropMarkups_eq_nil]

lemma mem_flowContent {e : Xml.Markup} (h : e ∈ flowContent flow) :
    ∃ tag attrib, e = .empty tag attrib ∧ ¬Skipped tag := by
  rcases List.mem_append.mp h with h | h
  · obtain ⟨a, -, rfl⟩ := List.mem_map.mp h
    exact ⟨_, _, rfl, by decide⟩
  · obtain ⟨a, -, rfl⟩ := List.mem_map.mp h
    exact ⟨_, _, rfl, by decide⟩

lemma run_withinFlow (rest : List Xml.Event) :
    ((flowContent flow).flatMap Xml.Markup.events ++ .stop "Flow" :: rest).foldlM step (withinFlow p) =
      if flowContent flow = [] then rest.foldlM step (amongFlows p) else .error .valueError := by
  cases hc : flowContent flow with
  | nil => rfl
  | cons e es =>
    obtain ⟨tag, attrib, rfl, htag⟩ := mem_flowContent (hc ▸ List.mem_cons_self : e ∈ flowContent flow)
    have hstep : step (withinFlow p) (.start tag attrib) = .error .valueError := if_neg htag
    rw [if_neg (List.cons_ne_nil _ es), List.flatMap_cons, Xml.Markup.events, List.cons_append,
      List.cons_append, List.foldlM_cons, hstep]
    rfl

lemma run_flow (rest : List Xml.Event) :
    ((flowMarkups text flow).flatMap Xml.Markup.events ++ rest).foldlM step (amongFlows p) =
      (readFlow text p flow).bind fun p => rest.foldlM step (amongFlows p) := by
  have hstart : step (amongFlows p) (.start "Flow" (flowAttributes text flow.1 flow.2)) =
      (p.startFlow (flowAttributes text flow.1 flow.2)).map withinFlow := by
    change ((p.startFlow _).bind fun parser => .ok _) = _
    cases p.startFlow (flowAttributes text flow.1 flow.2) <;> rfl
  have hevents : (flowMarkups text flow).flatMap Xml.Markup.events ++ rest =
      .start "Flow" (flowAttributes text flow.1 flow.2) ::
        ((flowContent flow).flatMap Xml.Markup.events ++ .stop "Flow" :: rest) := by
    simp only [flowMarkups, List.flatMap_cons, List.flatMap_append, Xml.Markup.events,
      List.flatMap_nil, List.cons_append, List.nil_append, List.append_assoc]
  rw [hevents, List.foldlM_cons, hstart, readFlow]
  cases p.startFlow (flowAttributes text flow.1 flow.2) with
  | error e => rfl
  | ok q =>
    change List.foldlM step (withinFlow q) _ = Except.bind (if _ then _ else _) _
    rw [run_withinFlow]
    split_ifs <;> rfl

lemma run_flows (flows : List (FlowId × FlowStats)) (rest : List Xml.Event) :
    ((flows.flatMap (flowMarkups text)).flatMap Xml.Markup.events ++ rest).foldlM step (amongFlows p) =
      (flows.foldlM (readFlow text) p).bind fun p => rest.foldlM step (amongFlows p) := by
  induction flows generalizing p with
  | nil => rfl
  | cons flow flows ih =>
    rw [List.flatMap_cons, List.flatMap_append, List.append_assoc, run_flow, List.foldlM_cons]
    cases readFlow text p flow with
    | error e => rfl
    | ok q => exact ih

lemma run_classifier (rest : List Xml.Event) :
    ((classifierMarkups text c).flatMap Xml.Markup.events ++ rest).foldlM step ⟨1, false, false, p⟩ =
      rest.foldlM step ⟨1, false, false, p⟩ := by
  have hflows : ∀ (entries : List FlowEntry) (rest : List Xml.Event),
      ((entries.flatMap fun entry => (classifierFlowLines text 0 entry).map Prod.snd).flatMap
          Xml.Markup.events ++ rest).foldlM step ⟨2, false, true, p⟩ =
        rest.foldlM step ⟨2, false, true, p⟩ := by
    intro entries rest
    induction entries with
    | nil => rfl
    | cons entry entries ih => exact ih
  rw [classifierMarkups_eq, List.flatMap_cons, List.flatMap_append, List.append_assoc,
    List.append_assoc]
  exact hflows c.flowsInOrder _

lemma run_classifiers (classifiers : List Ipv4MpiFlowClassifier) (rest : List Xml.Event) :
    ((classifiers.flatMap (classifierMarkups text)).flatMap Xml.Markup.events ++ rest).foldlM step
        ⟨1, false, false, p⟩ = rest.foldlM step ⟨1, false, false, p⟩ := by
  induction classifiers with
  | nil => rfl
  | cons c classifiers ih =>
    rw [List.flatMap_cons, List.flatMap_append, List.append_assoc, run_classifier, ih]

end FileProgress

theorem FlowMonitorXmlParser.parseFlowFile_written (text : Ns3Text) (indent : BitVec 16)
    (classifiers : List Ipv4MpiFlowClassifier) (m : MpiFlowMonitor) (p : FlowMonitorXmlParser) :
    p.parseFlowFile (m.serializeToXmlStream text indent classifiers) =
      m.shownInOrder.foldlM (readFlow text) p := by
  have hevents : Xml.Event.start "FlowMonitor" [] ::
      ((m.markups text classifiers).flatMap Xml.Markup.events ++ [.stop "FlowMonitor"]) =
        .start "FlowMonitor" [] :: .start "FlowStats" [] ::
          ((m.shownInOrder.flatMap (flowMarkups text)).flatMap Xml.Markup.events ++
            .stop "FlowStats" ::
              ((classifiers.flatMap (classifierMarkups text)).flatMap Xml.Markup.events ++
                [.stop "FlowMonitor"])) := by
    simp only [MpiFlowMonitor.markups, List.flatMap_cons, List.flatMap_append, Xml.Markup.events,
      List.cons_append, List.nil_append, List.append_assoc]
  rw [parseFlowFile, iterparse_serializeToXmlStream]
  dsimp only
  rw [hevents]
  change Except.map FileProgress.parser
    (List.foldlM FileProgress.step (FileProgress.amongFlows p) _) = _
  rw [FileProgress.run_flows]
  cases m.shownInOrder.foldlM (readFlow text) p with
  | error e => rfl
  | ok q =>
    change Except.map FileProgress.parser (List.foldlM FileProgress.step ⟨1, false, false, q⟩ _) = _
    rw [FileProgress.run_classifiers]
    rfl

def RecordedIn (flows : List (FlowId × FlowStats)) (keep : FlowStats → Prop)
    (value : FlowStats → ℤ × ℚ) (map : Map ℤ (ℤ × ℚ)) : Prop :=
  ∀ k v, map.lookup k = some v ↔
    ∃ flow ∈ flows, k = (flow.1.toNat : ℤ) ∧ keep flow.2 ∧ v = value flow.2

structure Recorded (text : Ns3Text) (flows : List (FlowId × FlowStats)) (p : FlowMonitorXmlParser) :
    Prop where
  fctsSmall : RecordedIn flows (fun stats => stats.Late text ∧ stats.Small) (FlowStats.fct text)
    p.fctsSmall
  tpsLarge : RecordedIn flows (fun stats => stats.Late text ∧ ¬stats.Small) (FlowStats.tp text)
    p.tpsLarge

section

variable {text : Ns3Text} {flows flows' : List (FlowId × FlowStats)} {flow : FlowId × FlowStats}
  {p q : FlowMonitorXmlParser} {keep : FlowStats → Prop} {value : FlowStats → ℤ × ℚ}
  {map : Map ℤ (ℤ × ℚ)}

lemma RecordedIn.lookup_new (h : RecordedIn flows keep value map) (hn : flow.1 ∉ flows.map Prod.fst) :
    map.lookup (flow.1.toNat : ℤ) = none := by
  rw [Option.eq_none_iff_forall_ne_some]
  intro v hv
  obtain ⟨other, hmem, hid, -⟩ := (h _ v).mp hv
  have he : other.1 = flow.1 := BitVec.eq_of_toNat_eq (by exact_mod_cast hid.symm)
  exact hn (he ▸ List.mem_map_of_mem hmem)

lemma RecordedIn.concat [DecidablePred keep] (h : RecordedIn flows keep value map)
    (hn : flow.1 ∉ flows.map Prod.fst) : RecordedIn (flows ++ [flow]) keep value
      (if keep flow.2 then map.insert (flow.1.toNat : ℤ) (value flow.2) else map) := by
  intro k v
  simp only [List.mem_append, List.mem_singleton, or_and_right, exists_or, exists_eq_left]
  split_ifs with hkeep
  · by_cases hk : k = (flow.1.toNat : ℤ)
    · subst hk
      rw [AList.lookup_insert, ← h, h.lookup_new hn]
      simp [hkeep, eq_comm]
    · rw [AList.lookup_insert_ne hk, ← h]
      simp [hk]
  · rw [← h]
    simp [hkeep]

lemma RecordedIn.congr (h : RecordedIn flows keep value map) (hmem : ∀ flow, flow ∈ flows' ↔ flow ∈ flows) :
    RecordedIn flows' keep value map := by
  intro k v
  simp only [hmem, h k v]

lemma completionTime_eq_zero {stats : FlowStats} : stats.completionTime text = 0 ↔
    stats.tStart text = stats.tFinish text := by
  rw [FlowStats.completionTime, double_eq_zero, sub_eq_zero, eq_comm]

lemma recordFlow_written {stats : FlowStats} {id : ℤ} :
    p.recordFlow id stats.rxBytes.toNat (stats.tStart text) (stats.tFinish text) =
      if stats.Small then .ok { p with fctsSmall := p.fctsSmall.insert id (stats.fct text) }
      else if stats.completionTime text = 0 then .error .zeroDivisionError
      else .ok { p with tpsLarge := p.tpsLarge.insert id (stats.tp text) } := by
  have hsmall : (stats.rxBytes.toNat : ℤ) < smallFlowThreshold ↔ stats.Small := by
    rw [FlowStats.Small, smallFlowThreshold]
    norm_cast
  simp only [FlowMonitorXmlParser.recordFlow, hsmall]
  rfl

lemma readFlow_ok (h : p.Unseen flow.1) (hcontent : flowContent flow = [])
    (hm : flow.2.Measurable text) : ∃ q, readFlow text p flow = .ok q ∧
      q.fctsSmall = (if flow.2.Late text ∧ flow.2.Small then
        p.fctsSmall.insert (flow.1.toNat : ℤ) (flow.2.fct text) else p.fctsSmall) ∧
      q.tpsLarge = (if flow.2.Late text ∧ ¬flow.2.Small then
        p.tpsLarge.insert (flow.1.toNat : ℤ) (flow.2.tp text) else p.tpsLarge) := by
  rw [readFlow, FlowMonitorXmlParser.startFlow_written h, recordFlow_written]
  simp only [hcontent]
  by_cases hlate : flow.2.Late text
  · by_cases hsmall : flow.2.Small
    · simp only [hlate, hsmall]
      exact ⟨_, rfl, rfl, rfl⟩
    · have hne : flow.2.completionTime text ≠ 0 := mt completionTime_eq_zero.mp (hm hlate hsmall)
      simp only [hlate, hsmall, hne]
      exact ⟨_, rfl, rfl, rfl⟩
  · simp only [hlate]
    exact ⟨p, rfl, by simp, by simp⟩

lemma readFlow_drops (hstart : p.startFlow (flowAttributes text flow.1 flow.2) = .ok q)
    (h : flowContent flow ≠ []) : readFlow text p flow = .error .valueError := by
  rw [readFlow, hstart]
  exact if_neg h

lemma unseen_of_startFlow {flowId : FlowId} {stats : FlowStats}
    (h : p.startFlow (flowAttributes text flowId stats) = .ok q) : p.Unseen flowId := by
  have hid : getAttribute (flowAttributes text flowId stats) "flowId" =
      .ok (digits flowId.toNat) := rfl
  rw [FlowMonitorXmlParser.startFlow, hid] at h
  obtain ⟨w, hw, h⟩ := bind_ok h
  obtain rfl := Except.ok.inj hw
  obtain ⟨id, hint, h⟩ := bind_ok h
  obtain rfl := Except.ok.inj ((FlowMonitorXmlParser.pyInt_digits _).symm.trans hint)
  split_ifs at h with hseen
  simpa [FlowMonitorXmlParser.Unseen] using hseen

lemma of_readFlow_ok (h : readFlow text p flow = .ok q) :
    flowContent flow = [] ∧ flow.2.Measurable text := by
  obtain ⟨r, hstart, h⟩ := bind_ok h
  split_ifs at h with hcontent
  refine ⟨hcontent, fun hlate hsmall he => ?_⟩
  rw [FlowMonitorXmlParser.startFlow_written (unseen_of_startFlow hstart), if_pos hlate,
    recordFlow_written, if_neg hsmall, if_pos (completionTime_eq_zero.mpr he)] at hstart
  cases hstart

lemma Recorded.concat (h : Recorded text flows p) (hn : flow.1 ∉ flows.map Prod.fst)
    (hcontent : flowContent flow = []) (hm : flow.2.Measurable text) :
    ∃ q, readFlow text p flow = .ok q ∧ Recorded text (flows ++ [flow]) q := by
  obtain ⟨q, hq, hsmall, hlarge⟩ := @readFlow_ok text flow p
    ⟨h.fctsSmall.lookup_new hn, h.tpsLarge.lookup_new hn⟩ hcontent hm
  exact ⟨q, hq, hsmall ▸ h.fctsSmall.concat hn, hlarge ▸ h.tpsLarge.concat hn⟩

lemma recordedIn_nil : RecordedIn [] keep value ∅ := by
  intro k v
  simp only [AList.lookup_empty, List.not_mem_nil, false_and, exists_false, reduceCtorEq]

end

/-- The parser reads the document and records what it should exactly if no flow that is written has
entries for drops, and the throughput of every one that is asked for it can be told. Of times that
are printed exactly, those from a second and a half on are late enough, and two can be told apart. -/
theorem parseFlowFile_iff (text : Ns3Text) (indent : BitVec 16)
    (classifiers : List Ipv4MpiFlowClassifier) (m : MpiFlowMonitor) :
    ((∃ p, FlowMonitorXmlParser.parseFlowFile (m.serializeToXmlStream text indent classifiers) {} =
        .ok p ∧ Recorded text m.shownFlows p) ↔
      ∀ flow ∈ m.shownFlows, (flow.2.packetsDropped = [] ∧ flow.2.bytesDropped = []) ∧
        flow.2.Measurable text) ∧
    ∀ flow ∈ m.shownFlows, text.printed flow.2.timeFirstTxPacket = flow.2.timeFirstTxPacket →
      (flow.2.Late text ↔ 1500000000 ≤ flow.2.timeFirstTxPacket) ∧
      (text.printed flow.2.timeLastRxPacket = flow.2.timeLastRxPacket →
        flow.2.timeFirstTxPacket < flow.2.timeLastRxPacket → flow.2.timeLastRxPacket ≤ 2 ^ 52 →
        flow.2.Measurable text) := by
  refine ⟨?_, fun flow _ hfirst => ⟨FlowStats.late_iff hfirst, fun hlast h hmax =>
    FlowStats.measurable hfirst hlast h hmax⟩⟩
  rw [FlowMonitorXmlParser.parseFlowFile_written]
  constructor
  · rintro ⟨p, hparse, -⟩ flow hflow
    obtain ⟨u, v, hread⟩ := foldlM_ok_mem hparse (mem_shownInOrder.mpr hflow)
    obtain ⟨hcontent, hm⟩ := of_readFlow_ok hread
    exact ⟨FileProgress.flowContent_eq_nil.mp hcontent, hm⟩
  · intro h
    have hstep : ∀ pre flow post p, m.shownInOrder = pre ++ flow :: post → Recorded text pre p →
        ∃ q, readFlow text p flow = .ok q ∧ Recorded text (pre ++ [flow]) q := by
      intro pre flow post p hpre hrecorded
      have hnodup := @shownInOrder_nodup m
      rw [hpre, List.map_append, List.map_cons] at hnodup
      have hn : flow.1 ∉ pre.map Prod.fst := fun hmem =>
        (List.nodup_append.mp hnodup).2.2 _ hmem _ List.mem_cons_self rfl
      obtain ⟨hdrops, hm⟩ := h flow (mem_shownInOrder.mp
        (hpre ▸ List.mem_append_right _ List.mem_cons_self))
      exact hrecorded.concat hn (FileProgress.flowContent_eq_nil.mpr hdrops) hm
    have hempty : Recorded text [] {} := ⟨recordedIn_nil, recordedIn_nil⟩
    obtain ⟨p, hp, hrecorded⟩ := foldlM_invariant hempty hstep
    exact ⟨p, hp, hrecorded.fctsSmall.congr fun _ => mem_shownInOrder.symm,
      hrecorded.tpsLarge.congr fun _ => mem_shownInOrder.symm⟩

def oneDropped : List (MonitorCall 1) :=
  [.startRightNow, .reportFirstTx 1600000000 (Fin.last 0) 1 0 100,
    .reportLastRx 1700000000 (Fin.last 0) 1 0 100 1600000000,
    .reportFirstTx 1800000000 (Fin.last 0) 1 1 100, .reportDrop (Fin.last 0) 1 1 100 3]

def oneDroppedStats : FlowStats where
  timeFirstTxPacket := 1600000000
  timeLastTxPacket := 1800000000
  timeLastRxPacket := 1700000000
  txBytes := 200
  rxBytes := 100
  packetsDropped := [0, 0, 0, 1]
  bytesDropped := [0, 0, 0, 100]

theorem parseFlowFile_drops : ∃ s, Accounts.run oneDropped = .ok s ∧
    (∀ flow ∈ s.monitor.shownFlows,
      flow.2.timeFirstTxPacket < flow.2.timeLastRxPacket) ∧
    FlowMonitorXmlParser.parseFlowFile (s.monitor.serializeToXmlStream sixDigitText 0 []) {} =
      .error .valueError := by
  have hrun : ∃ s, Accounts.run oneDropped = .ok s ∧ s.monitor.shownFlows = [(1, oneDroppedStats)] :=
    ⟨_, rfl, by decide⟩
  obtain ⟨s, hs, hshown⟩ := hrun
  refine ⟨s, hs, ?_, ?_⟩
  · rw [hshown]
    decide
  have horder : s.monitor.shownInOrder = [(1, oneDroppedStats)] := by
    rw [MpiFlowMonitor.shownInOrder, hshown]
    rfl
  have hunseen : FlowMonitorXmlParser.Unseen (1 : FlowId) {} := ⟨rfl, rfl⟩
  have hlate : oneDroppedStats.Late sixDigitText := (FlowStats.late_iff (by decide +kernel)).mpr (by decide)
  have hsmall : oneDroppedStats.Small := by decide
  have hcontent : flowContent (1, oneDroppedStats) ≠ [] :=
    mt FileProgress.flowContent_eq_nil.mp (by decide)
  have hstart : ∃ q, FlowMonitorXmlParser.startFlow (flowAttributes sixDigitText 1 oneDroppedStats) {} =
      .ok q := by
    rw [FlowMonitorXmlParser.startFlow_written hunseen, if_pos hlate, recordFlow_written,
      if_pos hsmall]
    exact ⟨_, rfl⟩
  obtain ⟨q, hstart⟩ := hstart
  rw [FlowMonitorXmlParser.parseFlowFile_written, horder, List.foldlM_cons,
    readFlow_drops hstart hcontent]
  rfl

end SwarmSim.FlowMonitor
