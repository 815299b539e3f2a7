import SwarmSim.Clos.Indices
import SwarmSim.Clos.Script
import SwarmSim.Flows.Migration
import SwarmSim.Scenario.Parser

/-! A scenario file carried out: the callbacks on the topology, on the devices of the links and on
the flow scheduler, one after the other as the file is read. -/

namespace SwarmSim.Scenario

open Machine Ns3 Clos TopologyDescriptor Flows

/-- What one pass of the parser's loop finds in the variables that it declares. -/
structure Unwritten where
  index1 : BitVec 32
  index2 : BitVec 32
  switchIndex : BitVec 32
  ifIndex : BitVec 32
  level : BitVec 16
  weight : BitVec 16
  migrationSrc : BitVec 32
  migrationDst : BitVec 32
  percent : BitVec 32

/-- The topology with the ranks of its nodes, the texts that ns-3 takes for a data rate and for a
time, and what each pass of the parser's loop finds in its variables. -/
structure Environment where
  topology : TopologyDescriptor
  systemId : Node → ℕ
  isDataRate : Word → Bool
  isTime : Word → Bool
  unwritten : ℕ → Unwritten

structure LinkEnds where
  level1 : TopologyLevel
  index1 : ℕ
  level2 : TopologyLevel
  index2 : ℕ

inductive Invocation
  | linkDown (args : LinkEnds) (mitigate : Bool)
  | linkUp (args : LinkEnds) (mitigate : Bool)
  | setBw (args : LinkEnds) (rate : Word)
  | setDelay (args : LinkEnds) (delay : Word)
  | linkLoss (args : LinkEnds) (rate : Word)
  | setWcmp (topoLevel : TopologyLevel) (switchIndex ifIndex level weight : ℕ)
  | migrate (src dst : ℕ) (percent : ℤ)

def LinkArgs.ends (u : Unwritten) (args : LinkArgs) : LinkEnds :=
  ⟨args.level1, args.index1.getD u.index1.toNat, args.level2, args.index2.getD u.index2.toNat⟩

def Callback.invocation (u : Unwritten) : Callback → Invocation
  | .linkDown args mitigate => .linkDown (args.ends u) mitigate
  | .linkUp args mitigate => .linkUp (args.ends u) mitigate
  | .setBw args rate => .setBw (args.ends u) rate
  | .setDelay args delay => .setDelay (args.ends u) delay
  | .linkLoss args rate => .linkLoss (args.ends u) rate
  | .setWcmp topoLevel switchIndex ifIndex level weight => .setWcmp topoLevel
      (switchIndex.getD u.switchIndex.toNat) (ifIndex.getD u.ifIndex.toNat)
      (level.getD u.level.toNat) (weight.getD u.weight.toNat)
  | .migrate src dst percent => .migrate (src.getD u.migrationSrc.toNat) (dst.getD u.migrationDst.toNat)
      (percent.getD u.percent.toInt)

def Environment.invocations (env : Environment) (calls : List Callback) : List Invocation :=
  calls.zipIdx.map fun c => c.1.invocation (env.unwritten c.2)

/-- The attributes are `none` as they were created. The delay is one of the channel that a device is
on, and an error model is told by the text of its rate. -/
structure Session (S : Ipv4StaticRouting) where
  nodes : Nodes S
  dataRate : NetDevice → Option Word
  delay : NetDevice → Option Word
  receiveErrorModel : NetDevice → Option Word
  flowScheduler : Option FlowScheduler

namespace Session

variable (env : Environment) {S : Ipv4StaticRouting}

def start (p : TopologyDescriptor) (S : Ipv4StaticRouting) (flowScheduler : Option FlowScheduler) :
    Session S :=
  ⟨p.setupClosTopology S, fun _ => none, fun _ => none, fun _ => none, flowScheduler⟩

def getNetDevice (v : Node) (i : ℕ) (s : Session S) : Except Fault NetDevice :=
  match (s.nodes v).interfaces[i]? with
  | some (some d) => .ok d
  | _ => .error .nullPointer

def setDataRate (rate : Word) (d : NetDevice) (s : Session S) : Except Fault (Session S) :=
  if env.isDataRate rate then
    .ok { s with dataRate := Function.update s.dataRate d (some rate) }
  else .error (.abort "Attribute name=DataRate could not be set for this object")

def setDelay (delay : Word) (d : NetDevice) (s : Session S) : Except Fault (Session S) :=
  if env.isTime delay then
    .ok { s with delay := Function.update (Function.update s.delay d (some delay)) d.peer (some delay) }
  else .error (.abort "Attribute name=Delay could not be set for this object")

def setReceiveErrorModel (rate : Word) (d : NetDevice) (s : Session S) : Except Fault (Session S) :=
  .ok { s with receiveErrorModel := Function.update s.receiveErrorModel d (some rate) }

/-- What `doChangeBandwidth`, `doChangeDelay` and `doSetLinkLoss` share. -/
def onBothEnds (args : LinkEnds) (set : NetDevice → Session S → Except Fault (Session S))
    (s : Session S) : Except Fault (Session S) :=
  (env.topology.localLink env.systemId args.level1 args.index1 args.level2 args.index2).bind fun props =>
  (s.getNetDevice props.src props.srcIf).bind fun src =>
  (set src s).bind fun s =>
  (s.getNetDevice props.dst props.dstIf).bind fun dst => set dst s

def doChangeBandwidth (args : LinkEnds) (rate : Word) : Session S → Except Fault (Session S) :=
  onBothEnds env args (setDataRate env rate)

def doChangeDelay (args : LinkEnds) (delay : Word) : Session S → Except Fault (Session S) :=
  onBothEnds env args (setDelay env delay)

def doSetLinkLoss (args : LinkEnds) (rate : Word) : Session S → Except Fault (Session S) :=
  onBothEnds env args (setReceiveErrorModel rate)

def onTopology (f : Nodes S → Except Fault (Nodes S)) (s : Session S) : Except Fault (Session S) :=
  (f s.nodes).map fun nodes => { s with nodes }

/-- The functions that `bindScenarioFunctions` binds. -/
def call : Invocation → Session S → Except Fault (Session S)
  | .linkDown args mitigate, s => s.onTopology
      (env.topology.doDisableLink env.systemId args.level1 args.index1 args.level2 args.index2 mitigate)
  | .linkUp args mitigate, s => s.onTopology
      (env.topology.doEnableLink env.systemId args.level1 args.index1 args.level2 args.index2 mitigate)
  | .setBw args rate, s => s.doChangeBandwidth env args rate
  | .setDelay args delay, s => s.doChangeDelay env args delay
  | .linkLoss args rate, s => s.doSetLinkLoss env args rate
  | .setWcmp level idx i wcmpLevel weight, s =>
    s.onTopology (env.topology.doUpdateWcmp level idx i wcmpLevel weight)
  | .migrate src dst percent, s =>
    match s.flowScheduler with
    | none =>
      -- The bounds of the percentage are asserted before the flow scheduler is used.
      if ¬(percent ≤ 100 ∧ percent ≥ -100) then .error .assertion else .error .nullPointer
    | some fs =>
      (fs.migrateTraffic src dst percent).map fun fs => { s with flowScheduler := some fs }

def runScenario (text : List Char) (s : Session S) : Except Fault (Session S) :=
  let (result, calls) := parseSecnarioScript text
  ((env.invocations calls).foldlM (fun s c => call env c s) s).bind fun s =>
    if result ≠ 0 then .error (.abort "Scenario file could not be parsed, aborting") else .ok s

end Session

namespace Invocation

def linkCommand (up : Bool) (args : LinkEnds) : Command :=
  if up then .linkUp args.level1 args.index1 args.level2 args.index2
  else .linkDown args.level1 args.index1 args.level2 args.index2

def toCommand : Invocation → Command
  | .linkDown args _ => linkCommand false args
  | .linkUp args _ => linkCommand true args
  | .setBw args _ | .setDelay args _ | .linkLoss args _ =>
    .setAttribute args.level1 args.index1 args.level2 args.index2
  | .setWcmp level idx i wcmpLevel weight => .setWcmp level idx i wcmpLevel weight
  | .migrate src dst percent => .migrate src dst percent

variable (env : Environment)

def namedLink (args : LinkEnds) : Option Link :=
  (env.topology.commanded (linkCommand true args)).map Prod.fst

def linkStatus (c : Invocation) : Option (Link × Bool) := env.topology.commanded c.toCommand

def bandwidth : Invocation → Option (Link × Word)
  | .setBw args rate => (namedLink env args).map fun l => (l, rate)
  | _ => none

def channelDelay : Invocation → Option (Link × Word)
  | .setDelay args delay => (namedLink env args).map fun l => (l, delay)
  | _ => none

def lossRate : Invocation → Option (Link × Word)
  | .linkLoss args rate => (namedLink env args).map fun l => (l, rate)
  | _ => none

def migration : Invocation → Option Migration
  | .migrate src dst percent => some ⟨src, dst, percent⟩
  | _ => none

end Invocation

def migrateAll : Option FlowScheduler → List Migration → Except Fault (Option FlowScheduler)
  | none, [] => .ok none
  | none, _ => .error .nullPointer
  | some fs, ms => (migrate ms fs).map some

def AtLink (p : TopologyDescriptor) (l : Link) (d : NetDevice) : Prop :=
  d = ⟨(p.srcEnd l).1, (p.dstEnd l).1⟩ ∨ d = ⟨(p.dstEnd l).1, (p.srcEnd l).1⟩

structure Writes (p : TopologyDescriptor) (l : Link) (w : Word) (f g : NetDevice → Option Word) :
    Prop where
  here (d : NetDevice) : AtLink p l d → g d = some w
  elsewhere (d : NetDevice) : ¬AtLink p l d → g d = f d

def Named (env : Environment) (args : LinkEnds) (l : Link) : Prop :=
  env.topology.Names env.systemId (l, true) ∧
    ∀ b, env.topology.command l b = Invocation.linkCommand b args

def CarriedOut (env : Environment) : Invocation → Prop
  | .linkDown args _ | .linkUp args _ | .linkLoss args _ => ∃ l, Named env args l
  | .setBw args rate => (∃ l, Named env args l) ∧ env.isDataRate rate = true
  | .setDelay args delay => (∃ l, Named env args l) ∧ env.isTime delay = true
  | .setWcmp level idx _ _ _ =>
    let v := env.topology.switchAt level idx
    env.topology.HasNode v ∧ v.runsWcmp = true
  | .migrate _ _ _ => True

structure Settled (env : Environment) {S : Ipv4StaticRouting} (fs : Option FlowScheduler)
    (cs : List Invocation) (s : Session S) : Prop where
  nodes : env.topology.run env.systemId (cs.map Invocation.toCommand)
    (env.topology.setupClosTopology S) = .ok s.nodes
  tracks (v : Node) : env.topology.HasNode v → env.topology.Tracks
    ((cs.map Invocation.toCommand).foldl env.topology.obey fun _ => true) v (s.nodes v)
  core (c : ℕ) : c < env.topology.numCores → (s.nodes (.core c)).wcmp = none
  dataRate (l : Link) (d : NetDevice) : env.topology.HasLink l → AtLink env.topology l d →
    s.dataRate d = lastOf (cs.filterMap (Invocation.bandwidth env)) l
  delay (l : Link) (d : NetDevice) : env.topology.HasLink l → AtLink env.topology l d →
    s.delay d = lastOf (cs.filterMap (Invocation.channelDelay env)) l
  receiveErrorModel (l : Link) (d : NetDevice) : env.topology.HasLink l → AtLink env.topology l d →
    s.receiveErrorModel d = lastOf (cs.filterMap (Invocation.lossRate env)) l
  flowScheduler : migrateAll fs (cs.filterMap Invocation.migration) = .ok s.flowScheduler

section Devices

variable {p : TopologyDescriptor} {l l' : Link} {d : NetDevice} {f g : NetDevice → Option Word} {w : Word}

lemma atLink_inj (hl : p.HasLink l) (hl' : p.HasLink l') (h : AtLink p l d) (h' : AtLink p l' d) :
    l = l' := by
  cases l with
  | edgeAgg pod e a =>
    cases l' with
    | edgeAgg pod' e' a' =>
      simp only [AtLink, srcEnd, dstEnd] at h h'
      rcases h with rfl | rfl <;> simp_all
    | aggCore pod' a' k' =>
      simp only [AtLink, srcEnd, dstEnd] at h h'
      rcases h with rfl | rfl <;> simp at h'
  | aggCore pod a k =>
    cases l' with
    | edgeAgg pod' e' a' =>
      simp only [AtLink, srcEnd, dstEnd] at h h'
      rcases h with rfl | rfl <;> simp at h'
    | aggCore pod' a' k' =>
      have hinj := mul_add_inj (x := k) (y := k') hl.2.1 hl'.2.1
      simp only [AtLink, srcEnd, dstEnd] at h h'
      rcases h with rfl | rfl <;> simp_all

lemma Writes.at (h : Writes p l w f g) (hl : p.HasLink l) (hl' : p.HasLink l') (hd : AtLink p l' d) :
    g d = if l = l' then some w else f d := by
  by_cases hsame : l = l'
  · subst hsame
    rw [if_pos rfl, h.here d hd]
  · rw [if_neg hsame, h.elsewhere d fun hd' => hsame (atLink_inj hl hl' hd' hd)]

end Devices

section Links

variable {env : Environment} {S : Ipv4StaticRouting} {s s' : Session S} {up : Link → Bool} {l : Link}
  {args : LinkEnds} {set : NetDevice → Session S → Except Fault (Session S)}

lemma getNetDevice_src (ht : ∀ v, env.topology.HasNode v → env.topology.Tracks up v (s.nodes v))
    (hl : env.topology.HasLink l) :
    s.getNetDevice (env.topology.srcEnd l).1 (env.topology.srcEnd l).2 =
      .ok ⟨(env.topology.srcEnd l).1, (env.topology.dstEnd l).1⟩ := by
  rw [Session.getNetDevice, (ht _ (srcEnd_mem hl).1).interfaces, (srcEnd_device hl _).mpr rfl]

lemma getNetDevice_dst (ht : ∀ v, env.topology.HasNode v → env.topology.Tracks up v (s.nodes v))
    (hl : env.topology.HasLink l) :
    s.getNetDevice (env.topology.dstEnd l).1 (env.topology.dstEnd l).2 =
      .ok ⟨(env.topology.dstEnd l).1, (env.topology.srcEnd l).1⟩ := by
  rw [Session.getNetDevice, (ht _ (dstEnd_mem hl).1).interfaces, (dstEnd_device hl _).mpr rfl]

lemma Named.localLink (h : Named env args l) :
    env.topology.localLink env.systemId args.level1 args.index1 args.level2
      args.index2 = .ok ⟨(env.topology.srcEnd l).1, (env.topology.srcEnd l).2,
        (env.topology.dstEnd l).1, (env.topology.dstEnd l).2⟩ := by
  obtain ⟨⟨hl, hranks⟩, hcommand⟩ := h
  have hindices := commandIndices_eq hl
  have hup := hcommand true
  rw [TopologyDescriptor.localLink]
  cases l with
  | edgeAgg pod e a =>
    obtain ⟨h1, h2, h3, h4⟩ := Command.linkUp.inj hup
    rw [commandIndices] at hindices
    rw [← h1, ← h2, ← h3, ← h4, hindices]
    exact if_pos hranks
  | aggCore pod a k =>
    obtain ⟨h1, h2, h3, h4⟩ := Command.linkUp.inj hup
    rw [commandIndices] at hindices
    rw [← h1, ← h2, ← h3, ← h4, hindices]
    exact if_pos hranks

lemma named_of_ok {α : Type} {f : LinkInterfaces → Except Fault α} {a : α}
    (ht : ∀ v, env.topology.HasNode v → env.topology.Tracks up v (s.nodes v))
    (h : (env.topology.localLink env.systemId args.level1 args.index1 args.level2
      args.index2).bind f = .ok a)
    (hlt : ∀ props, f props = .ok a → props.srcIf < (s.nodes props.src).interfaces.length) :
    ∃ l, Named env args l := by
  obtain ⟨props, hlocal, h⟩ := bind_ok h
  obtain ⟨l, hl, hup, hdown⟩ := localLink_ok ht hlocal (hlt props h)
  refine ⟨l, hl, fun b => ?_⟩
  cases b with
  | true => exact hup
  | false => exact hdown

lemma onBothEnds_eq (ht : ∀ v, env.topology.HasNode v → env.topology.Tracks up v (s.nodes v))
    (hn : Named env args l) (hset : ∀ d t t', set d t = .ok t' → t'.nodes = t.nodes) :
    Session.onBothEnds env args set s =
      (set ⟨(env.topology.srcEnd l).1, (env.topology.dstEnd l).1⟩ s).bind
        (set ⟨(env.topology.dstEnd l).1, (env.topology.srcEnd l).1⟩) := by
  rw [Session.onBothEnds, hn.localLink, Except.bind, getNetDevice_src ht hn.1.1, Except.bind]
  cases hsrc : set ⟨(env.topology.srcEnd l).1, (env.topology.dstEnd l).1⟩ s with
  | error x => rfl
  | ok t =>
    have hnodes := hset _ _ _ hsrc
    rw [Except.bind, Except.bind, getNetDevice_dst (fun v hv => hnodes ▸ ht v hv) hn.1.1]
    rfl

lemma onBothEnds_named (ht : ∀ v, env.topology.HasNode v → env.topology.Tracks up v (s.nodes v))
    (h : Session.onBothEnds env args set s = .ok s') : ∃ l, Named env args l := by
  apply named_of_ok ht h
  intro props h
  obtain ⟨d, hd, -⟩ := bind_ok h
  rw [Session.getNetDevice] at hd
  by_contra hlt
  rw [List.getElem?_eq_none (Nat.not_lt.mp hlt)] at hd
  cases hd

lemma setDataRate_nodes {rate : Word} {d : NetDevice} (h : s.setDataRate env rate d = .ok s') :
    s'.nodes = s.nodes := by
  rw [Session.setDataRate] at h
  split_ifs at h
  exact Except.ok.inj h ▸ rfl

lemma setDelay_nodes {delay : Word} {d : NetDevice} (h : s.setDelay env delay d = .ok s') :
    s'.nodes = s.nodes := by
  rw [Session.setDelay] at h
  split_ifs at h
  exact Except.ok.inj h ▸ rfl

lemma setReceiveErrorModel_nodes {rate : Word} {d : NetDevice}
    (h : s.setReceiveErrorModel rate d = .ok s') : s'.nodes = s.nodes :=
  Except.ok.inj h ▸ rfl

lemma writes_update (p : TopologyDescriptor) (l : Link) (w : Word) (f : NetDevice → Option Word) :
    Writes p l w f (Function.update (Function.update f
      ⟨(p.srcEnd l).1, (p.dstEnd l).1⟩ (some w)) ⟨(p.dstEnd l).1, (p.srcEnd l).1⟩ (some w)) := by
  constructor
  · intro d hd
    rw [Function.update_apply, Function.update_apply]
    split_ifs with h h'
    · rfl
    · rfl
    · exact absurd hd (not_or.mpr ⟨h', h⟩)
  · intro d hd
    obtain ⟨hsrc, hdst⟩ := not_or.mp hd
    rw [Function.update_of_ne hdst, Function.update_of_ne hsrc]

lemma Writes.again {p : TopologyDescriptor} {w : Word} {f g : NetDevice → Option Word}
    (h : Writes p l w f g) : Writes p l w f (Function.update (Function.update g
      ⟨(p.dstEnd l).1, (p.srcEnd l).1⟩ (some w)) ⟨(p.srcEnd l).1, (p.dstEnd l).1⟩ (some w)) := by
  constructor
  · intro d hd
    rw [Function.update_apply, Function.update_apply]
    split_ifs
    · rfl
    · rfl
    · exact h.1 d hd
  · intro d hd
    obtain ⟨hsrc, hdst⟩ := not_or.mp hd
    rw [Function.update_of_ne hsrc, Function.update_of_ne hdst]
    exact h.elsewhere d hd

lemma doChangeBandwidth_ok {rate : Word}
    (ht : ∀ v, env.topology.HasNode v → env.topology.Tracks up v (s.nodes v))
    (h : s.doChangeBandwidth env args rate = .ok s') :
    env.isDataRate rate = true ∧ ∃ l, Named env args l ∧ ∃ g, Writes env.topology l rate s.dataRate g ∧
      s' = { s with dataRate := g } := by
  obtain ⟨l, hn⟩ := onBothEnds_named ht h
  rw [Session.doChangeBandwidth, onBothEnds_eq ht hn fun _ _ _ => setDataRate_nodes] at h
  obtain ⟨t, ht, h⟩ := bind_ok h
  rw [Session.setDataRate] at ht h
  split_ifs at ht h with hrate
  obtain rfl := Except.ok.inj ht
  exact ⟨hrate, l, hn, _, writes_update _ l rate s.dataRate, (Except.ok.inj h).symm⟩

lemma doChangeDelay_ok {delay : Word}
    (ht : ∀ v, env.topology.HasNode v → env.topology.Tracks up v (s.nodes v))
    (h : s.doChangeDelay env args delay = .ok s') :
    env.isTime delay = true ∧ ∃ l, Named env args l ∧ ∃ g, Writes env.topology l delay s.delay g ∧
      s' = { s with delay := g } := by
  obtain ⟨l, hn⟩ := onBothEnds_named ht h
  rw [Session.doChangeDelay, onBothEnds_eq ht hn fun _ _ _ => setDelay_nodes] at h
  obtain ⟨t, ht, h⟩ := bind_ok h
  rw [Session.setDelay] at ht h
  split_ifs at ht h with hdelay
  obtain rfl := Except.ok.inj ht
  exact ⟨hdelay, l, hn, _, (writes_update _ l delay s.delay).again, (Except.ok.inj h).symm⟩

lemma doSetLinkLoss_ok {rate : Word}
    (ht : ∀ v, env.topology.HasNode v → env.topology.Tracks up v (s.nodes v))
    (h : s.doSetLinkLoss env args rate = .ok s') :
    ∃ l, Named env args l ∧ ∃ g, Writes env.topology l rate s.receiveErrorModel g ∧
      s' = { s with receiveErrorModel := g } := by
  obtain ⟨l, hn⟩ := onBothEnds_named ht h
  rw [Session.doSetLinkLoss, onBothEnds_eq ht hn fun _ _ _ => setReceiveErrorModel_nodes] at h
  exact ⟨l, hn, _, writes_update _ l rate s.receiveErrorModel, (Except.ok.inj h).symm⟩

end Links

def Applied (p : TopologyDescriptor) (f g : NetDevice → Option Word) : Option (Link × Word) → Prop
  | none => g = f
  | some (l, w) => p.HasLink l ∧ Writes p l w f g

def Invocation.Mitigates : Invocation → Prop
  | .linkDown _ mitigate | .linkUp _ mitigate => mitigate = true
  | _ => True

section Steps

variable {env : Environment} {S : Ipv4StaticRouting} {s t : Session S} {fs : Option FlowScheduler}
  {cs : List Invocation} {c : Invocation} {args : LinkEnds} {l : Link} {up : Link → Bool}

lemma Applied.lastOf {p : TopologyDescriptor} {f g : NetDevice → Option Word}
    {entry : Invocation → Option (Link × Word)} (h : Applied p f g (entry c))
    (hold : ∀ l d, p.HasLink l → AtLink p l d → f d = Machine.lastOf (cs.filterMap entry) l) (l : Link)
    (d : NetDevice) (hl : p.HasLink l) (hd : AtLink p l d) :
    g d = Machine.lastOf ((cs ++ [c]).filterMap entry) l := by
  rw [filterMap_concat]
  cases hc : entry c with
  | none =>
    rw [hc] at h
    rw [Option.toList_none, List.append_nil, ← hold l d hl hd]
    exact congrFun h d
  | some x =>
    rw [hc] at h
    rw [Option.toList_some, lastOf_concat, ← hold l d hl hd]
    exact h.2.at h.1 hl hd

lemma run_concat (p : TopologyDescriptor) (systemId : Node → ℕ) (cs : List Command) (c : Command)
    (nodes : Nodes S) : p.run systemId (cs ++ [c]) nodes =
      (p.run systemId cs nodes).bind (p.execute systemId c) := by
  induction cs generalizing nodes with
  | nil =>
    rw [List.nil_append, run, run, Except.bind]
    cases p.execute systemId c nodes <;> rfl
  | cons d cs ih =>
    rw [List.cons_append, run, run]
    cases p.execute systemId d nodes with
    | error x => rfl
    | ok n => exact ih n

lemma migrateAll_concat (fs : Option FlowScheduler) (ms : List Migration) (m : Migration) :
    migrateAll fs (ms ++ [m]) = (migrateAll fs ms).bind fun fs =>
      match fs with
      | none => .error .nullPointer
      | some fs => (fs.migrateTraffic m.source m.target m.percent).map some := by
  cases fs with
  | none => cases ms <;> rfl
  | some fs =>
    rw [migrateAll, migrateAll, migrate, List.foldlM_append, migrate]
    cases ms.foldlM (fun fs c => fs.migrateTraffic c.source c.target c.percent) fs with
    | error x => rfl
    | ok fs' =>
      change Except.map some ([m].foldlM (fun (fs : FlowScheduler) c =>
        fs.migrateTraffic c.source c.target c.percent) fs') =
          (fs'.migrateTraffic m.source m.target m.percent).map some
      rw [List.foldlM_cons]
      cases fs'.migrateTraffic m.source m.target m.percent <;> rfl

lemma execute_obeys {p : TopologyDescriptor} {systemId : Node → ℕ} {c : Command} {nodes nodes' : Nodes S}
    (h : ∀ v, p.HasNode v → p.Tracks up v (nodes v)) (he : p.execute systemId c nodes = .ok nodes') :
    ∀ v, p.HasNode v → p.Tracks (p.obey up c) v (nodes' v) := by
  have hlink : ∀ l b, p.Names systemId (l, b) → c = p.command l b →
      ∀ v, p.HasNode v → p.Tracks (p.obey up c) v (nodes' v) := by
    rintro l b ⟨hl, hranks⟩ rfl v hv
    rw [execute_link systemId b hl hranks fun v hv => (h v hv).ready.shape] at he
    obtain rfl := Except.ok.inj he
    rw [obey_command hl]
    exact (h v hv).effect hv hl b
  cases c with
  | linkDown srcLevel srcIdx dstLevel dstIdx =>
    obtain ⟨l, hl, hcmd⟩ := linkDown_ok h he
    exact hlink l false hl hcmd
  | linkUp srcLevel srcIdx dstLevel dstIdx =>
    obtain ⟨l, hl, hcmd⟩ := linkUp_ok h he
    exact hlink l true hl hcmd
  | setAttribute srcLevel srcIdx dstLevel dstIdx =>
    obtain ⟨props, -, rfl⟩ := map_ok he
    exact h
  | setWcmp switchLevel idx i wcmpLevel weight =>
    obtain rfl := setWcmp_ok he
    intro v hv
    rw [Nodes.modify_apply]
    split
    · rename_i hvu
      subst hvu
      exact (h _ hv).setInterfaceWeight i _ _
    · exact h v hv
  | migrate source destination percent =>
    rw [execute] at he
    split at he
    · obtain rfl := Except.ok.inj he
      exact h
    · cases he

lemma setup_core_wcmp {p : TopologyDescriptor} {k : ℕ} (hk : k < p.numCores) :
    (p.setupClosTopology S (.core k)).wcmp = none := by
  rw [setupClosTopology_base (by simp), ecmpEdges_apply]
  simp only [reduceCtorEq, if_false, forRange_id]
  rw [setupCoreRouting_core hk, forRange_addStaticRoute, setupServerRouting_apply]
  simp only [reduceCtorEq, if_false, forRange_id]
  rw [createFabricInterfaces, aggCoreInterfaces_apply, aggEdgeInterfaces_apply,
    edgeServerInterfaces_apply, assignServerIps_switch (by simp)]
  simp only [reduceCtorEq, if_false, forRange_id]
  have hnone : ∀ s : NodeStack S, s.wcmp.isSome = false → s.wcmp = none := fun s hs => by
    rwa [Option.isSome_eq_false_iff, Option.isNone_iff_eq_none] at hs
  apply hnone
  refine forRange_preserves (P := fun s : NodeStack S => s.wcmp.isSome = false) rfl
    fun pod s _ hs => ?_
  refine forRange_preserves (P := fun s : NodeStack S => s.wcmp.isSome = false) hs
    fun agg s _ hs => ?_
  refine forRange_preserves (P := fun s : NodeStack S => s.wcmp.isSome = false) hs
    fun i s _ hs => ?_
  split_ifs
  · exact (connect_isSome _ _ s).trans hs
  · exact hs

lemma execute_wcmp_none {p : TopologyDescriptor} {systemId : Node → ℕ} {c : Command}
    {nodes nodes' : Nodes S} {v : Node} (h : ∀ v, p.HasNode v → p.Tracks up v (nodes v))
    (he : p.execute systemId c nodes = .ok nodes') (hv : (nodes v).wcmp = none) :
    (nodes' v).wcmp = none := by
  obtain rfl | ⟨l, b, ⟨hl, hranks⟩, rfl⟩ | ⟨u, i, level, weight, rfl⟩ := execute_cases h he
  · exact hv
  · rw [execute_link systemId b hl hranks fun v hv => (h v hv).ready.shape] at he
    obtain rfl := Except.ok.inj he
    exact effect_wcmp_none hv
  · rw [Nodes.modify_apply]
    split_ifs
    · rw [NodeStack.modifyWcmp, hv, Option.map_none]
    · exact hv

lemma Settled.concat (h : Settled env fs cs s)
    (hexecute : env.topology.execute env.systemId c.toCommand s.nodes = .ok t.nodes)
    (hrate : Applied env.topology s.dataRate t.dataRate (c.bandwidth env))
    (hdelay : Applied env.topology s.delay t.delay (c.channelDelay env))
    (hloss : Applied env.topology s.receiveErrorModel t.receiveErrorModel (c.lossRate env))
    (hmigrate : migrateAll fs ((cs ++ [c]).filterMap Invocation.migration) = .ok t.flowScheduler) :
    Settled env fs (cs ++ [c]) t where
  nodes := by
    rw [List.map_append, List.map_singleton, run_concat, h.nodes]
    exact hexecute
  tracks v hv := by
    rw [List.map_append, List.map_singleton, List.foldl_append]
    exact execute_obeys h.tracks hexecute v hv
  core k hk := execute_wcmp_none h.tracks hexecute (h.core k hk)
  dataRate := hrate.lastOf h.dataRate
  delay := hdelay.lastOf h.delay
  receiveErrorModel := hloss.lastOf h.receiveErrorModel
  flowScheduler := hmigrate

lemma Named.namedLink (h : Named env args l) : Invocation.namedLink env args = some l := by
  rw [Invocation.namedLink, ← h.2 true, commanded_command h.1.1]
  rfl

lemma Named.execute (h : Named env args l) (nodes : Nodes S) :
    env.topology.execute env.systemId (.setAttribute args.level1 args.index1
      args.level2 args.index2) nodes = .ok nodes := by
  rw [TopologyDescriptor.execute, h.localLink]
  rfl

lemma Settled.unmigrated (h : Settled env fs cs s) (hc : c.migration = none) :
    migrateAll fs ((cs ++ [c]).filterMap Invocation.migration) = .ok s.flowScheduler := by
  rw [filterMap_concat, hc, Option.toList_none, List.append_nil]
  exact h.flowScheduler

lemma migrateTraffic_range {m m' : FlowScheduler} {src dst : ℕ} {percent : ℤ}
    (h : m.migrateTraffic src dst percent = .ok m') : |percent| ≤ 100 := by
  rw [FlowScheduler.migrateTraffic] at h
  split at h
  · cases h
  · rename_i hrange
    obtain ⟨hle, hge⟩ := not_not.mp hrange
    exact abs_le.mpr ⟨hge, hle⟩

lemma Settled.step (h : Settled env fs cs s) (hc : c.Mitigates) (hs : Session.call env c s = .ok t) :
    Settled env fs (cs ++ [c]) t := by
  cases c with
  | linkDown args mitigate =>
    obtain ⟨nodes, hnodes, rfl⟩ := map_ok hs
    obtain rfl : mitigate = true := hc
    exact h.concat hnodes rfl rfl rfl (h.unmigrated rfl)
  | linkUp args mitigate =>
    obtain ⟨nodes, hnodes, rfl⟩ := map_ok hs
    obtain rfl : mitigate = true := hc
    exact h.concat hnodes rfl rfl rfl (h.unmigrated rfl)
  | setBw args rate =>
    obtain ⟨-, l, hn, g, hg, rfl⟩ := doChangeBandwidth_ok h.tracks hs
    have hentry : Applied env.topology s.dataRate g (Invocation.bandwidth env (.setBw args rate)) := by
      rw [Invocation.bandwidth, hn.namedLink]
      exact ⟨hn.1.1, hg⟩
    exact h.concat (hn.execute s.nodes) hentry rfl rfl (h.unmigrated rfl)
  | setDelay args delay =>
    obtain ⟨-, l, hn, g, hg, rfl⟩ := doChangeDelay_ok h.tracks hs
    have hentry : Applied env.topology s.delay g (Invocation.channelDelay env (.setDelay args delay)) := by
      rw [Invocation.channelDelay, hn.namedLink]
      exact ⟨hn.1.1, hg⟩
    exact h.concat (hn.execute s.nodes) rfl hentry rfl (h.unmigrated rfl)
  | linkLoss args rate =>
    obtain ⟨l, hn, g, hg, rfl⟩ := doSetLinkLoss_ok h.tracks hs
    have hentry : Applied env.topology s.receiveErrorModel g
        (Invocation.lossRate env (.linkLoss args rate)) := by
      rw [Invocation.lossRate, hn.namedLink]
      exact ⟨hn.1.1, hg⟩
    exact h.concat (hn.execute s.nodes) rfl rfl hentry (h.unmigrated rfl)
  | setWcmp level idx i wcmpLevel weight =>
    obtain ⟨nodes, hnodes, rfl⟩ := map_ok hs
    exact h.concat hnodes rfl rfl rfl (h.unmigrated rfl)
  | migrate src dst percent =>
    rw [Session.call] at hs
    cases hm : s.flowScheduler with
    | none =>
      rw [hm] at hs
      dsimp only at hs
      split_ifs at hs
    | some m =>
      rw [hm] at hs
      obtain ⟨m', hm', rfl⟩ := map_ok hs
      refine h.concat (if_pos (migrateTraffic_range hm')) rfl rfl rfl ?_
      rw [filterMap_concat, Invocation.migration, Option.toList_some, migrateAll_concat, h.flowScheduler,
        hm]
      exact congrArg (Except.map some) hm'

lemma Settled.start (env : Environment) (S : Ipv4StaticRouting) (fs : Option FlowScheduler) :
    Settled env fs [] (Session.start env.topology S fs) where
  nodes := rfl
  tracks v hv := setup_tracks hv
  core k hk := setup_core_wcmp hk
  dataRate l d hl hd := rfl
  delay l d hl hd := rfl
  receiveErrorModel l d hl hd := rfl
  flowScheduler := by cases fs <;> rfl

end Steps

section Parsed

variable {token : Word} {type : Word} {stream : Stream}

lemma parseCommand_mitigates {r : Callback × Word × Stream}
    (h : parseCommand type token stream = some r) (u : Unwritten) : (r.1.invocation u).Mitigates := by
  rw [parseCommand] at h
  split_ifs at h
  · rw [parseLink] at h
    split at h
    · cases h
    · split_ifs at h <;> cases h <;> trivial
  · dsimp only [parseWcmp] at h
    split at h
    · cases h
    · cases h
      trivial
  · cases h
    trivial

lemma parseLoop_mitigates (n : ℕ) (token : Word) (stream : Stream) :
    ∀ c ∈ (parseLoop n token stream).2, ∀ u, (c.invocation u).Mitigates := by
  induction n generalizing token stream with
  | zero => exact fun c hc => absurd hc List.not_mem_nil
  | succ n ih =>
    rw [parseLoop]
    split
    · exact fun c hc => absurd hc List.not_mem_nil
    · split
      · exact fun c hc => absurd hc List.not_mem_nil
      · rename_i hcommand
        exact List.forall_mem_cons.mpr ⟨parseCommand_mitigates hcommand, ih _ _⟩

lemma parse_mitigates (env : Environment) (text : List Char) :
    ∀ c ∈ env.invocations (parseSecnarioScript text).2, c.Mitigates := by
  intro c hc
  obtain ⟨⟨callback, i⟩, hmem, rfl⟩ := List.mem_map.mp hc
  exact parseLoop_mitigates _ _ _ callback (List.fst_mem_of_mem_zipIdx hmem) (env.unwritten i)

end Parsed

section Outcome

variable {env : Environment} {S : Ipv4StaticRouting} {s t : Session S} {fs : Option FlowScheduler}
  {cs : List Invocation} {c : Invocation} {args : LinkEnds} {l : Link} {up : Link → Bool}

lemma updateWcmp_named {level : TopologyLevel} {idx i wcmpLevel weight : ℕ} {nodes : Nodes S}
    (h : Settled env fs cs s)
    (hok : env.topology.doUpdateWcmp level idx i wcmpLevel weight s.nodes = .ok nodes) :
    env.topology.HasNode (env.topology.switchAt level idx) ∧
      (env.topology.switchAt level idx).runsWcmp = true := by
  obtain ⟨v, hv, hset⟩ := bind_ok hok
  cases level with
  | edge =>
    obtain ⟨hlt, rfl⟩ := getEdge_ok hv
    exact ⟨hlt, rfl⟩
  | aggregate =>
    obtain ⟨hlt, rfl⟩ := getAggregate_ok hv
    exact ⟨hlt, rfl⟩
  | core =>
    dsimp only [getCore] at hv
    split_ifs at hv with hlt
    obtain rfl := Except.ok.inj hv
    rw [Nodes.setInterfaceWeight, h.core idx hlt] at hset
    cases hset

lemma updateWcmp_ok {level : TopologyLevel} {idx : ℕ} (i wcmpLevel weight : ℕ) {nodes : Nodes S}
    (ht : ∀ v, env.topology.HasNode v → env.topology.Tracks up v (nodes v))
    (hnode : env.topology.HasNode (env.topology.switchAt level idx))
    (hruns : (env.topology.switchAt level idx).runsWcmp = true) :
    ∃ nodes', env.topology.doUpdateWcmp level idx i wcmpLevel weight nodes = .ok nodes' := by
  have hsome := (ht _ hnode).runsWcmp.trans hruns
  cases level with
  | edge =>
    have hlt : idx / env.topology.h < env.topology.numPods ∧ idx % env.topology.h < env.topology.h :=
      hnode
    rw [doUpdateWcmp, getEdge, if_pos hlt]
    exact ⟨_, setInterfaceWeight_eq hsome _ _ _⟩
  | aggregate =>
    have hlt : idx / env.topology.h < env.topology.numPods ∧ idx % env.topology.h < env.topology.h :=
      hnode
    rw [doUpdateWcmp, getAggregate, if_pos hlt]
    exact ⟨_, setInterfaceWeight_eq hsome _ _ _⟩
  | core => cases hruns

lemma carriedOut_of_ok (h : Settled env fs cs s) (hs : Session.call env c s = .ok t) :
    CarriedOut env c := by
  cases c with
  | linkDown args mitigate =>
    obtain ⟨nodes, hnodes, -⟩ := map_ok hs
    apply named_of_ok h.tracks hnodes
    intro props hprops
    obtain ⟨n, hset, -⟩ := bind_ok hprops
    rw [Nodes.setDown] at hset
    split_ifs at hset with hlt
    exact hlt
  | linkUp args mitigate =>
    obtain ⟨nodes, hnodes, -⟩ := map_ok hs
    apply named_of_ok h.tracks hnodes
    intro props hprops
    obtain ⟨n, hset, -⟩ := bind_ok hprops
    rw [Nodes.setUp] at hset
    split_ifs at hset with hlt
    exact hlt
  | setBw args rate =>
    obtain ⟨hrate, l, hn, -⟩ := doChangeBandwidth_ok h.tracks hs
    exact ⟨⟨l, hn⟩, hrate⟩
  | setDelay args delay =>
    obtain ⟨hdelay, l, hn, -⟩ := doChangeDelay_ok h.tracks hs
    exact ⟨⟨l, hn⟩, hdelay⟩
  | linkLoss args rate =>
    obtain ⟨l, hn, -⟩ := doSetLinkLoss_ok h.tracks hs
    exact ⟨l, hn⟩
  | setWcmp level idx i wcmpLevel weight =>
    obtain ⟨nodes, hnodes, -⟩ := map_ok hs
    exact updateWcmp_named h hnodes
  | migrate src dst percent => trivial

lemma Settled.call_iff (h : Settled env fs cs s) (hc : c.Mitigates) :
    (∃ t, Session.call env c s = .ok t) ↔ CarriedOut env c ∧
      ∃ fs', migrateAll fs ((cs ++ [c]).filterMap Invocation.migration) = .ok fs' := by
  constructor
  · rintro ⟨t, ht⟩
    exact ⟨carriedOut_of_ok h ht, _, (h.step hc ht).flowScheduler⟩
  · rintro ⟨hcarried, fs', hfs'⟩
    cases c with
    | linkDown args mitigate =>
      obtain ⟨l, ⟨hl, hranks⟩, hcommand⟩ := hcarried
      obtain rfl : mitigate = true := hc
      have hexecute := execute_link env.systemId false hl hranks fun v hv => (h.tracks v hv).ready.shape
      rw [hcommand false] at hexecute
      exact ⟨_, congrArg (Except.map _) hexecute⟩
    | linkUp args mitigate =>
      obtain ⟨l, ⟨hl, hranks⟩, hcommand⟩ := hcarried
      obtain rfl : mitigate = true := hc
      have hexecute := execute_link env.systemId true hl hranks fun v hv => (h.tracks v hv).ready.shape
      rw [hcommand true] at hexecute
      exact ⟨_, congrArg (Except.map _) hexecute⟩
    | setBw args rate =>
      obtain ⟨⟨l, hn⟩, hrate⟩ := hcarried
      rw [Session.call, Session.doChangeBandwidth,
        onBothEnds_eq h.tracks hn fun _ _ _ => setDataRate_nodes, Session.setDataRate, if_pos hrate]
      exact ⟨_, if_pos hrate⟩
    | setDelay args delay =>
      obtain ⟨⟨l, hn⟩, hdelay⟩ := hcarried
      rw [Session.call, Session.doChangeDelay,
        onBothEnds_eq h.tracks hn fun _ _ _ => setDelay_nodes, Session.setDelay, if_pos hdelay]
      exact ⟨_, if_pos hdelay⟩
    | linkLoss args rate =>
      obtain ⟨l, hn⟩ := hcarried
      exact ⟨_, onBothEnds_eq h.tracks hn fun _ _ _ => setReceiveErrorModel_nodes⟩
    | setWcmp level idx i wcmpLevel weight =>
      obtain ⟨nodes, hnodes⟩ := updateWcmp_ok i wcmpLevel
        weight h.tracks hcarried.1 hcarried.2
      exact ⟨_, congrArg (Except.map _) hnodes⟩
    | migrate src dst percent =>
      rw [filterMap_concat, Invocation.migration, Option.toList_some, migrateAll_concat,
        h.flowScheduler] at hfs'
      rw [Session.call]
      cases hm : s.flowScheduler with
      | none =>
        rw [hm] at hfs'
        cases hfs'
      | some m =>
        rw [hm] at hfs'
        obtain ⟨m', hm', -⟩ := map_ok hfs'
        exact ⟨_, congrArg (Except.map _) hm'⟩

lemma obey_lastOf (cs : List Invocation) (l : Link) :
    (cs.map Invocation.toCommand).foldl env.topology.obey up l =
      (Machine.lastOf (cs.filterMap (Invocation.linkStatus env)) l).getD (up l) := by
  induction cs using List.reverseRecOn with
  | nil => rfl
  | append_singleton cs c ih =>
    rw [List.map_append, List.map_singleton, List.foldl_append, List.foldl_cons, List.foldl_nil,
      filterMap_concat, obey]
    cases hc : c.linkStatus env with
    | none =>
      rw [Invocation.linkStatus] at hc
      rw [hc, Option.toList_none, List.append_nil]
      exact ih
    | some x =>
      obtain ⟨l', b⟩ := x
      rw [Invocation.linkStatus] at hc
      rw [hc, Option.toList_some, lastOf_concat]
      refine (Function.update_apply _ _ _ _).trans ?_
      by_cases hl : l' = l
      · rw [if_pos hl.symm, if_pos hl, Option.getD_some]
      · rw [if_neg (Ne.symm hl), if_neg hl]
        exact ih

lemma runScenario_ok {text : List Char} (h : Session.runScenario env text s = .ok t) :
    (parseSecnarioScript text).1 = 0 ∧
      (env.invocations (parseSecnarioScript text).2).foldlM (fun s c => Session.call env c s) s =
        .ok t := by
  obtain ⟨u, hu, h⟩ := bind_ok h
  split_ifs at h with hresult
  obtain rfl := Except.ok.inj h
  exact ⟨not_not.mp hresult, hu⟩

lemma settled_of_run (hcs : ∀ c ∈ cs, c.Mitigates)
    (h : cs.foldlM (fun s c => Session.call env c s) (Session.start env.topology S fs) = .ok t) :
    Settled env fs cs t := by
  induction cs using List.reverseRecOn generalizing t with
  | nil =>
    obtain rfl := Except.ok.inj h
    exact Settled.start env S fs
  | append_singleton cs c ih =>
    rw [List.forall_mem_append, List.forall_mem_singleton] at hcs
    obtain ⟨s, hs, hc⟩ := foldlM_concat_ok h
    exact (ih hcs.1 hs).step hcs.2 hc

lemma migrateAll_prefix (h : ∃ fs', migrateAll fs ((cs ++ [c]).filterMap Invocation.migration) =
    .ok fs') : ∃ fs', migrateAll fs (cs.filterMap Invocation.migration) = .ok fs' := by
  obtain ⟨fs', h⟩ := h
  rw [filterMap_concat] at h
  cases hc : c.migration with
  | none =>
    rw [hc, Option.toList_none, List.append_nil] at h
    exact ⟨fs', h⟩
  | some m =>
    rw [hc, Option.toList_some, migrateAll_concat] at h
    obtain ⟨fs'', h, -⟩ := bind_ok h
    exact ⟨fs'', h⟩

lemma run_ok_iff (hcs : ∀ c ∈ cs, c.Mitigates) :
    (∃ t, cs.foldlM (fun s c => Session.call env c s) (Session.start env.topology S fs) = .ok t) ↔
      (∀ c ∈ cs, CarriedOut env c) ∧
        ∃ fs', migrateAll fs (cs.filterMap Invocation.migration) = .ok fs' := by
  induction cs using List.reverseRecOn with
  | nil =>
    refine iff_of_true ⟨_, rfl⟩ ⟨fun c hc => absurd hc List.not_mem_nil, fs, ?_⟩
    exact (Settled.start env S fs).flowScheduler
  | append_singleton cs c ih =>
    rw [List.forall_mem_append, List.forall_mem_singleton] at hcs
    rw [List.forall_mem_append, List.forall_mem_singleton]
    constructor
    · rintro ⟨t, ht⟩
      obtain ⟨s, hs, hc⟩ := foldlM_concat_ok ht
      have hsettled := settled_of_run hcs.1 hs
      obtain ⟨hcarried, hmigrate⟩ := (hsettled.call_iff hcs.2).mp ⟨t, hc⟩
      exact ⟨⟨((ih hcs.1).mp ⟨s, hs⟩).1, hcarried⟩, hmigrate⟩
    · rintro ⟨⟨hpre, hcarried⟩, hmigrate⟩
      obtain ⟨s, hs⟩ := (ih hcs.1).mpr ⟨hpre, migrateAll_prefix hmigrate⟩
      obtain ⟨t, ht⟩ := ((settled_of_run hcs.1 hs).call_iff hcs.2).mpr ⟨hcarried, hmigrate⟩
      refine ⟨t, ?_⟩
      rw [List.foldlM_append, hs]
      change [c].foldlM (fun s c => Session.call env c s) s = .ok t
      rw [List.foldlM_cons, ht]
      rfl

/-- When a scenario file is carried out to its end: the file is read to its end, every callback finds
what it names, and the flow scheduler takes the migrations. -/
theorem runScenario_ok_iff (env : Environment) (S : Ipv4StaticRouting) (fs : Option FlowScheduler)
    (text : List Char) :
    let cs := env.invocations (parseSecnarioScript text).2
    (∃ s, Session.runScenario env text (Session.start env.topology S fs) = .ok s) ↔
      (parseSecnarioScript text).1 = 0 ∧ (∀ c ∈ cs, CarriedOut env c) ∧
        ∃ fs', migrateAll fs (cs.filterMap Invocation.migration) = .ok fs' := by
  intro cs
  rw [← run_ok_iff (S := S) (parse_mitigates env text)]
  constructor
  · rintro ⟨s, hs⟩
    obtain ⟨hresult, hrun⟩ := runScenario_ok hs
    exact ⟨hresult, s, hrun⟩
  · rintro ⟨hresult, s, hrun⟩
    refine ⟨s, ?_⟩
    rw [Session.runScenario]
    dsimp only
    rw [hrun, Except.bind, if_neg (not_not.mpr hresult)]

/-- What a scenario file that is carried out to its end leaves. -/
theorem runScenario_settles (env : Environment) (S : Ipv4StaticRouting) (fs : Option FlowScheduler)
    (text : List Char) (s : Session S)
    (hrun : Session.runScenario env text (Session.start env.topology S fs) = .ok s) :
    let cs := env.invocations (parseSecnarioScript text).2
    env.topology.run env.systemId (cs.map Invocation.toCommand)
        (env.topology.setupClosTopology S) = .ok s.nodes ∧
      migrateAll fs (cs.filterMap Invocation.migration) = .ok s.flowScheduler ∧
      ∀ l, env.topology.HasLink l →
        (∀ v i, env.topology.IsEnd l v i → ((s.nodes v).isUp i = true ↔
          lastOf (cs.filterMap (Invocation.linkStatus env)) l ≠ some false)) ∧
        ∀ d, AtLink env.topology l d →
          s.dataRate d = lastOf (cs.filterMap (Invocation.bandwidth env)) l ∧
          s.delay d = lastOf (cs.filterMap (Invocation.channelDelay env)) l ∧
          s.receiveErrorModel d = lastOf (cs.filterMap (Invocation.lossRate env)) l := by
  intro cs
  obtain ⟨-, hcalls⟩ := runScenario_ok hrun
  have h : Settled env fs cs s := settled_of_run (parse_mitigates env text) hcalls
  refine ⟨h.nodes, h.flowScheduler, fun l hl => ⟨fun v i hend => ?_, fun d hd => ?_⟩⟩
  · obtain ⟨hv, hi⟩ := isEnd_lt hl hend
    rw [(h.tracks v hv).isUp, portUp, (portLink_eq_some hv hl).mpr hend, Option.all_some, obey_lastOf,
      decide_eq_true hi, Bool.true_and]
    cases lastOf (cs.filterMap (Invocation.linkStatus env)) l with
    | none => simp
    | some b => cases b <;> simp
  · exact ⟨h.dataRate l d hl hd, h.delay l d hl hd, h.receiveErrorModel l d hl hd⟩

end Outcome

section TwoPods

def failedLink : List Char :=
  "SET_BW EDGE 0 AGGREGATE 1 1Gbps\nLINK_DOWN EDGE 0 AGGREGATE 1\nSET_BW EDGE 0 AGGREGATE 1 2Gbps\n".toList

def failedArgs : LinkArgs := ⟨.edge, some 0, .aggregate, some 1⟩

def failedEnds : LinkEnds := ⟨.edge, 0, .aggregate, 1⟩

lemma parse_failedLink : parseSecnarioScript failedLink = (0, [.setBw failedArgs "1Gbps".toList,
    .linkDown failedArgs true, .setBw failedArgs "2Gbps".toList]) := by
  decide +kernel

def twoPodsEnvironment : Environment where
  topology := twoPods
  systemId _ := 0
  isDataRate w := w ∈ ["1Gbps".toList, "2Gbps".toList]
  isTime w := w = "1ms".toList
  unwritten _ := ⟨0, 0, 0, 0, 0, 0, 0, 0, 0⟩

lemma invocations_failedLink : twoPodsEnvironment.invocations (parseSecnarioScript failedLink).2 =
    [.setBw failedEnds "1Gbps".toList, .linkDown failedEnds true, .setBw failedEnds "2Gbps".toList] := by
  rw [parse_failedLink]
  rfl

lemma failedEnds_named : Named twoPodsEnvironment failedEnds (.edgeAgg 0 0 1) := by
  refine ⟨⟨⟨by decide, by decide, by decide⟩, rfl⟩, fun b => ?_⟩
  cases b <;> rfl

theorem runScenario_settles_failedLink : ∃ s : Session listStaticRouting,
    Session.runScenario twoPodsEnvironment failedLink (Session.start twoPods listStaticRouting none) =
      .ok s ∧
      (s.nodes (.edge 0 0)).isUp 3 = false ∧
      s.dataRate ⟨.edge 0 0, .aggregate 0 1⟩ = some "2Gbps".toList ∧
      s.dataRate ⟨.edge 0 0, .aggregate 0 0⟩ = none := by
  have hmem : ∀ rate : Word, twoPodsEnvironment.isDataRate rate = true →
      CarriedOut twoPodsEnvironment (.setBw failedEnds rate) := fun rate h =>
    ⟨⟨_, failedEnds_named⟩, h⟩
  have hrun : ∃ s, [.setBw failedEnds "1Gbps".toList, .linkDown failedEnds true,
      .setBw failedEnds "2Gbps".toList].foldlM (fun s c => Session.call twoPodsEnvironment c s)
        (Session.start twoPods listStaticRouting none) = .ok s := by
    apply (run_ok_iff _).mpr
    · refine ⟨?_, none, rfl⟩
      simp only [List.forall_mem_cons]
      exact ⟨hmem _ rfl, ⟨_, failedEnds_named⟩, hmem _ rfl, fun c hc => absurd hc List.not_mem_nil⟩
    · simp [Invocation.Mitigates]
  obtain ⟨s, hs⟩ := hrun
  have hscenario : Session.runScenario twoPodsEnvironment failedLink
      (Session.start twoPods listStaticRouting none) = .ok s := by
    rw [Session.runScenario]
    dsimp only
    rw [invocations_failedLink, hs, parse_failedLink]
    rfl
  obtain ⟨-, -, hlinks⟩ := runScenario_settles twoPodsEnvironment listStaticRouting none failedLink s
    hscenario
  rw [invocations_failedLink] at hlinks
  obtain ⟨hup, hattributes⟩ := hlinks (.edgeAgg 0 0 1) failedEnds_named.1.1
  refine ⟨s, hscenario, ?_, (hattributes _ (Or.inl rfl)).1, ?_⟩
  · have hdown := hup (.edge 0 0) 3 (Or.inl rfl)
    rw [← Bool.not_eq_true, hdown]
    decide
  · exact ((hlinks (.edgeAgg 0 0 0) ⟨by decide, by decide, by decide⟩).2 _ (Or.inl rfl)).1

end TwoPods

end SwarmSim.Scenario
