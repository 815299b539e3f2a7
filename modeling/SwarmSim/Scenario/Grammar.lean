import SwarmSim.Clos.Topology
import SwarmSim.Machine.Stream

namespace SwarmSim.Scenario

open Machine Clos

abbrev Word := List Char

/-- An argument is missing when the variable for it was never written. -/
structure LinkArgs where
  level1 : TopologyLevel
  index1 : Option ℕ
  level2 : TopologyLevel
  index2 : Option ℕ
  deriving DecidableEq

inductive Callback
  | linkDown (args : LinkArgs) (mitigate : Bool)
  | linkUp (args : LinkArgs) (mitigate : Bool)
  | setBw (args : LinkArgs) (rate : Word)
  | setDelay (args : LinkArgs) (delay : Word)
  | linkLoss (args : LinkArgs) (rate : Word)
  | setWcmp (topoLevel : TopologyLevel) (switchIndex ifIndex level weight : Option ℕ)
  | migrate (src dst : Option ℕ) (percent : Option ℤ)
  deriving DecidableEq

def levelName : TopologyLevel → Word
  | .edge => "EDGE".toList
  | .aggregate => "AGGREGATE".toList
  | .core => "CORE".toList

def topoLevelStr2enum (w : Word) : Option TopologyLevel :=
  [.edge, .aggregate, .core].find? (levelName · = w)

@[simp] lemma topoLevelStr2enum_name (l : TopologyLevel) : topoLevelStr2enum (levelName l) = some l := by
  cases l <;> rfl

lemma eq_levelName {w : Word} {l : TopologyLevel} (h : topoLevelStr2enum w = some l) :
    w = levelName l := by
  have hfound := List.find?_some h
  exact (of_decide_eq_true hfound).symm

def Callback.level? : Callback → Option TopologyLevel
  | linkDown a _ | linkUp a _ | setBw a _ | setDelay a _ | linkLoss a _ => some a.level2
  | setWcmp l .. => some l
  | migrate .. => none

/-! ### Well-formed commands -/

def linkArgs : List Word → Option (LinkArgs × List Word)
  | l1 :: i1 :: l2 :: i2 :: ws => do
    let level1 ← topoLevelStr2enum l1
    let index1 ← unsignedLiteral 32 i1
    let level2 ← topoLevelStr2enum l2
    let index2 ← unsignedLiteral 32 i2
    return (⟨level1, some index1, level2, some index2⟩, ws)
  | _ => none

def linkSetting (callback : LinkArgs → Word → Callback) (ws : List Word) :
    Option (Callback × List Word) :=
  match linkArgs ws with
  | some (args, v :: ws) => some (callback args v, ws)
  | _ => none

def wcmpArgs : List Word → Option (Callback × List Word)
  | l :: s :: i :: v :: w :: ws => do
    let topoLevel ← topoLevelStr2enum l
    let switchIndex ← unsignedLiteral 32 s
    let ifIndex ← unsignedLiteral 32 i
    let level ← unsignedLiteral 16 v
    let weight ← unsignedLiteral 16 w
    return (.setWcmp topoLevel (some switchIndex) (some ifIndex) (some level) (some weight), ws)
  | _ => none

def migrateArgs : List Word → Option (Callback × List Word)
  | s :: d :: p :: ws => do
    let src ← unsignedLiteral 32 s
    let dst ← unsignedLiteral 32 d
    let percent ← signedLiteral 32 p
    return (.migrate (some src) (some dst) (some percent), ws)
  | _ => none

def command : List Word → Option (Callback × List Word)
  | [] => none
  | type :: ws =>
    if type = "LINK_DOWN".toList then (linkArgs ws).map fun r => (.linkDown r.1 true, r.2)
    else if type = "LINK_UP".toList then (linkArgs ws).map fun r => (.linkUp r.1 true, r.2)
    else if type = "SET_BW".toList then linkSetting .setBw ws
    else if type = "SET_DELAY".toList then linkSetting .setDelay ws
    else if type = "SET_LOSS".toList then linkSetting .linkLoss ws
    else if type = "SET_WCMP".toList then wcmpArgs ws
    else if type = "MIGRATE".toList then migrateArgs ws
    else none

inductive Commands : List Word → List Callback → List Word → Prop
  | nil {rest} : Commands rest [] rest
  | cons {ws c ws' cs rest} : command ws = some (c, ws') → Commands ws' cs rest →
      Commands ws (c :: cs) rest

section Commands

variable {ws ws' rest rest' : List Word} {cs cs' : List Callback} {c : Callback} {args : LinkArgs}
  {callback : LinkArgs → Word → Callback}

lemma linkArgs_eq_some (h : linkArgs ws = some (args, rest)) : ∃ i1 i2 n1 n2,
    unsignedLiteral 32 i1 = some n1 ∧ unsignedLiteral 32 i2 = some n2 ∧
      args.index1 = some n1 ∧ args.index2 = some n2 ∧
      ws = levelName args.level1 :: i1 :: levelName args.level2 :: i2 :: rest := by
  unfold linkArgs at h
  split at h
  · simp only [Option.bind_eq_bind, Option.bind_eq_some_iff] at h
    obtain ⟨level1, hl1, n1, hn1, level2, hl2, n2, hn2, h⟩ := h
    obtain ⟨rfl, rfl⟩ := Prod.mk.inj (Option.some.inj h)
    exact ⟨_, _, n1, n2, hn1, hn2, rfl, rfl, by rw [eq_levelName hl1, eq_levelName hl2]⟩
  · cases h

lemma linkSetting_eq_some (h : linkSetting callback ws = some (c, rest)) :
    ∃ args v, linkArgs ws = some (args, v :: rest) ∧ c = callback args v := by
  unfold linkSetting at h
  split at h
  · rename_i args v ws hargs
    obtain ⟨rfl, rfl⟩ := Prod.mk.inj (Option.some.inj h)
    exact ⟨args, v, hargs, rfl⟩
  · cases h

lemma wcmpArgs_eq_some (h : wcmpArgs ws = some (c, rest)) : ∃ l s i v w n1 n2 n3 n4,
    unsignedLiteral 32 s = some n1 ∧ unsignedLiteral 32 i = some n2 ∧
      unsignedLiteral 16 v = some n3 ∧ unsignedLiteral 16 w = some n4 ∧
      c = .setWcmp l (some n1) (some n2) (some n3) (some n4) ∧
      ws = levelName l :: s :: i :: v :: w :: rest := by
  unfold wcmpArgs at h
  split at h
  · simp only [Option.bind_eq_bind, Option.bind_eq_some_iff] at h
    obtain ⟨l, hl, n1, hn1, n2, hn2, n3, hn3, n4, hn4, h⟩ := h
    obtain ⟨rfl, rfl⟩ := Prod.mk.inj (Option.some.inj h)
    exact ⟨l, _, _, _, _, n1, n2, n3, n4, hn1, hn2, hn3, hn4, rfl, by rw [eq_levelName hl]⟩
  · cases h

lemma migrateArgs_eq_some (h : migrateArgs ws = some (c, rest)) : ∃ s d p n1 n2 n3,
    unsignedLiteral 32 s = some n1 ∧ unsignedLiteral 32 d = some n2 ∧ signedLiteral 32 p = some n3 ∧
      c = .migrate (some n1) (some n2) (some n3) ∧ ws = s :: d :: p :: rest := by
  unfold migrateArgs at h
  split at h
  · simp only [Option.bind_eq_bind, Option.bind_eq_some_iff] at h
    obtain ⟨n1, hn1, n2, hn2, n3, hn3, h⟩ := h
    obtain ⟨rfl, rfl⟩ := Prod.mk.inj (Option.some.inj h)
    exact ⟨_, _, _, n1, n2, n3, hn1, hn2, hn3, rfl, rfl⟩
  · cases h

lemma command_eq_some (h : command ws = some (c, rest)) : ∃ type ws', ws = type :: ws' ∧
    ((∃ args, linkArgs ws' = some (args, rest) ∧
        (type = "LINK_DOWN".toList ∧ c = .linkDown args true ∨
          type = "LINK_UP".toList ∧ c = .linkUp args true)) ∨
      (∃ args v, linkArgs ws' = some (args, v :: rest) ∧
        (type = "SET_BW".toList ∧ c = .setBw args v ∨ type = "SET_DELAY".toList ∧ c = .setDelay args v ∨
          type = "SET_LOSS".toList ∧ c = .linkLoss args v)) ∨
      (type = "SET_WCMP".toList ∧ wcmpArgs ws' = some (c, rest)) ∨
      (type = "MIGRATE".toList ∧ migrateArgs ws' = some (c, rest))) := by
  cases ws with
  | nil => cases h
  | cons type ws' =>
    refine ⟨type, ws', rfl, ?_⟩
    rw [command] at h
    split_ifs at h with hdown hup hbw hdelay hloss hwcmp hmigrate
    · obtain ⟨⟨args, _⟩, hargs, h⟩ := Option.map_eq_some_iff.mp h
      obtain ⟨rfl, rfl⟩ := Prod.mk.inj h
      exact Or.inl ⟨args, hargs, Or.inl ⟨hdown, rfl⟩⟩
    · obtain ⟨⟨args, _⟩, hargs, h⟩ := Option.map_eq_some_iff.mp h
      obtain ⟨rfl, rfl⟩ := Prod.mk.inj h
      exact Or.inl ⟨args, hargs, Or.inr ⟨hup, rfl⟩⟩
    · obtain ⟨args, v, hargs, hc⟩ := linkSetting_eq_some h
      exact Or.inr (Or.inl ⟨args, v, hargs, Or.inl ⟨hbw, hc⟩⟩)
    · obtain ⟨args, v, hargs, hc⟩ := linkSetting_eq_some h
      exact Or.inr (Or.inl ⟨args, v, hargs, Or.inr (Or.inl ⟨hdelay, hc⟩)⟩)
    · obtain ⟨args, v, hargs, hc⟩ := linkSetting_eq_some h
      exact Or.inr (Or.inl ⟨args, v, hargs, Or.inr (Or.inr ⟨hloss, hc⟩)⟩)
    · exact Or.inr (Or.inr (Or.inl ⟨hwcmp, h⟩))
    · exact Or.inr (Or.inr (Or.inr ⟨hmigrate, h⟩))

lemma command_length (h : command ws = some (c, rest)) : rest.length < ws.length := by
  obtain ⟨type, ws', rfl, ⟨args, h, -⟩ | ⟨args, v, h, -⟩ | ⟨-, h⟩ | ⟨-, h⟩⟩ := command_eq_some h
  · obtain ⟨_, _, _, _, -, -, -, -, rfl⟩ := linkArgs_eq_some h
    simp only [List.length_cons]
    omega
  · obtain ⟨_, _, _, _, -, -, -, -, rfl⟩ := linkArgs_eq_some h
    simp only [List.length_cons]
    omega
  · obtain ⟨_, _, _, _, _, _, _, _, _, -, -, -, -, -, rfl⟩ := wcmpArgs_eq_some h
    simp only [List.length_cons]
    omega
  · obtain ⟨_, _, _, _, _, _, -, -, -, -, rfl⟩ := migrateArgs_eq_some h
    simp only [List.length_cons]
    omega

lemma commands_exist (ws : List Word) : ∃ cs rest, Commands ws cs rest ∧ command rest = none := by
  induction hn : ws.length using Nat.strong_induction_on generalizing ws with
  | _ n ih =>
    cases hc : command ws with
    | none => exact ⟨[], ws, .nil, hc⟩
    | some r =>
      obtain ⟨c, ws'⟩ := r
      obtain ⟨cs, rest, hcs, hrest⟩ := ih ws'.length (hn ▸ command_length hc) ws' rfl
      exact ⟨c :: cs, rest, .cons hc hcs, hrest⟩

lemma Commands.early (h : Commands ws cs rest) (hend : command rest = none)
    (h' : Commands ws cs' rest') : ∃ more, cs = cs' ++ more ∧ Commands rest' more rest := by
  induction h' generalizing cs with
  | nil => exact ⟨cs, rfl, h⟩
  | cons hc _ ih =>
    cases h with
    | nil =>
      rw [hend] at hc
      cases hc
    | cons hc' h =>
      rw [hc] at hc'
      obtain ⟨rfl, rfl⟩ := Prod.mk.inj (Option.some.inj hc')
      obtain ⟨more, rfl, hmore⟩ := ih h
      exact ⟨more, rfl, hmore⟩

end Commands

end SwarmSim.Scenario
