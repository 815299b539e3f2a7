import SwarmSim.Scenario.Parser

/-! When the parser does what the grammar says: on complete commands always, on what is left of
them only if a level is missed before a callback is made. -/

namespace SwarmSim.Scenario

open Machine Clos

structure ParsesExactly (ws : List Word) (r : ℤ × List Callback) : Prop where
  zero : r.1 = 0 ↔ ∃ cs, Commands ws cs []
  failed : r.1 ≠ 0 → r.1 = -1
  carried : ∃ rest, Commands ws r.2 rest
  longest : ∀ cs rest, Commands ws cs rest → cs.length ≤ r.2.length

def FirstLevelMissed (cs : List Callback) : List Word → Prop
  | [] => ∀ c ∈ cs, c.level? = none
  | w :: _ => topoLevelStr2enum w = none

def SecondLevelMissed : List Word → Prop
  | _ :: i :: ws => (scanUnsigned 32 i).good = true ∧
      ∃ w ∈ (if (scanUnsigned 32 i).rest = [] then ws else (scanUnsigned 32 i).rest :: ws).head?,
        topoLevelStr2enum w = none
  | _ => False

def TurnedDown (cs : List Callback) : List Word → Prop
  | [] => False
  | type :: ws =>
    if isLinkType type then FirstLevelMissed cs ws ∨ SecondLevelMissed ws
    else if sameCString type "SET_WCMP" then FirstLevelMissed cs ws
    else ¬sameCString type "MIGRATE" = true

section Exactness

variable {ws rest : List Word} {cs : List Callback} {token type : Word} {s : Stream} {c : Callback}
  {r : ℤ × List Callback}

lemma commands_nil (h : Commands [] cs rest) : rest = [] := by
  cases h with
  | nil => rfl
  | cons hc => cases hc

lemma parsesExactly_iff (h : Commands ws cs rest) (hend : command rest = none) :
    ParsesExactly ws r ↔ r = (if rest = [] then 0 else -1, cs) := by
  constructor
  · intro hr
    obtain ⟨rest', hcarried⟩ := hr.carried
    obtain ⟨more, hcs, -⟩ := h.early hend hcarried
    have hlong := hr.longest cs rest h
    rw [hcs, List.length_append] at hlong
    have hmore : more = [] := List.length_eq_zero_iff.mp (by omega)
    rw [hmore, List.append_nil] at hcs
    refine Prod.ext ?_ hcs.symm
    split_ifs with hrest
    · subst hrest
      exact hr.zero.mpr ⟨cs, h⟩
    · apply hr.failed
      intro hzero
      obtain ⟨cs', hall⟩ := hr.zero.mp hzero
      obtain ⟨more, -, hnil⟩ := h.early hend hall
      exact hrest (commands_nil hnil)
  · rintro rfl
    refine ⟨?_, ?_, ⟨rest, h⟩, fun cs' rest' h' => ?_⟩
    · split_ifs with hrest
      · subst hrest
        exact ⟨fun _ => ⟨cs, h⟩, fun _ => rfl⟩
      · refine ⟨fun hzero => (by cases hzero), ?_⟩
        rintro ⟨cs', hall⟩
        obtain ⟨more, -, hnil⟩ := h.early hend hall
        exact absurd (commands_nil hnil) hrest
    · split_ifs
      · exact fun hne => absurd rfl hne
      · exact fun _ => rfl
    · obtain ⟨more, rfl, -⟩ := h.early hend h'
      rw [List.length_append]
      exact Nat.le_add_right _ _

lemma readToken_fst : (readToken token s).1 =
    if s.good then s.words.head?.getD token else token := by
  obtain ⟨words, good⟩ := s
  cases good with
  | false => rfl
  | true =>
    cases words with
    | nil => rfl
    | cons => rfl

lemma token_level : topoLevelStr2enum (cs.foldl Callback.tokenAfter []) = none ↔
    ∀ c ∈ cs, c.level? = none := by
  induction cs using List.reverseRecOn with
  | nil => exact iff_of_true (by decide) (by simp)
  | append_singleton cs c ih =>
    rw [List.foldl_append, List.foldl_cons, List.foldl_nil, Callback.tokenAfter,
      List.forall_mem_append, List.forall_mem_singleton]
    cases c.level? with
    | none => simpa using ih
    | some l => simp

lemma parseLinkArgs_eq_none : parseLinkArgs token s = none ↔
    topoLevelStr2enum (readToken token s).1 = none ∨
    topoLevelStr2enum (readToken (readToken token s).1
      ((readToken token s).2.extract (scanUnsigned 32)).2).1 = none := by
  unfold parseLinkArgs
  dsimp only
  cases topoLevelStr2enum (readToken token s).1 with
  | none => simp
  | some l =>
    dsimp only
    cases topoLevelStr2enum (readToken (readToken token s).1
      ((readToken token s).2.extract (scanUnsigned 32)).2).1 with
    | none => simp
    | some l' => simp

lemma firstLevelMissed_iff : topoLevelStr2enum
    (readToken (cs.foldl Callback.tokenAfter []) ⟨ws, true⟩).1 = none ↔ FirstLevelMissed cs ws := by
  cases ws with
  | nil => exact token_level
  | cons w ws => rfl

lemma parseLinkArgs_missed : parseLinkArgs (cs.foldl Callback.tokenAfter []) ⟨ws, true⟩ = none ↔
    FirstLevelMissed cs ws ∨ SecondLevelMissed ws := by
  rw [parseLinkArgs_eq_none, firstLevelMissed_iff]
  refine or_congr_right' fun hfirst => ?_
  match ws with
  | [] => exact iff_of_false (firstLevelMissed_iff.not.mpr hfirst) id
  | [w] => exact iff_of_false hfirst id
  | w :: i :: ws =>
    rw [readToken_word, Stream.extract_cons, readToken_fst]
    unfold SecondLevelMissed
    dsimp only
    cases (scanUnsigned 32 i).good with
    | false => exact iff_of_false hfirst (by simp)
    | true =>
      cases (if (scanUnsigned 32 i).rest = [] then ws else (scanUnsigned 32 i).rest :: ws).head? with
      | none => exact iff_of_false hfirst (by simp)
      | some w' => simp

lemma parseCommand_eq_none :
    parseCommand type (cs.foldl Callback.tokenAfter []) ⟨ws, true⟩ = none ↔
      TurnedDown cs (type :: ws) := by
  rw [parseCommand, TurnedDown]
  split_ifs with hlink hwcmp hmigrate
  · rw [← parseLinkArgs_missed, parseLink]
    cases parseLinkArgs (cs.foldl Callback.tokenAfter []) ⟨ws, true⟩ with
    | none => simp
    | some r =>
      dsimp only
      split_ifs <;> simp
  · rw [← firstLevelMissed_iff, parseWcmp]
    cases h : topoLevelStr2enum (readToken (cs.foldl Callback.tokenAfter []) ⟨ws, true⟩).1 with
    | none => simp [h]
    | some l => simp [h]
  · simp [hmigrate]
  · simp [hmigrate]

/-- The parser follows the grammar on files of complete commands, and where what is left is turned
down. -/
theorem parse_exact (text : List Char) : ParsesExactly (words text) (parseSecnarioScript text) ↔
    ∃ cs rest, Commands (words text) cs rest ∧ command rest = none ∧
      (rest = [] ∨ TurnedDown cs rest) := by
  obtain ⟨cs, rest, h, hend⟩ := commands_exist (words text)
  obtain ⟨m, hm, hrun⟩ := @parseLoop_commands _ _ [] _ _ h le_rfl
  have hparse : parseSecnarioScript text = _ := hrun
  rw [parsesExactly_iff h hend, hparse]
  have hcond : (∃ cs rest, Commands (words text) cs rest ∧ command rest = none ∧
      (rest = [] ∨ TurnedDown cs rest)) ↔ rest = [] ∨ TurnedDown cs rest := by
    refine ⟨?_, fun hor => ⟨cs, rest, h, hend, hor⟩⟩
    rintro ⟨cs', rest', h', hend', hor⟩
    obtain ⟨more, rfl, hmore⟩ := h.early hend h'
    cases hmore with
    | nil => rwa [List.append_nil]
    | cons hc =>
      rw [hend'] at hc
      cases hc
  rw [hcond]
  cases rest with
  | nil =>
    have hstop : parseLoop m (cs.foldl Callback.tokenAfter []) ⟨[], true⟩ = (0, []) := by
      cases m <;> rfl
    rw [hstop]
    simp
  | cons type ws =>
    obtain ⟨m, rfl⟩ := Nat.exists_eq_succ_of_ne_zero (Nat.ne_of_gt (Nat.lt_of_lt_of_le (Nat.succ_pos _) hm))
    rw [← parseCommand_eq_none]
    by_cases hnone : parseCommand type (cs.foldl Callback.tokenAfter []) ⟨ws, true⟩ = none
    · rw [parseLoop_none hnone]
      simp [hnone]
    · have hcalls := @parseLoop_some ws _ type m hnone
      simp [hnone, hcalls]

theorem parse_truncated :
    parseSecnarioScript "LINK_DOWN EDGE 0 AGGREGATE\n".toList =
      (0, [.linkDown ⟨.edge, some 0, .aggregate, none⟩ true]) ∧
    ¬ParsesExactly (words "LINK_DOWN EDGE 0 AGGREGATE\n".toList)
      (parseSecnarioScript "LINK_DOWN EDGE 0 AGGREGATE\n".toList) := by
  have hparse : parseSecnarioScript "LINK_DOWN EDGE 0 AGGREGATE\n".toList =
      (0, [.linkDown ⟨.edge, some 0, .aggregate, none⟩ true]) := by decide +kernel
  refine ⟨hparse, fun h => ?_⟩
  rw [hparse, parsesExactly_iff .nil (by decide +kernel)] at h
  exact absurd h (by decide +kernel)

end Exactness

end SwarmSim.Scenario
