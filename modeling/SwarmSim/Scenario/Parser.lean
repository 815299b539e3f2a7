import SwarmSim.Scenario.Grammar

/-! The scenario parser. It reads every argument without a look at the state of the stream, and
`token` keeps the last level that was read. -/

namespace SwarmSim.Scenario

open Machine Clos

/-- `!strcmp(w.c_str(), s)`. -/
def sameCString (w : Word) (s : String) : Bool := w.takeWhile (· ≠ '\x00') = s.toList

/-- `script >> token`. -/
def readToken (token : Word) (s : Stream) : Word × Stream :=
  let (w, s) := s.extract scanWord
  (w.getD token, s)

/-- Both levels and both indices. There is no result where the source goes to `fail`. -/
def parseLinkArgs (token : Word) (s : Stream) : Option (LinkArgs × Word × Stream) :=
  let (token, s) := readToken token s
  match topoLevelStr2enum token with
  | none => none
  | some level1 =>
    let (index1, s) := s.extract (scanUnsigned 32)
    let (token, s) := readToken token s
    match topoLevelStr2enum token with
    | none => none
    | some level2 =>
      let (index2, s) := s.extract (scanUnsigned 32)
      some (⟨level1, index1, level2, index2⟩, token, s)

def parseLink (type token : Word) (s : Stream) : Option (Callback × Word × Stream) :=
  match parseLinkArgs token s with
  | none => none
  | some (args, token, s) =>
    if sameCString type "LINK_DOWN" then some (.linkDown args true, token, s)
    else if sameCString type "LINK_UP" then some (.linkUp args true, token, s)
    else
      let (rateOrDelay, s) := readToken [] s
      if sameCString type "SET_BW" then some (.setBw args rateOrDelay, token, s)
      else if sameCString type "SET_LOSS" then some (.linkLoss args rateOrDelay, token, s)
      else some (.setDelay args rateOrDelay, token, s)

def parseWcmp (token : Word) (s : Stream) : Option (Callback × Word × Stream) :=
  let (token, s) := readToken token s
  match topoLevelStr2enum token with
  | none => none
  | some topoLevel =>
    let (switchIndex, s) := s.extract (scanUnsigned 32)
    let (ifIndex, s) := s.extract (scanUnsigned 32)
    let (level, s) := s.extract (scanUnsigned 16)
    let (weight, s) := s.extract (scanUnsigned 16)
    some (.setWcmp topoLevel switchIndex ifIndex level weight, token, s)

def parseMigrate (token : Word) (s : Stream) : Callback × Word × Stream :=
  let (src, s) := s.extract (scanUnsigned 32)
  let (dst, s) := s.extract (scanUnsigned 32)
  let (percent, s) := s.extract (scanSigned 32)
  (.migrate src dst percent, token, s)

def isLinkType (type : Word) : Bool :=
  sameCString type "LINK_DOWN" || sameCString type "LINK_UP" || sameCString type "SET_BW" ||
    sameCString type "SET_DELAY" || sameCString type "SET_LOSS"

def parseCommand (type token : Word) (s : Stream) : Option (Callback × Word × Stream) :=
  if isLinkType type then parseLink type token s
  else if sameCString type "SET_WCMP" then parseWcmp token s
  else if sameCString type "MIGRATE" then some (parseMigrate token s)
  else none

/-- The loop, at most `n` times, with the value returned and the callbacks made. Every round takes
a word at least. -/
def parseLoop : ℕ → Word → Stream → ℤ × List Callback
  | 0, _, _ => (0, [])
  | n + 1, token, s =>
    match s.extract scanWord with
    | (none, _) => (0, [])
    | (some type, s) =>
      match parseCommand type token s with
      | none => (-1, [])
      | some (call, token, s) =>
        let (result, calls) := parseLoop n token s
        (result, call :: calls)

def parseSecnarioScript (text : List Char) : ℤ × List Callback :=
  parseLoop (words text).length [] (.ofText text)

section Parsing

variable {ws rest : List Word} {c : Callback} {args : LinkArgs} {token type : Word} {n : ℕ}
  {cs : List Callback} {s : Stream}

lemma extract_unsigned {width v : ℕ} {w : Word} (h : unsignedLiteral width w = some v) :
    Stream.extract (scanUnsigned width) ⟨w :: ws, true⟩ = (some v, ⟨ws, true⟩) :=
  Stream.extract_word (scanUnsigned_literal h)

lemma extract_signed {width : ℕ} {v : ℤ} {w : Word} (h : signedLiteral width w = some v) :
    Stream.extract (scanSigned width) ⟨w :: ws, true⟩ = (some v, ⟨ws, true⟩) :=
  Stream.extract_word (scanSigned_literal h)

lemma readToken_word {w : Word} : readToken token ⟨w :: ws, true⟩ = (w, ⟨ws, true⟩) := rfl

lemma parseLinkArgs_eq (h : linkArgs ws = some (args, rest)) :
    parseLinkArgs token ⟨ws, true⟩ = some (args, levelName args.level2, ⟨rest, true⟩) := by
  obtain ⟨i1, i2, n1, n2, hn1, hn2, h1, h2, rfl⟩ := linkArgs_eq_some h
  simp only [parseLinkArgs, readToken_word, topoLevelStr2enum_name, extract_unsigned hn1,
    extract_unsigned hn2, ← h1, ← h2]

/-- After a command, `token` is the last level that the command names. -/
def Callback.tokenAfter (token : Word) (c : Callback) : Word := c.level?.elim token levelName

lemma parseCommand_eq (h : command (type :: ws) = some (c, rest)) :
    parseCommand type token ⟨ws, true⟩ = some (c, c.tokenAfter token, ⟨rest, true⟩) := by
  obtain ⟨_, _, he, hcases⟩ := command_eq_some h
  obtain ⟨rfl, rfl⟩ := List.cons.inj he
  rcases hcases with ⟨args, hargs, hkind⟩ | ⟨args, v, hargs, hkind⟩ | ⟨rfl, hwcmp⟩ | ⟨rfl, hmigrate⟩
  · have hlink := @parseLinkArgs_eq _ _ _ token hargs
    rcases hkind with ⟨rfl, rfl⟩ | ⟨rfl, rfl⟩
    all_goals
      rw [parseCommand, if_pos (by decide), parseLink, hlink]
      rfl
  · have hlink := @parseLinkArgs_eq _ _ _ token hargs
    rcases hkind with ⟨rfl, rfl⟩ | ⟨rfl, rfl⟩ | ⟨rfl, rfl⟩
    all_goals
      rw [parseCommand, if_pos (by decide), parseLink, hlink]
      rfl
  · obtain ⟨l, _, _, _, _, n1, n2, n3, n4, hn1, hn2, hn3, hn4, rfl, rfl⟩ := wcmpArgs_eq_some hwcmp
    rw [parseCommand, if_neg (by decide), if_pos (by decide)]
    simp only [parseWcmp, readToken_word, topoLevelStr2enum_name, extract_unsigned hn1,
      extract_unsigned hn2, extract_unsigned hn3, extract_unsigned hn4]
    rfl
  · obtain ⟨_, _, _, n1, n2, n3, hn1, hn2, hn3, rfl, rfl⟩ := migrateArgs_eq_some hmigrate
    rw [parseCommand, if_neg (by decide), if_neg (by decide), if_pos (by decide)]
    simp only [parseMigrate, extract_unsigned hn1, extract_unsigned hn2, extract_signed hn3]
    rfl

lemma parseLoop_command (h : command ws = some (c, rest)) :
    parseLoop (n + 1) token ⟨ws, true⟩ =
      ((parseLoop n (c.tokenAfter token) ⟨rest, true⟩).1,
        c :: (parseLoop n (c.tokenAfter token) ⟨rest, true⟩).2) := by
  cases ws with
  | nil => cases h
  | cons type ws =>
    have hword : Stream.extract scanWord ⟨type :: ws, true⟩ = (some type, ⟨ws, true⟩) := rfl
    rw [parseLoop, hword]
    simp only [parseCommand_eq h]

lemma parseLoop_commands (h : Commands ws cs rest) (hn : ws.length ≤ n) : ∃ m, rest.length ≤ m ∧
    parseLoop n token ⟨ws, true⟩ =
      ((parseLoop m (cs.foldl Callback.tokenAfter token) ⟨rest, true⟩).1,
        cs ++ (parseLoop m (cs.foldl Callback.tokenAfter token) ⟨rest, true⟩).2) := by
  induction h generalizing n token with
  | nil => exact ⟨n, hn, rfl⟩
  | cons hc _ ih =>
    have hlen := command_length hc
    cases n with
    | zero => omega
    | succ n =>
      obtain ⟨m, hm, hrun⟩ := @ih (Callback.tokenAfter token _) n (by omega)
      refine ⟨m, hm, ?_⟩
      rw [parseLoop_command hc, hrun]
      rfl

lemma parseLoop_none (h : parseCommand type token ⟨ws, true⟩ = none) :
    parseLoop (n + 1) token ⟨type :: ws, true⟩ = (-1, []) := by
  have hword : Stream.extract scanWord ⟨type :: ws, true⟩ = (some type, ⟨ws, true⟩) := rfl
  rw [parseLoop, hword]
  simp only [h]

lemma parseLoop_some (h : parseCommand type token ⟨ws, true⟩ ≠ none) :
    (parseLoop (n + 1) token ⟨type :: ws, true⟩).2 ≠ [] := by
  have hword : Stream.extract scanWord ⟨type :: ws, true⟩ = (some type, ⟨ws, true⟩) := rfl
  rw [parseLoop, hword]
  obtain ⟨r, hr⟩ := Option.ne_none_iff_exists'.mp h
  simp [hr]

end Parsing

end SwarmSim.Scenario
