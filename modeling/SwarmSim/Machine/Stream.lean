import Mathlib.Data.Rat.Defs
import Mathlib.Tactic

/-! Formatted input from a text stream. Every extraction skips white space, so that a stream is
the list of the words that are left; a number takes what it can from the front of a word. -/

namespace SwarmSim.Machine

/-- `isspace` in the "C" locale. -/
def isSpace (c : Char) : Bool := c = ' ' || ('\t' ≤ c && c ≤ '\r')

def words (text : List Char) : List (List Char) := (text.splitOnP isSpace).filter (!·.isEmpty)

section Words

variable {c : Char} {w text : List Char}

lemma isSpace_of_isDigit (h : c.isDigit = true) : isSpace c = false := by
  simp only [Char.isDigit, Bool.and_eq_true, decide_eq_true_eq] at h
  simp only [isSpace, Bool.or_eq_false_iff, decide_eq_false_iff_not, Bool.and_eq_false_iff]
  refine ⟨?_, Or.inr fun hle => ?_⟩
  · rintro rfl
    exact absurd h.1 (by decide)
  · exact absurd (UInt32.le_trans h.1 hle) (by decide)

lemma words_space (h : isSpace c = true) : words (c :: text) = words text := by
  simp [words, List.splitOnP_cons_eq_if_modifyHead, h]

lemma words_cons (hw : ∀ c ∈ w, isSpace c = false) (hne : w ≠ []) (h : isSpace c = true) :
    words (w ++ c :: text) = w :: words text := by
  simp [words, List.splitOnP_append_cons_of_forall_mem hw c h, hne]

lemma words_word (hw : ∀ c ∈ w, isSpace c = false) (hne : w ≠ []) : words w = [w] := by
  unfold words
  rw [List.splitOnP_eq_singleton hw]
  simp [hne]

lemma words_head (hw : ∀ c ∈ w, isSpace c = false) (hne : w ≠ []) :
    words (w ++ text) =
      (w ++ text.takeWhile (!isSpace ·)) :: words (text.dropWhile (!isSpace ·)) := by
  have hword : ∀ c ∈ w ++ text.takeWhile (!isSpace ·), isSpace c = false := by
    intro c hc
    rcases List.mem_append.mp hc with hc | hc
    · exact hw c hc
    · simpa using List.all_eq_true.mp List.all_takeWhile c hc
  have hne' : w ++ text.takeWhile (!isSpace ·) ≠ [] := by simp [hne]
  conv_lhs => rw [← List.takeWhile_append_dropWhile (p := (!isSpace ·)) (l := text), ← List.append_assoc]
  cases hrest : text.dropWhile (!isSpace ·) with
  | nil =>
    rw [List.append_nil, words_word hword hne']
    rfl
  | cons c rest =>
    have hc : isSpace c = true := by
      have hhead := List.head?_dropWhile_not (!isSpace ·) text
      simpa [hrest] using hhead
    rw [words_cons hword hne' hc, words_space hc]

end Words

structure Scan (α : Type*) where
  value : α
  rest : List Char
  good : Bool
  deriving DecidableEq

structure Stream where
  words : List (List Char)
  good : Bool
  deriving DecidableEq

namespace Stream

variable {α : Type*}

def ofText (text : List Char) : Stream := ⟨Machine.words text, true⟩

def close (_ : Stream) : Stream := ⟨[], false⟩

/-- No value means that the variable keeps the one it has. -/
def extract (scan : List Char → Scan α) (s : Stream) : Option α × Stream :=
  if !s.good then (none, s)
  else
    match s.words with
    | [] => (none, { s with good := false })
    | w :: ws =>
      let r := scan w
      (some r.value, ⟨if r.rest = [] then ws else r.rest :: ws, r.good⟩)

variable {scan : List Char → Scan α} {s : Stream} {w : List Char} {ws : List (List Char)} {v : α}

lemma extract_bad (h : s.good = false) : s.extract scan = (none, s) := by
  rw [extract, h]
  rfl

lemma extract_cons : extract scan ⟨w :: ws, true⟩ = (some (scan w).value,
    ⟨if (scan w).rest = [] then ws else (scan w).rest :: ws, (scan w).good⟩) := rfl

lemma extract_word (h : scan w = ⟨v, [], true⟩) :
    extract scan ⟨w :: ws, true⟩ = (some v, ⟨ws, true⟩) := by
  simp [extract, h]

end Stream

def scanWord (w : List Char) : Scan (List Char) := ⟨w, [], true⟩

def scanSign : List Char → Bool × List Char
  | '-' :: l => (true, l)
  | '+' :: l => (false, l)
  | l => (false, l)

/-- An unsigned field takes a minus sign and negates in its own arithmetic. -/
def scanUnsigned (width : ℕ) (w : List Char) : Scan ℕ :=
  let (neg, l) := scanSign w
  let digits := l.takeWhile Char.isDigit
  let rest := l.dropWhile Char.isDigit
  let m := Nat.ofDigitChars 10 digits 0
  if digits = [] then ⟨0, rest, false⟩
  else if m < 2 ^ width then ⟨if neg then (2 ^ width - m) % 2 ^ width else m, rest, true⟩
  else ⟨2 ^ width - 1, rest, false⟩

def scanSigned (width : ℕ) (w : List Char) : Scan ℤ :=
  let (neg, l) := scanSign w
  let digits := l.takeWhile Char.isDigit
  let rest := l.dropWhile Char.isDigit
  let m : ℤ := Nat.ofDigitChars 10 digits 0
  if digits = [] then ⟨0, rest, false⟩
  else if neg then
    if m ≤ 2 ^ (width - 1) then ⟨-m, rest, true⟩ else ⟨-2 ^ (width - 1), rest, false⟩
  else
    if m < 2 ^ (width - 1) then ⟨m, rest, true⟩ else ⟨2 ^ (width - 1) - 1, rest, false⟩

def scanMantissa (l : List Char) : List Char × List Char × List Char :=
  let whole := l.takeWhile Char.isDigit
  match l.dropWhile Char.isDigit with
  | '.' :: l => (whole, l.takeWhile Char.isDigit, l.dropWhile Char.isDigit)
  | l => (whole, [], l)

def scanExponent (v : ℚ) (l : List Char) : Scan ℚ :=
  if l.head? = some 'e' ∨ l.head? = some 'E' then
    let (neg, l) := scanSign l.tail
    let digits := l.takeWhile Char.isDigit
    let rest := l.dropWhile Char.isDigit
    let e := Nat.ofDigitChars 10 digits 0
    if digits = [] then ⟨0, rest, false⟩
    else ⟨if neg then v / 10 ^ e else v * 10 ^ e, rest, true⟩
  else ⟨v, l, true⟩

/-- The number as it is written. The rounding to a `double` is left to those who use it. -/
def scanDecimal (w : List Char) : Scan ℚ :=
  let (neg, l) := scanSign w
  let (whole, frac, l) := scanMantissa l
  let m : ℚ := Nat.ofDigitChars 10 (whole ++ frac) 0 / 10 ^ frac.length
  if whole ++ frac = [] then ⟨0, l, false⟩ else scanExponent (if neg then -m else m) l

def intLiteral (w : List Char) : Option ℤ :=
  let (neg, l) := scanSign w
  if l ≠ [] ∧ l.all Char.isDigit then
    let m : ℤ := Nat.ofDigitChars 10 l 0
    some (if neg then -m else m)
  else none

def unsignedLiteral (width : ℕ) (w : List Char) : Option ℕ :=
  (intLiteral w).bind fun v => if 0 ≤ v ∧ v < 2 ^ width then some v.toNat else none

def signedLiteral (width : ℕ) (w : List Char) : Option ℤ :=
  (intLiteral w).filter fun v => -2 ^ (width - 1) ≤ v ∧ v < 2 ^ (width - 1)

lemma scanExponent_bad {v : ℚ} {l : List Char} (h : (scanExponent v l).good = false) :
    (scanExponent v l).value = 0 := by
  unfold scanExponent at h ⊢
  dsimp only at h ⊢
  split_ifs at h ⊢
  rfl

lemma scanDecimal_bad {w : List Char} (h : (scanDecimal w).good = false) :
    (scanDecimal w).value = 0 := by
  unfold scanDecimal at h ⊢
  dsimp only at h ⊢
  by_cases hnil : (scanMantissa (scanSign w).2).1 ++ (scanMantissa (scanSign w).2).2.1 = []
  · rw [if_pos hnil]
  · rw [if_neg hnil] at h ⊢
    exact scanExponent_bad h

section Literals

variable {width : ℕ} {w ds rest : List Char}

lemma takeWhile_isDigit (h : ds.all Char.isDigit = true) (hr : ∀ c ∈ rest.head?, c.isDigit = false) :
    (ds ++ rest).takeWhile Char.isDigit = ds ∧ (ds ++ rest).dropWhile Char.isDigit = rest := by
  have hall : ∀ c ∈ ds, c.isDigit = true := List.all_eq_true.mp h
  rw [List.takeWhile_append_of_pos hall, List.dropWhile_append_of_pos hall]
  cases rest with
  | nil => simp
  | cons c rest =>
    have hc := hr c rfl
    simp [hc]

lemma scanSign_digits (h : ds.all Char.isDigit = true) (hne : ds ≠ []) :
    scanSign (ds ++ rest) = (false, ds ++ rest) := by
  cases ds with
  | nil => exact absurd rfl hne
  | cons d ds =>
    have hd : d.isDigit = true := by simp_all
    unfold scanSign
    split
    · rename_i he
      cases he
      cases hd
    · rename_i he
      cases he
      cases hd
    · rfl

lemma scanUnsigned_digits (h : ds.all Char.isDigit = true) (hne : ds ≠ [])
    (hr : ∀ c ∈ rest.head?, c.isDigit = false) :
    scanUnsigned width (ds ++ rest) = if Nat.ofDigitChars 10 ds 0 < 2 ^ width then
      ⟨Nat.ofDigitChars 10 ds 0, rest, true⟩ else ⟨2 ^ width - 1, rest, false⟩ := by
  obtain ⟨ht, hd⟩ := takeWhile_isDigit h hr
  simp only [scanUnsigned, scanSign_digits h hne, ht, hd, if_neg hne]
  rfl

lemma scanUnsigned_lt (width : ℕ) (w : List Char) : (scanUnsigned width w).value < 2 ^ width := by
  have hpos : 0 < 2 ^ width := Nat.two_pow_pos width
  unfold scanUnsigned
  dsimp only
  split_ifs with hnil hlt hneg
  · exact hpos
  · exact Nat.mod_lt _ hpos
  · exact hlt
  · exact Nat.sub_lt hpos Nat.one_pos

lemma intLiteral_eq_some {v : ℤ} (h : intLiteral w = some v) :
    (scanSign w).2 ≠ [] ∧ (scanSign w).2.all Char.isDigit = true ∧
      v = if (scanSign w).1 then -(Nat.ofDigitChars 10 (scanSign w).2 0 : ℤ)
        else Nat.ofDigitChars 10 (scanSign w).2 0 := by
  unfold intLiteral at h
  dsimp only at h
  split_ifs at h with hl
  all_goals exact ⟨hl.1, hl.2, by simp_all⟩

lemma scanUnsigned_literal {v : ℕ} (h : unsignedLiteral width w = some v) :
    scanUnsigned width w = ⟨v, [], true⟩ := by
  obtain ⟨m, hm, hv⟩ := Option.bind_eq_some_iff.mp h
  split_ifs at hv with hrange
  obtain ⟨hne, hall, hval⟩ := intLiteral_eq_some hm
  obtain ⟨ht, hd⟩ := @takeWhile_isDigit (scanSign w).2 [] hall (by simp)
  rw [List.append_nil] at ht hd
  obtain rfl := Option.some.inj hv
  simp only [scanUnsigned, ht, hd, if_neg hne]
  generalize Nat.ofDigitChars 10 (scanSign w).2 0 = k at *
  have hk : k < 2 ^ width := by
    have hlt : (k : ℤ) < 2 ^ width := by
      split_ifs at hval
      · have hpow : (0 : ℤ) < 2 ^ width := by positivity
        omega
      · omega
    exact_mod_cast hlt
  rw [if_pos hk]
  congr 1
  split_ifs at hval ⊢
  · obtain rfl : k = 0 := by omega
    rw [hval]
    simp
  · omega

lemma scanSigned_literal {v : ℤ} (h : signedLiteral width w = some v) :
    scanSigned width w = ⟨v, [], true⟩ := by
  obtain ⟨hm, hrange⟩ := Option.filter_eq_some_iff.mp h
  rw [decide_eq_true_eq] at hrange
  obtain ⟨hne, hall, hval⟩ := intLiteral_eq_some hm
  obtain ⟨ht, hd⟩ := @takeWhile_isDigit (scanSign w).2 [] hall (by simp)
  rw [List.append_nil] at ht hd
  simp only [scanSigned, ht, hd, if_neg hne]
  split_ifs at hval ⊢
  · rw [hval]
  · omega
  · rw [hval]
  · omega

end Literals

end SwarmSim.Machine
