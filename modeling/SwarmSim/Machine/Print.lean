import Mathlib.Data.List.DropRight
import SwarmSim.Machine.Double
import SwarmSim.Machine.Stream

namespace SwarmSim.Machine

/-- `%d` of a number that is not negative. -/
abbrev digits (n : ℕ) : List Char := Nat.toDigits 10 n

def formatInt (v : ℤ) : List Char := if v < 0 then '-' :: digits v.natAbs else digits v.natAbs

/-- `v` in units of the last of its `places` decimals. -/
def formatFixed (places v : ℕ) : List Char :=
  digits (v / 10 ^ places) ++ '.' :: (digits (v % 10 ^ places)).leftpad places '0'

/-- `m * 10 ^ e` with one digit before the point and no zeros at the end. -/
def formatExponent (m e : ℕ) : List Char :=
  let places := (digits m).tail
  let frac := places.rdropWhile (· = '0')
  (digits m).take 1 ++ ((if frac = [] then [] else '.' :: frac) ++
    ('e' :: '+' :: (digits (e + places.length)).leftpad 2 '0'))

def droppedPlaces (n : ℕ) : ℕ := (digits n).length - 6

def sixDigits (n : ℕ) : ℕ := (roundEven (n / 10 ^ droppedPlaces n)).toNat

/-- A number that is not negative as a stream prints it with a precision of six. -/
def formatGeneral (n : ℕ) : List Char :=
  if n < 10 ^ 6 then digits n else formatExponent (sixDigits n) (droppedPlaces n)

def generalValue (n : ℕ) : ℕ := if n < 10 ^ 6 then n else sixDigits n * 10 ^ droppedPlaces n

section Digits

variable {n places v width : ℕ} {rest l : List Char}

lemma digits_all (n : ℕ) : (digits n).all Char.isDigit = true :=
  List.all_eq_true.mpr fun _ hc => Nat.isDigit_of_mem_toDigits (by decide) (by decide) hc

lemma digits_isSpace {c : Char} (h : c ∈ digits n) : isSpace c = false :=
  isSpace_of_isDigit (List.all_eq_true.mp (digits_all n) c h)

lemma digits_ne_nil (n : ℕ) : digits n ≠ [] := Nat.toDigits_ne_nil

lemma ofDigitChars_digits_append (n : ℕ) (l : List Char) :
    Nat.ofDigitChars 10 (digits n ++ l) 0 = 10 ^ l.length * n + Nat.ofDigitChars 10 l 0 := by
  rw [Nat.ofDigitChars_append, Nat.ofDigitChars_ten_toDigits, Nat.ofDigitChars_eq_ofDigitChars_zero]

lemma scanSign_digits_self (n : ℕ) : scanSign (digits n) = (false, digits n) := by
  simpa using @scanSign_digits (digits n) [] (digits_all n) (digits_ne_nil n)

lemma intLiteral_digits (n : ℕ) : intLiteral (digits n) = some (n : ℤ) := by
  rw [intLiteral, scanSign_digits_self]
  dsimp only
  rw [if_pos ⟨digits_ne_nil n, digits_all n⟩, Nat.ofDigitChars_ten_toDigits]
  rfl

lemma scanUnsigned_formatted (hn : n < 2 ^ width) (hr : ∀ c ∈ rest.head?, c.isDigit = false) :
    scanUnsigned width (digits n ++ rest) = ⟨n, rest, true⟩ := by
  rw [scanUnsigned_digits (digits_all n) (digits_ne_nil n) hr, Nat.ofDigitChars_ten_toDigits,
    if_pos hn]

lemma scanUnsigned_undigits (h : ∀ c ∈ (scanSign l).2.head?, c.isDigit = false) :
    (scanUnsigned width l).value = 0 ∧ (scanUnsigned width l).good = false := by
  have hnil : (scanSign l).2.takeWhile Char.isDigit = [] := by
    cases hl : (scanSign l).2 with
    | nil => rfl
    | cons c l' =>
      rw [hl] at h
      exact List.takeWhile_cons_of_neg (by simp [h c rfl])
  simp [scanUnsigned, hnil]

lemma leftpad_digits_all : ((digits n).leftpad places '0').all Char.isDigit = true := by
  simp only [List.leftpad, List.all_append, Bool.and_eq_true]
  refine ⟨?_, digits_all n⟩
  simp only [List.all_eq_true, List.mem_replicate]
  rintro c ⟨-, rfl⟩
  rfl

lemma leftpad_digits_length (h : n < 10 ^ places) (hp : 0 < places) :
    ((digits n).leftpad places '0').length = places := by
  have hlen := (Nat.length_toDigits_le_iff (by decide) hp).mpr h
  rw [List.leftpad, List.length_append, List.length_replicate]
  exact Nat.sub_add_cancel hlen

lemma ofDigitChars_leftpad : Nat.ofDigitChars 10 ((digits n).leftpad places '0') 0 = n := by
  rw [List.leftpad, Nat.ofDigitChars_append, Nat.ofDigitChars_replicate_zero, Nat.mul_zero,
    Nat.ofDigitChars_ten_toDigits]

lemma scanDecimal_formatted (hp : 0 < places) :
    scanDecimal (formatFixed places v) = ⟨v / 10 ^ places, [], true⟩ := by
  have hmod : v % 10 ^ places < 10 ^ places := Nat.mod_lt _ (by positivity)
  have hlen := leftpad_digits_length hmod hp
  have hvalue : Nat.ofDigitChars 10 (digits (v / 10 ^ places) ++
      (digits (v % 10 ^ places)).leftpad places '0') 0 = v := by
    rw [ofDigitChars_digits_append, hlen, ofDigitChars_leftpad]
    exact Nat.div_add_mod v (10 ^ places)
  obtain ⟨hwhole, hdot⟩ := @takeWhile_isDigit (digits (v / 10 ^ places))
    ('.' :: (digits (v % 10 ^ places)).leftpad places '0') (digits_all _) (by simp)
  obtain ⟨hfrac, hrest⟩ := @takeWhile_isDigit ((digits (v % 10 ^ places)).leftpad places '0') []
    leftpad_digits_all (by simp)
  rw [List.append_nil] at hfrac hrest
  unfold scanDecimal formatFixed
  rw [scanSign_digits (digits_all _) (digits_ne_nil _)]
  simp only [scanMantissa, hwhole, hdot, hfrac, hrest, hvalue, hlen]
  rw [if_neg (by simp)]
  rfl

lemma scanDecimal_digits (n : ℕ) : scanDecimal (digits n) = ⟨n, [], true⟩ := by
  obtain ⟨hwhole, hrest⟩ := @takeWhile_isDigit (digits n) [] (digits_all n) (by simp)
  rw [List.append_nil] at hwhole hrest
  unfold scanDecimal
  rw [scanSign_digits_self]
  simp only [scanMantissa, hwhole, hrest]
  rw [List.append_nil, if_neg (digits_ne_nil n), Nat.ofDigitChars_ten_toDigits, List.length_nil,
    pow_zero, div_one]
  rfl

lemma exists_zeros (l : List Char) : ∃ k, l = l.rdropWhile (· = '0') ++ List.replicate k '0' := by
  refine ⟨(l.rtakeWhile (· = '0')).length, ?_⟩
  have hzeros : l.rtakeWhile (· = '0') = List.replicate (l.rtakeWhile (· = '0')).length '0' := by
    apply List.eq_replicate_length.mpr
    intro c hc
    simpa using List.mem_rtakeWhile_imp hc
  rw [← hzeros, List.rdropWhile_append_rtakeWhile]

lemma scanExponent_leftpad (v : ℚ) (e : ℕ) :
    scanExponent v ('e' :: '+' :: (digits e).leftpad 2 '0') = ⟨v * 10 ^ e, [], true⟩ := by
  obtain ⟨hdigits, hrest⟩ := @takeWhile_isDigit ((digits e).leftpad 2 '0') [] leftpad_digits_all (by simp)
  rw [List.append_nil] at hdigits hrest
  have hne : (digits e).leftpad 2 '0' ≠ [] := by
    rw [List.leftpad]
    exact List.append_ne_nil_of_right_ne_nil _ (digits_ne_nil e)
  unfold scanExponent
  rw [if_pos (.inl rfl)]
  simp only [List.tail_cons, scanSign, hdigits, hrest, ofDigitChars_leftpad]
  rw [if_neg hne]
  rfl

lemma scanMantissa_point {d : Char} {frac tail : List Char} (hd : d.isDigit = true)
    (hfrac : frac.all Char.isDigit = true) (htail : ∀ c ∈ tail.head?, c.isDigit = false)
    (hpoint : tail.head? ≠ some '.') :
    scanMantissa (d :: ((if frac = [] then [] else '.' :: frac) ++ tail)) = ([d], frac, tail) := by
  have hwhole : ∀ rest : List Char, (∀ c ∈ rest.head?, c.isDigit = false) →
      (d :: rest).takeWhile Char.isDigit = [d] ∧ (d :: rest).dropWhile Char.isDigit = rest :=
    fun rest hr => @takeWhile_isDigit [d] rest (by simp [hd]) hr
  split_ifs with hnil
  · obtain ⟨ht, hr⟩ := hwhole tail htail
    simp only [scanMantissa, List.nil_append, ht, hr, hnil]
    split
    · exact absurd rfl hpoint
    · rfl
  · obtain ⟨ht, hr⟩ := hwhole ('.' :: (frac ++ tail)) (by simp)
    obtain ⟨ht', hr'⟩ := takeWhile_isDigit hfrac htail
    simp only [scanMantissa, List.cons_append, ht, hr, ht', hr']

lemma scanSign_formatExponent (m e : ℕ) : scanSign (formatExponent m e) = (false, formatExponent m e) := by
  obtain ⟨d, places, hm⟩ := List.exists_cons_of_ne_nil (digits_ne_nil m)
  have hd : [d].all Char.isDigit = true := by
    have hall := digits_all m
    rw [hm, List.all_cons, Bool.and_eq_true] at hall
    simpa using hall.1
  rw [formatExponent, hm]
  exact scanSign_digits hd (List.cons_ne_nil d [])

lemma scanDecimal_formatExponent (m e : ℕ) :
    scanDecimal (formatExponent m e) = ⟨m * 10 ^ e, [], true⟩ := by
  obtain ⟨d, places, hm⟩ := List.exists_cons_of_ne_nil (digits_ne_nil m)
  have hall : (d :: places).all Char.isDigit = true := hm ▸ digits_all m
  rw [List.all_cons, Bool.and_eq_true] at hall
  obtain ⟨hd, hplaces⟩ := hall
  obtain ⟨k, hk⟩ := exists_zeros places
  generalize hfrac : places.rdropWhile (· = '0') = frac at hk
  rw [hk, List.all_append, Bool.and_eq_true] at hplaces
  have hvalue : (Nat.ofDigitChars 10 (d :: frac) 0 : ℚ) * 10 ^ k = m := by
    have hcat : Nat.ofDigitChars 10 (d :: frac ++ List.replicate k '0') 0 = m := by
      rw [List.cons_append, ← hk, ← hm, Nat.ofDigitChars_ten_toDigits]
    rw [Nat.ofDigitChars_append, Nat.ofDigitChars_replicate_zero] at hcat
    rw [mul_comm]
    exact_mod_cast hcat
  have hlen : places.length = frac.length + k := by
    rw [hk, List.length_append, List.length_replicate]
  have htext : formatExponent m e = d :: ((if frac = [] then [] else '.' :: frac) ++
      ('e' :: '+' :: (digits (e + places.length)).leftpad 2 '0')) := by
    simp only [formatExponent, hm, List.tail_cons, hfrac, List.take_succ_cons, List.take_zero,
      List.cons_append, List.nil_append]
  have hscan := @scanMantissa_point d frac ('e' :: '+' :: (digits (e + places.length)).leftpad 2 '0')
    hd hplaces.1 (by simp) (by simp)
  unfold scanDecimal
  rw [scanSign_formatExponent, htext]
  simp only [hscan, List.singleton_append]
  rw [if_neg (List.cons_ne_nil d frac), scanExponent_leftpad, hlen, ← hvalue, pow_add, pow_add]
  simp only [Bool.false_eq_true, if_false]
  congr 1
  field_simp

lemma scanSign_formatGeneral (n : ℕ) : scanSign (formatGeneral n) = (false, formatGeneral n) := by
  rw [formatGeneral]
  split_ifs
  · exact scanSign_digits_self n
  · exact scanSign_formatExponent _ _

lemma scanDecimal_formatGeneral (n : ℕ) : scanDecimal (formatGeneral n) = ⟨generalValue n, [], true⟩ := by
  rw [formatGeneral, generalValue]
  split_ifs
  · exact scanDecimal_digits n
  · rw [scanDecimal_formatExponent]
    push_cast
    rfl

end Digits

end SwarmSim.Machine
