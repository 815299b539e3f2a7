import Mathlib.Data.List.DropRight
import SwarmSim.Machine.Print

/-! Files that are read in the text mode of Python: every end of a line becomes a `\n`, and lines
are read with it. -/

namespace SwarmSim.Machine

/-- `str.isspace`. -/
def pySpace (c : Char) : Bool :=
  let n := c.toNat
  (9 ≤ n && n ≤ 13) || (28 ≤ n && n ≤ 32) || n = 0x85 || n = 0xa0 || n = 0x1680 ||
    (0x2000 ≤ n && n ≤ 0x200a) || n = 0x2028 || n = 0x2029 || n = 0x202f || n = 0x205f || n = 0x3000

def strip (l : List Char) : List Char := (l.dropWhile pySpace).rdropWhile pySpace

def universalNewlines : List Char → List Char
  | [] => []
  | '\r' :: '\n' :: l => '\n' :: universalNewlines l
  | '\r' :: l => '\n' :: universalNewlines l
  | c :: l => c :: universalNewlines l

def readline : List Char → List Char
  | [] => []
  | c :: l => if c = '\n' then ['\n'] else c :: readline l

def readlines : List Char → List (List Char)
  | [] => []
  | c :: l =>
    if c = '\n' then ['\n'] :: readlines l
    else
      match readlines l with
      | [] => [[c]]
      | w :: ws => (c :: w) :: ws

def IsLine (l : List Char) : Prop := ∀ c ∈ l, c ≠ '\n' ∧ c ≠ '\r'

instance : DecidablePred IsLine := fun l => List.decidableBAll (fun c => c ≠ '\n' ∧ c ≠ '\r') l

def IsWord (l : List Char) : Prop := ∀ c ∈ l, pySpace c = false

instance : DecidablePred IsWord := fun l => List.decidableBAll (fun c => pySpace c = false) l

def unlines (ls : List (List Char)) : List Char := ls.flatMap (· ++ ['\n'])

section Strip

variable {l : List Char}

lemma pySpace_of_isDigit {c : Char} (h : c.isDigit = true) : pySpace c = false := by
  simp only [Char.isDigit, Bool.and_eq_true, decide_eq_true_eq] at h
  have hlo : 48 ≤ c.toNat := h.1
  have hhi : c.toNat ≤ 57 := h.2
  simp only [pySpace, Bool.or_eq_false_iff, Bool.and_eq_false_iff, decide_eq_false_iff_not]
  omega

lemma IsWord.isLine (h : IsWord l) : IsLine l := by
  intro c hc
  constructor <;> rintro rfl <;> exact absurd (h _ hc) (by decide)

lemma isWord_digits (n : ℕ) : IsWord (digits n) :=
  fun c hc => pySpace_of_isDigit (List.all_eq_true.mp (digits_all n) c hc)

lemma IsWord.strip_eq (h : IsWord l) : strip l = l := by
  have hdrop : l.dropWhile pySpace = l := by
    rw [List.dropWhile_eq_self_iff]
    intro hl
    simp [h _ (List.getElem_mem hl)]
  rw [strip, hdrop, List.rdropWhile_eq_self_iff]
  intro hl
  simp [h _ (List.getLast_mem hl)]

lemma strip_append_newline (l : List Char) : strip (l ++ ['\n']) = strip l := by
  have hspace : pySpace '\n' = true := by decide
  rw [strip, strip, List.dropWhile_append]
  cases hl : l.dropWhile pySpace with
  | nil => simp [hspace]
  | cons c w =>
    rw [if_neg (by simp), List.rdropWhile_concat_pos _ _ _ hspace]

lemma IsLine.strip (h : IsLine l) : IsLine (strip l) := by
  intro c hc
  have hdrop : c ∈ l.dropWhile pySpace := (List.rdropWhile_prefix pySpace _).subset hc
  exact h c ((List.dropWhile_sublist pySpace).subset hdrop)

end Strip

section Lines

variable {l rest : List Char} {ls ls' : List (List Char)}

lemma IsLine.append {l' : List Char} (h : IsLine l) (h' : IsLine l') : IsLine (l ++ l') := by
  intro c hc
  rcases List.mem_append.mp hc with hc | hc
  · exact h c hc
  · exact h' c hc

lemma unlines_cons (l : List Char) (ls : List (List Char)) :
    unlines (l :: ls) = l ++ '\n' :: unlines ls := by
  rw [unlines, List.flatMap_cons, List.append_assoc]
  rfl

lemma unlines_eq_flatten (ls : List (List Char)) : unlines ls = (ls.map (· ++ ['\n'])).flatten :=
  List.flatMap_def

lemma universalNewlines_eq_self (h : '\r' ∉ l) : universalNewlines l = l := by
  fun_induction universalNewlines l with
  | case1 => rfl
  | case2 => simp at h
  | case3 => simp at h
  | case4 c l _ _ ih => rw [ih fun hl => h (List.mem_cons_of_mem c hl)]

lemma universalNewlines_unlines (h : ∀ l ∈ ls, IsLine l) :
    universalNewlines (unlines ls) = unlines ls := by
  apply universalNewlines_eq_self
  intro hmem
  obtain ⟨l, hl, hc⟩ := List.mem_flatMap.mp hmem
  rcases List.mem_append.mp hc with hc | hc
  · exact (h l hl '\r' hc).2 rfl
  · exact absurd (List.mem_singleton.mp hc) (by decide)

lemma readline_append (h : IsLine l) : readline (l ++ '\n' :: rest) = l ++ ['\n'] := by
  induction l with
  | nil => rfl
  | cons c l ih =>
    rw [List.cons_append, readline, if_neg (h c List.mem_cons_self).1,
      ih fun d hd => h d (List.mem_cons_of_mem c hd)]
    rfl

lemma readlines_append (h : IsLine l) :
    readlines (l ++ '\n' :: rest) = (l ++ ['\n']) :: readlines rest := by
  induction l with
  | nil => rfl
  | cons c l ih =>
    rw [List.cons_append, readlines, if_neg (h c List.mem_cons_self).1,
      ih fun d hd => h d (List.mem_cons_of_mem c hd)]
    rfl

lemma readlines_unlines (h : ∀ l ∈ ls, IsLine l) : readlines (unlines ls) = ls.map (· ++ ['\n']) := by
  induction ls with
  | nil => rfl
  | cons l ls ih =>
    rw [unlines_cons, readlines_append (h l List.mem_cons_self),
      ih fun w hw => h w (List.mem_cons_of_mem l hw), List.map_cons]

lemma unlines_inj (h : ∀ l ∈ ls, IsLine l) (h' : ∀ l ∈ ls', IsLine l) :
    unlines ls = unlines ls' ↔ ls = ls' := by
  constructor
  · intro heq
    have hmap := congrArg readlines heq
    rw [readlines_unlines h, readlines_unlines h'] at hmap
    exact List.map_injective_iff.mpr (List.append_left_injective ['\n']) hmap
  · exact congrArg unlines

end Lines

end SwarmSim.Machine
