import SwarmSim.Flows.TrafficGen

/-! A generated file read by the flow scheduler. The number of flows is written over the estimate
without a look at the number of digits that it takes. -/

namespace SwarmSim.Flows

open Machine

namespace FlowScheduler

/-- What `m_current_flow` holds after each of `n` calls of `getNextFlow`. -/
def flowsRead : ℕ → FlowScheduler → List HostFlow
  | 0, _ => []
  | n + 1, fs => fs.getNextFlow.currentFlow :: flowsRead n fs.getNextFlow

end FlowScheduler

open FlowScheduler

structure ReadBack (fs : FlowScheduler) (flows : List HostFlow) : Prop where
  header : fs.numFlows = flows.length
  records : fs.flowsRead flows.length = flows

section Words

variable {nhost : ℕ} {printed : ℕ → ℕ} {f : Flow} {flows : List Flow} {text : List Char} {v : ℕ}
  {estimate : ℤ}

lemma formatFixed_isSpace : ∀ c ∈ formatFixed 9 v, isSpace c = false := by
  intro c hc
  rcases List.mem_append.mp hc with hc | hc
  · exact digits_isSpace hc
  · rcases List.mem_cons.mp hc with rfl | hc
    · decide
    · exact isSpace_of_isDigit (List.all_eq_true.mp leftpad_digits_all c hc)

lemma formatFixed_ne_nil : formatFixed 9 v ≠ [] := by simp [formatFixed]

lemma words_digits : words (digits v ++ ' ' :: text) = digits v :: words text :=
  words_cons (fun _ => digits_isSpace) (digits_ne_nil v) (by decide)

lemma words_time : words (formatFixed 9 v ++ '\n' :: text) = formatFixed 9 v :: words text :=
  words_cons formatFixed_isSpace formatFixed_ne_nil (by decide)

def Flow.words (printed : ℕ → ℕ) (f : Flow) : List (List Char) :=
  [digits f.src, digits f.dst, digits f.size, formatFixed 9 (printed f.t)]

lemma words_line : Machine.words (f.line printed ++ text) =
    f.words printed ++ Machine.words text := by
  unfold Flow.line
  simp only [List.append_assoc, List.cons_append, List.nil_append, words_digits, words_time]
  rfl

lemma words_lines : Machine.words (flows.flatMap (Flow.line printed)) =
    flows.flatMap (Flow.words printed) := by
  induction flows with
  | nil => rfl
  | cons f flows ih => rw [List.flatMap_cons, words_line, ih, List.flatMap_cons]

lemma read_flow (hn : nhost ≤ 65536) (hf : f.Proper nhost) (hsize : f.size < 2 ^ 32) (g : HostFlow)
    (ws : List (List Char)) :
    g.read ⟨f.words printed ++ ws, true⟩ = (f.written printed, ⟨ws, true⟩) := by
  have hsrc : f.src < 2 ^ 16 := hf.src.trans_le hn
  have hdst : f.dst < 2 ^ 16 := hf.dst.trans_le hn
  refine @HostFlow.read_words (f.written printed) _ _ _ _ ws ?_ ?_ ?_ ?_ g
  · exact List.append_nil (digits f.src) ▸ scanUnsigned_formatted hsrc (by simp)
  · exact List.append_nil (digits f.dst) ▸ scanUnsigned_formatted hdst (by simp)
  · exact List.append_nil (digits f.size) ▸ scanUnsigned_formatted hsize (by simp)
  · rw [scanDecimal_formatted (by decide)]
    rfl

lemma records_flows (hn : nhost ≤ 65536) (hf : ∀ f ∈ flows, f.Proper nhost)
    (hsize : ∀ f ∈ flows, f.size < 2 ^ 32) :
    Records ⟨flows.flatMap (Flow.words printed), true⟩ (flows.map (Flow.written printed))
      ⟨[], true⟩ := by
  induction flows with
  | nil => exact .nil
  | cons f flows ih =>
    obtain ⟨hproper, hf⟩ := List.forall_mem_cons.mp hf
    obtain ⟨hlt, hsize⟩ := List.forall_mem_cons.mp hsize
    rw [List.flatMap_cons, List.map_cons]
    exact .cons (fun g => read_flow hn hproper hlt g _) rfl (ih hf hsize)

end Words

section Reading

variable {fs : FlowScheduler} {flows : List HostFlow} {t : Stream}

lemma flowsRead_records (hm : fs.migrations = ∅) (h : Records fs.stream flows t) :
    fs.flowsRead flows.length = flows := by
  induction flows generalizing fs with
  | nil => rfl
  | cons f flows ih =>
    cases h with
    | cons hread _ htail =>
      rw [List.length_cons, flowsRead, getNextFlow_empty hm, hread]
      exact congrArg _ (ih hm htail)

lemma flowsRead_size_lt (hm : fs.migrations = ∅) (h : fs.currentFlow.size < 2 ^ 32) (n : ℕ) :
    ∀ f ∈ fs.flowsRead n, f.size < 2 ^ 32 := by
  induction n generalizing fs with
  | zero => simp [flowsRead]
  | succ n ih =>
    have hsize : fs.getNextFlow.currentFlow.size < 2 ^ 32 := by
      rw [getNextFlow_empty hm]
      exact extract_scanUnsigned_lt h
    rw [flowsRead]
    exact List.forall_mem_cons.mpr ⟨hsize, ih (by rw [getNextFlow_migrations, hm]) hsize⟩

end Reading

def Stuck (s : Stream) : Prop := s.good = false ∨ ∃ l ws, s.words = ('.' :: l) :: ws

section Stuck

variable {s : Stream} {width : ℕ} {v : ℕ} {ws : List (List Char)}

lemma Stuck.extract (h : Stuck s) : (s.extract (scanUnsigned width)).2.good = false ∧
    (s.extract (scanUnsigned width)).1.getD 0 = 0 := by
  obtain ⟨words, good⟩ := s
  cases good with
  | false => exact ⟨rfl, rfl⟩
  | true =>
    rcases h with h | ⟨l, ws, h⟩
    · cases h
    · obtain rfl : words = ('.' :: l) :: ws := h
      obtain ⟨hvalue, hgood⟩ := @scanUnsigned_undigits width ('.' :: l) (by simp [scanSign, Char.isDigit])
      rw [Stream.extract_cons]
      exact ⟨hgood, hvalue⟩

lemma stuck_time : Stuck (Stream.extract (scanUnsigned width) ⟨formatFixed 9 v :: ws, true⟩).2 := by
  rw [Stream.extract_cons, formatFixed,
    scanUnsigned_digits (digits_all _) (digits_ne_nil _) (by simp [Char.isDigit])]
  by_cases hlt : Nat.ofDigitChars 10 (digits (v / 10 ^ 9)) 0 < 2 ^ width
  · rw [if_pos hlt]
    exact Or.inr ⟨_, _, rfl⟩
  · rw [if_neg hlt]
    exact Or.inl rfl

lemma extract_digits : (Stream.extract (scanUnsigned width) ⟨digits v :: ws, true⟩).2.good = false ∨
    (Stream.extract (scanUnsigned width) ⟨digits v :: ws, true⟩).2 = ⟨ws, true⟩ := by
  rw [Stream.extract_cons, ← List.append_nil (digits v),
    scanUnsigned_digits (digits_all _) (digits_ne_nil _) (by simp)]
  by_cases hlt : Nat.ofDigitChars 10 (digits v) 0 < 2 ^ width
  · rw [if_pos hlt]
    exact Or.inr rfl
  · rw [if_neg hlt]
    exact Or.inl rfl

lemma Stuck.read_size
    (h : Stuck ((s.extract (scanUnsigned 16)).2.extract (scanUnsigned 16)).2) :
    (HostFlow.read {} s).1.size = 0 := (Stuck.extract h).2

lemma read_size_dot {l : List Char} : (HostFlow.read {} ⟨('.' :: l) :: ws, true⟩).1.size = 0 := by
  apply Stuck.read_size
  refine Or.inl (Stuck.extract (Or.inl ?_)).1
  exact (Stuck.extract (Or.inr ⟨l, ws, rfl⟩)).1

lemma read_size_time : (HostFlow.read {} ⟨formatFixed 9 v :: ws, true⟩).1.size = 0 := by
  apply Stuck.read_size
  exact Or.inl (Stuck.extract stuck_time).1

lemma read_size_size {u : ℕ} :
    (HostFlow.read {} ⟨digits u :: formatFixed 9 v :: ws, true⟩).1.size = 0 := by
  apply Stuck.read_size
  rcases @extract_digits 16 u (formatFixed 9 v :: ws) with h | h
  · exact Or.inl (Stuck.extract (Or.inl h)).1
  · rw [h]
    exact stuck_time

end Stuck

section Header

variable {n : ℕ} {c : Char} {r : List Char} {ws : List (List Char)}

lemma readHeader_words {w text : List Char} (h : words text = w :: ws) :
    readHeader text = (some (scanUnsigned 32 w).value,
      ⟨if (scanUnsigned 32 w).rest = [] then ws else (scanUnsigned 32 w).rest :: ws,
        (scanUnsigned 32 w).good⟩) := by
  unfold readHeader Stream.ofText
  rw [h, Stream.extract_cons]

lemma readHeader_digits (n : ℕ) (r : List Char) : ∃ w, readHeader (digits n ++ r) =
    (some (scanUnsigned 32 (digits n ++ w)).value,
      ⟨if (scanUnsigned 32 (digits n ++ w)).rest = [] then words (r.dropWhile (!isSpace ·))
        else (scanUnsigned 32 (digits n ++ w)).rest :: words (r.dropWhile (!isSpace ·)),
        (scanUnsigned 32 (digits n ++ w)).good⟩) ∧ w = r.takeWhile (!isSpace ·) :=
  ⟨_, readHeader_words (words_head (fun _ => digits_isSpace) (digits_ne_nil n)), rfl⟩

lemma readHeader_digit (hc : c.isDigit = true) (hn : 0 < n)
    (h : (readHeader (digits n ++ c :: r)).1 = some n) :
    (readHeader (digits n ++ c :: r)).2.good = false := by
  obtain ⟨w, hread, hw⟩ := readHeader_digits n (c :: r)
  rw [List.takeWhile_cons_of_pos (by simp [isSpace_of_isDigit hc])] at hw
  rw [hread] at h ⊢
  have hvalue := Option.some.inj h
  generalize r.takeWhile (!isSpace ·) = x at hw
  have hsplit : digits n ++ w = (digits n ++ c :: x.takeWhile Char.isDigit) ++ x.dropWhile Char.isDigit := by
    rw [hw, List.append_assoc, List.cons_append, List.takeWhile_append_dropWhile]
  have hall : (digits n ++ c :: x.takeWhile Char.isDigit).all Char.isDigit = true := by
    rw [List.all_append, digits_all, List.all_cons, hc, List.all_takeWhile]
    rfl
  have hrest : ∀ c ∈ (x.dropWhile Char.isDigit).head?, c.isDigit = false := by
    intro c hc
    have hnot := List.head?_dropWhile_not Char.isDigit x
    rw [Option.mem_def.mp hc] at hnot
    simpa using hnot
  rw [hsplit, scanUnsigned_digits hall (by simp) hrest] at hvalue ⊢
  by_cases hlt : Nat.ofDigitChars 10 (digits n ++ c :: x.takeWhile Char.isDigit) 0 < 2 ^ 32
  · exfalso
    rw [if_pos hlt] at hvalue
    rw [ofDigitChars_digits_append, List.length_cons] at hvalue
    have hpow : 1 ≤ 10 ^ (x.takeWhile Char.isDigit).length := Nat.one_le_pow _ _ (by decide)
    have hbig : 10 * n ≤ 10 ^ ((x.takeWhile Char.isDigit).length + 1) * n := by
      apply Nat.mul_le_mul_right
      rw [Nat.pow_succ]
      omega
    dsimp only at hvalue
    omega
  · rw [if_neg hlt]

lemma readHeader_stop (hn : n < 2 ^ 32) (hc : c.isDigit = false) (hs : isSpace c = false) :
    readHeader (digits n ++ c :: r) = (some n, ⟨(c :: r.takeWhile (!isSpace ·)) ::
      words (r.dropWhile (!isSpace ·)), true⟩) := by
  obtain ⟨w, hread, hw⟩ := readHeader_digits n (c :: r)
  rw [List.takeWhile_cons_of_pos (by simp [hs])] at hw
  rw [List.dropWhile_cons_of_pos (by simp [hs])] at hread
  rw [hread, scanUnsigned_formatted hn (by simp [hw, hc]), if_neg (by simp [hw]), hw]

lemma readHeader_space (hn : n < 2 ^ 32) (hs : isSpace c = true) :
    readHeader (digits n ++ c :: r) = (some n, ⟨words r, true⟩) := by
  obtain ⟨w, hread, hw⟩ := readHeader_digits n (c :: r)
  rw [List.takeWhile_cons_of_neg (by simp [hs])] at hw
  rw [List.dropWhile_cons_of_neg (by simp [hs]), words_space hs] at hread
  rw [hread, scanUnsigned_formatted hn (by simp [hw]), if_pos (by simp [hw])]

end Header

section Dropped

variable {v : ℕ} {c : Char} {b : List Char} {f : Flow} {printed : ℕ → ℕ}

lemma drop_digits (k : ℕ) : (∃ d l, d.isDigit = true ∧ (digits v ++ c :: b).drop k = d :: l) ∨
    (digits v ++ c :: b).drop k = c :: b ∨
    ∃ j, j + 2 ≤ k ∧ (digits v ++ c :: b).drop k = b.drop j := by
  have hpos : 0 < (digits v).length := List.length_pos_iff.mpr (digits_ne_nil v)
  rcases Nat.lt_or_ge k (digits v).length with hk | hk
  · refine Or.inl ⟨(digits v)[k], (digits v).drop (k + 1) ++ c :: b, ?_, ?_⟩
    · exact List.all_eq_true.mp (digits_all v) _ (List.getElem_mem hk)
    · rw [List.drop_append_of_le_length hk.le, List.drop_eq_getElem_cons hk, List.cons_append]
  · obtain ⟨j, rfl⟩ := Nat.exists_eq_add_of_le hk
    rw [List.drop_append, List.drop_eq_nil_of_le (Nat.le_add_right _ _), List.nil_append,
      Nat.add_sub_cancel_left]
    cases j with
    | zero => exact Or.inr (Or.inl rfl)
    | succ j => exact Or.inr (Or.inr ⟨j, by omega, rfl⟩)

lemma drop_line {more : List Char} {k : ℕ} (hk : k ≤ 8) :
    (∃ d l, d.isDigit = true ∧ (f.line printed ++ more).drop k = d :: l) ∨
    (∃ l, (f.line printed ++ more).drop k = ' ' :: (digits f.dst ++ ' ' :: l)) ∨
    (f.line printed ++ more).drop k =
      ' ' :: (digits f.size ++ ' ' :: (formatFixed 9 (printed f.t) ++ '\n' :: more)) ∨
    (f.line printed ++ more).drop k = ' ' :: (formatFixed 9 (printed f.t) ++ '\n' :: more) ∨
    ∃ l, (f.line printed ++ more).drop k = '.' :: l := by
  have hline : f.line printed ++ more = digits f.src ++ ' ' :: (digits f.dst ++ ' ' ::
      (digits f.size ++ ' ' :: (digits (printed f.t / 10 ^ 9) ++ '.' ::
        ((digits (printed f.t % 10 ^ 9)).leftpad 9 '0' ++ '\n' :: more)))) := by
    simp [Flow.line, formatFixed]
  have htime : formatFixed 9 (printed f.t) ++ '\n' :: more = digits (printed f.t / 10 ^ 9) ++ '.' ::
      ((digits (printed f.t % 10 ^ 9)).leftpad 9 '0' ++ '\n' :: more) := by
    simp [formatFixed]
  rw [hline, htime]
  rcases @drop_digits f.src ' ' _ k with h | h | ⟨j, hj, h⟩
  · exact Or.inl h
  · exact Or.inr (Or.inl ⟨_, h⟩)
  rw [h]
  rcases @drop_digits f.dst ' ' _ j with h | h | ⟨i, hi, h⟩
  · exact Or.inl h
  · exact Or.inr (Or.inr (Or.inl h))
  rw [h]
  rcases @drop_digits f.size ' ' _ i with h | h | ⟨m, hm, h⟩
  · exact Or.inl h
  · exact Or.inr (Or.inr (Or.inr (Or.inl h)))
  rw [h]
  rcases @drop_digits (printed f.t / 10 ^ 9) '.' _ m with h | h | ⟨p, hp, h⟩
  · exact Or.inl h
  · exact Or.inr (Or.inr (Or.inr (Or.inr ⟨_, h⟩)))
  -- three fields, the seconds and what separates them take eight characters at least
  obtain rfl : p = 0 := by omega
  rw [h, List.drop_zero]
  have hlen := leftpad_digits_length (Nat.mod_lt (printed f.t) (by decide : 0 < 10 ^ 9)) (by decide)
  cases hfrac : (digits (printed f.t % 10 ^ 9)).leftpad 9 '0' with
  | nil =>
    rw [hfrac] at hlen
    cases hlen
  | cons d l =>
    refine Or.inl ⟨d, l ++ '\n' :: more, ?_, rfl⟩
    have hall := @leftpad_digits_all (printed f.t % 10 ^ 9) 9
    rw [hfrac, List.all_cons, Bool.and_eq_true] at hall
    exact hall.1

lemma formatInt_tail (v : ℤ) : (formatInt v).tail.all Char.isDigit = true := by
  unfold formatInt
  split_ifs
  · exact digits_all _
  · refine List.all_eq_true.mpr fun c hc => ?_
    exact List.all_eq_true.mp (digits_all v.natAbs) c (List.mem_of_mem_tail hc)

lemma formatInt_ne_nil (v : ℤ) : formatInt v ≠ [] := by
  unfold formatInt
  split_ifs <;> simp

end Dropped

section Overwritten

variable {nhost uninit : ℕ} {printed : ℕ → ℕ} {f : Flow} {flows : List Flow} {estimate : ℤ}
  {rand : ℕ → ℕ} {text r : List Char} {g : HostFlow} {gs : List HostFlow} {c : Char}

lemma ReadBack.first (h : ReadBack (readFlowFile rand uninit text) (g :: gs)) :
    (HostFlow.read {} (readHeader text).2).1 = g := by
  have hrecords := h.records
  rw [List.length_cons, flowsRead] at hrecords
  obtain ⟨hfirst, -⟩ := List.cons.inj hrecords
  rw [← hfirst, getNextFlow_empty rfl]
  rfl

lemma ReadBack.readHeader {n : ℕ} {flows : List HostFlow}
    (h : ReadBack (readFlowFile rand uninit (digits n ++ r)) flows) :
    (readHeader (digits n ++ r)).1 = some flows.length := by
  have hheader : (Flows.readHeader (digits n ++ r)).1.getD uninit = flows.length := h.header
  obtain ⟨w, hw, -⟩ := readHeader_digits n r
  rw [hw] at hheader ⊢
  exact congrArg some hheader

lemma ReadBack.not_digit {n : ℕ} (hf : f.Proper nhost) (hn : n = flows.length + 1)
    (hc : c.isDigit = true) : ¬ReadBack (readFlowFile rand uninit (digits n ++ c :: r))
      ((f :: flows).map (Flow.written printed)) := by
  intro h
  have hheader := h.readHeader
  rw [List.length_map, List.length_cons, ← hn] at hheader
  have hbad := readHeader_digit hc (by omega) hheader
  have hfirst := h.first
  have hread : (HostFlow.read {} (Flows.readHeader (digits n ++ c :: r)).2).1 = {} := by
    unfold HostFlow.read
    simp only [Stream.extract_bad hbad]
    rfl
  rw [hread] at hfirst
  have hsrc : 0 = f.src := congrArg HostFlow.src hfirst
  have hdst : 0 = f.dst := congrArg HostFlow.dst hfirst
  exact hf.ne (hsrc.symm.trans hdst)

lemma ReadBack.not_longer {n k : ℕ} (hf : f.Proper nhost) (hnhost : nhost ≤ 65536)
    (hn : n = flows.length + 1) (hlt : n < 2 ^ 32) (hk : k ≤ 8) {more : List Char} :
    ¬ReadBack (readFlowFile rand uninit (digits n ++ (f.line printed ++ more).drop k))
      ((f :: flows).map (Flow.written printed)) := by
  rcases @drop_line f printed more k hk with ⟨d, l, hd, h⟩ | ⟨l, h⟩ | h | h | ⟨l, h⟩
  all_goals rw [h]
  · exact ReadBack.not_digit hf hn hd
  all_goals
    intro hback
    have hfirst := hback.first
    have hpos := hf.size
  · rw [readHeader_space hlt (by decide), words_digits] at hfirst
    have hsrc := congrArg HostFlow.src hfirst
    have hdst : scanUnsigned 16 (digits f.dst) = ⟨f.dst, [], true⟩ := by
      rw [← List.append_nil (digits f.dst)]
      exact scanUnsigned_formatted (hf.dst.trans_le hnhost) (by simp)
    simp only [HostFlow.read, Stream.extract_word hdst] at hsrc
    exact hf.ne hsrc.symm
  · rw [readHeader_space hlt (by decide), words_digits, words_time] at hfirst
    have hsize : 0 = f.size := read_size_size.symm.trans (congrArg HostFlow.size hfirst)
    omega
  · rw [readHeader_space hlt (by decide), words_time] at hfirst
    have hsize : 0 = f.size := read_size_time.symm.trans (congrArg HostFlow.size hfirst)
    omega
  · rw [readHeader_stop hlt (by decide) (by decide)] at hfirst
    have hsize : 0 = f.size := read_size_dot.symm.trans (congrArg HostFlow.size hfirst)
    omega

lemma ofDigitChars_eq_zero {l : List Char} (h : l.all Char.isDigit = true) :
    Nat.ofDigitChars 10 l 0 = 0 ↔ l.all (· = '0') = true := by
  induction l with
  | nil => simp
  | cons c l ih =>
    rw [List.all_cons, Bool.and_eq_true] at h
    have hc : c.toNat - '0'.toNat = 0 ↔ c = '0' := by
      constructor
      · intro hz
        have hge : 48 ≤ c.toNat := (Char.isDigit_iff_toNat.mp h.1).1
        have he : c.toNat = '0'.toNat := by
          change c.toNat - 48 = 0 at hz
          change c.toNat = 48
          omega
        exact Char.toNat_inj.mp he
      · rintro rfl
        rfl
    rw [Nat.ofDigitChars_cons, Nat.ofDigitChars_eq_ofDigitChars_zero, Nat.mul_zero, Nat.zero_add,
      Nat.add_eq_zero_iff, Nat.mul_eq_zero, hc, ih h.2]
    simp

lemma readBack_empty : ReadBack (readFlowFile rand uninit (trafficFile printed estimate [])) [] ↔
    (formatInt estimate).tail.all (· = '0') = true := by
  have htail := formatInt_tail estimate
  obtain ⟨c, hc⟩ : ∃ c, formatInt estimate = c :: (formatInt estimate).tail := by
    cases h : formatInt estimate with
    | nil => exact absurd h (formatInt_ne_nil estimate)
    | cons c l => exact ⟨c, rfl⟩
  generalize (formatInt estimate).tail = l at htail hc
  have hall : (digits 0 ++ l).all Char.isDigit = true := by rw [List.all_append, digits_all, htail]; rfl
  have htext : trafficFile printed estimate [] = (digits 0 ++ l) ++ '\n' :: [] := by
    unfold trafficFile overwrite
    rw [hc]
    rfl
  have hspace : ∀ c ∈ digits 0 ++ l, isSpace c = false :=
    fun c hc => isSpace_of_isDigit (List.all_eq_true.mp hall c hc)
  have hvalue : Nat.ofDigitChars 10 (digits 0 ++ l) 0 = Nat.ofDigitChars 10 l 0 := by
    rw [ofDigitChars_digits_append, Nat.mul_zero, Nat.zero_add]
  have hscan := @scanUnsigned_digits 32 (digits 0 ++ l) [] hall (by simp) (by simp)
  rw [List.append_nil, hvalue] at hscan
  have hnum : (readFlowFile rand uninit (trafficFile printed estimate [])).numFlows =
      (scanUnsigned 32 (digits 0 ++ l)).value := by
    change (readHeader (trafficFile printed estimate [])).1.getD uninit = _
    rw [htext, readHeader_words (words_cons hspace (by simp) (by decide))]
    rfl
  rw [← ofDigitChars_eq_zero htail]
  constructor
  · intro h
    have hheader := h.header
    rw [hnum, hscan] at hheader
    by_cases hlt : Nat.ofDigitChars 10 l 0 < 2 ^ 32
    · rwa [if_pos hlt] at hheader
    · rw [if_neg hlt] at hheader
      cases hheader
  · intro h
    refine ⟨?_, rfl⟩
    rw [hnum, hscan, h]
    rfl

lemma ReadBack.length_lt {n : ℕ} {flows : List HostFlow}
    (h : ReadBack (readFlowFile rand uninit (digits n ++ r)) flows) : flows.length < 2 ^ 32 := by
  have hheader := h.readHeader
  obtain ⟨w, hw, -⟩ := readHeader_digits n r
  rw [hw] at hheader
  rw [← Option.some.inj hheader]
  exact scanUnsigned_lt 32 _

lemma trafficFile_same (h : (digits flows.length).length = (formatInt estimate).length) :
    trafficFile printed estimate flows =
      digits flows.length ++ '\n' :: flows.flatMap (Flow.line printed) := by
  unfold trafficFile overwrite
  rw [h, List.drop_left]

lemma readBack_same (hnhost : nhost ≤ 65536) (hf : ∀ f ∈ flows, f.Proper nhost)
    (hsize : ∀ f ∈ flows, f.size < 2 ^ 32) (hlt : flows.length < 2 ^ 32)
    (h : (digits flows.length).length = (formatInt estimate).length) :
    ReadBack (readFlowFile rand uninit (trafficFile printed estimate flows))
      (flows.map (Flow.written printed)) := by
  have hread : readHeader (trafficFile printed estimate flows) =
      (some flows.length, ⟨flows.flatMap (Flow.words printed), true⟩) := by
    rw [trafficFile_same h, readHeader_space hlt (by decide), words_lines]
  refine ⟨?_, flowsRead_records (t := ⟨[], true⟩) rfl ?_⟩
  · change (readHeader (trafficFile printed estimate flows)).1.getD uninit = _
    rw [hread, List.length_map]
    rfl
  · change Records (readHeader (trafficFile printed estimate flows)).2 _ _
    rw [hread]
    exact records_flows hnhost hf hsize

lemma readBack_length (hnhost : nhost ≤ 65536) (hf : (f :: flows).length < 2 ^ 32)
    (hproper : f.Proper nhost)
    (h : ReadBack (readFlowFile rand uninit (trafficFile printed estimate (f :: flows)))
      ((f :: flows).map (Flow.written printed))) :
    (digits (f :: flows).length).length = (formatInt estimate).length := by
  unfold trafficFile overwrite at h
  rcases Nat.lt_trichotomy (digits (f :: flows).length).length (formatInt estimate).length with
    hlen | hlen | hlen
  · exfalso
    -- a digit of the estimate follows the number
    have hpos : 0 < (digits (f :: flows).length).length :=
      List.length_pos_iff.mpr (digits_ne_nil _)
    rw [List.drop_append_of_le_length hlen.le, List.drop_eq_getElem_cons hlen, List.cons_append] at h
    refine ReadBack.not_digit hproper rfl ?_ h
    refine List.all_eq_true.mp (formatInt_tail estimate) _ ?_
    obtain ⟨m, hm⟩ := Nat.exists_eq_add_of_le' hpos
    simp only [hm] at hlen ⊢
    rw [← List.getElem_tail (by rw [List.length_tail]; omega)]
    exact List.getElem_mem _
  · exact hlen
  · exfalso
    have hbound : (digits (f :: flows).length).length ≤ 10 :=
      (Nat.length_toDigits_le_iff (by decide) (by decide)).mpr (by omega)
    have hpos : 0 < (formatInt estimate).length :=
      List.length_pos_iff.mpr (formatInt_ne_nil estimate)
    obtain ⟨k, hk⟩ := Nat.exists_eq_add_of_lt hlen
    rw [List.drop_append, List.drop_eq_nil_of_le hlen.le, List.nil_append, hk,
      Nat.add_assoc, Nat.add_sub_cancel_left, List.drop_succ_cons, List.flatMap_cons] at h
    exact ReadBack.not_longer hproper hnhost rfl hf (by omega) h

/-- The file reads back when the number of flows has as many digits as the estimate, or when there
are no flows and the rest of the estimate is zeros. -/
theorem traffic_read_back {endTime : ℚ} {draws : List (Draw nhost)} {start : Fin nhost → ℕ}
    (hnhost : nhost ≤ 65536) (h : generate endTime draws (hostList start) = some flows) :
    ReadBack (readFlowFile rand uninit (trafficFile printed estimate flows))
        (flows.map (Flow.written printed)) ↔
      draws.length - nhost < 2 ^ 32 ∧ (∀ d ∈ draws, ∀ z ∈ d.size, z < 2 ^ 32) ∧
        ((digits (draws.length - nhost)).length = (formatInt estimate).length ∨
          draws.length = nhost ∧ (formatInt estimate).tail.all (· = '0') = true) := by
  have hlength : draws.length = flows.length + nhost := by
    rw [generate_length h, hostList_length]
  have hproper := generate_proper h
  rw [hlength, Nat.add_sub_cancel, ← generate_sizes h, Nat.add_eq_right]
  constructor
  · intro hback
    have hlt : flows.length < 2 ^ 32 := by
      rw [← List.length_map (Flow.written printed)]
      exact hback.length_lt
    refine ⟨hlt, fun f hf => ?_, ?_⟩
    · have hread := hback.records
      have hmem : f.written printed ∈ (readFlowFile rand uninit
          (trafficFile printed estimate flows)).flowsRead (flows.map (Flow.written printed)).length := by
        rw [hread]
        exact List.mem_map_of_mem hf
      exact flowsRead_size_lt rfl (by decide : 0 < 2 ^ 32) _ _ hmem
    · cases flows with
      | nil => exact Or.inr ⟨rfl, readBack_empty.mp hback⟩
      | cons f flows =>
        exact Or.inl (readBack_length hnhost hlt (hproper f List.mem_cons_self) hback)
  · rintro ⟨hlt, hsize, hlen | ⟨hnone, hzero⟩⟩
    · exact readBack_same hnhost hproper hsize hlt hlen
    · obtain rfl := List.length_eq_zero_iff.mp hnone
      exact readBack_empty.mpr hzero

def threeRounds : List (Draw 2) :=
  let a : Fin 2 := ⟨0, Nat.zero_lt_two⟩
  let b : Fin 2 := ⟨1, Nat.one_lt_two⟩
  [⟨500, [a, b], some 40⟩, ⟨2000, [a], none⟩, ⟨2000, [b], none⟩]

lemma generate_threeRounds :
    generate 1000001000 threeRounds (hostList fun _ => 0) = some [⟨0, 1, 40, 1000000000⟩] := by
  decide +kernel

theorem traffic_read_back_one : ReadBack
    (readFlowFile (fun _ => 0) 0 (trafficFile id 2 [⟨0, 1, 40, 1000000000⟩]))
    [⟨0, 1, 1, 40⟩] := by
  have hwritten : [⟨0, 1, 40, 1000000000⟩].map (Flow.written id) = [⟨0, 1, 1, 40⟩] := by
    decide +kernel
  rw [← hwritten]
  exact (traffic_read_back (by decide) generate_threeRounds).mpr (by decide)

theorem traffic_ten_for_one :
    generate 1000001000 threeRounds (hostList fun _ => 0) = some [⟨0, 1, 40, 1000000000⟩] ∧
      trafficFile id 10 [⟨0, 1, 40, 1000000000⟩] = "10\n0 1 40 1.000000000\n".toList ∧
      ¬ReadBack (readFlowFile (fun _ => 0) 0 (trafficFile id 10 [⟨0, 1, 40, 1000000000⟩]))
        ([⟨0, 1, 40, 1000000000⟩].map (Flow.written id)) :=
  ⟨generate_threeRounds, by decide, fun h => absurd h.header (by decide +kernel)⟩

end Overwritten

end SwarmSim.Flows
