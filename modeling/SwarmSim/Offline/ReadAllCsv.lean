import SwarmSim.Machine.Loop
import SwarmSim.Offline.Tables

namespace SwarmSim.Offline

open Machine

inductive ScriptError
  | fileNotFoundError (path : List Char)
  | typeError
  deriving DecidableEq

/-- The directory, the prefix of the names and `int(args.count)`. -/
structure Args where
  dir : List Char
  pre : List Char
  count : ℤ

/-- `os.path.join`. -/
def pathJoin (dir name : List Char) : List Char :=
  if name.head? = some '/' then name
  else if dir = [] ∨ dir.getLast? = some '/' then dir ++ name
  else dir ++ '/' :: name

namespace Args

def name (args : Args) (i : ℕ) : List Char :=
  args.pre ++ '-' :: (digits i ++ ['.', 'c', 's', 'v'])

def path (args : Args) (i : ℕ) : List Char := pathJoin args.dir (args.name i)

end Args

section Paths

variable {dir name name' : List Char} {order : List ℕ} {i : ℕ}

lemma pathJoin_inj (hhead : name.head? = name'.head?) (h : pathJoin dir name = pathJoin dir name') :
    name = name' := by
  rw [pathJoin, pathJoin, hhead] at h
  split_ifs at h
  · exact h
  · exact List.append_cancel_left h
  · exact List.cons_injective (List.append_cancel_left h)

lemma digits_injective : Function.Injective digits := by
  intro i j h
  have hvalue := congrArg (fun l => Nat.ofDigitChars 10 l 0) h
  simpa only [Nat.ofDigitChars_ten_toDigits] using hvalue

lemma Args.name_injective (args : Args) : Function.Injective args.name := by
  intro i j h
  have htail := List.cons_injective (List.append_cancel_left h)
  exact digits_injective (List.append_cancel_right htail)

lemma Args.path_injective (args : Args) : Function.Injective args.path := by
  intro i j h
  apply args.name_injective
  apply pathJoin_inj _ h
  cases args with
  | mk dir pre count => cases pre <;> rfl

def written (path content : ℕ → List Char) (order : List ℕ)
    (files : List Char → Option (List Char)) : List Char → Option (List Char) :=
  order.foldl (fun files i => Function.update files (path i) (some (content i))) files

lemma written_path {path content : ℕ → List Char} {files : List Char → Option (List Char)}
    (hpath : Function.Injective path) (hi : i ∈ order) :
    written path content order files (path i) = some (content i) := by
  induction order using List.reverseRecOn with
  | nil => cases hi
  | append_singleton order j ih =>
    rw [written, List.foldl_append, List.foldl_cons, List.foldl_nil]
    by_cases hj : i = j
    · rw [hj, Function.update_self]
    · rw [Function.update_of_ne (hpath.ne hj)]
      apply ih
      rcases List.mem_append.mp hi with hi | hi
      · exact hi
      · exact absurd (List.mem_singleton.mp hi) hj

end Paths

structure Progress where
  firstLine : Option (List Char)
  results : List (List Char)

namespace Progress

def readFile (csvfile : List Char) (s : Progress) : Progress :=
  -- `not first_line` holds of `None` and of the empty line
  if s.firstLine.getD [] = [] then { s with firstLine := some (strip (readline csvfile)) }
  else { s with results := s.results ++ (readlines csvfile).drop 1 }

lemma readFile_first {csvfile : List Char} {s : Progress} (h : s.firstLine.getD [] = []) :
    s.readFile csvfile = { s with firstLine := some (strip (readline csvfile)) } := if_pos h

lemma readFile_next {csvfile : List Char} {s : Progress} (h : s.firstLine.getD [] ≠ []) :
    s.readFile csvfile = { s with results := s.results ++ (readlines csvfile).drop 1 } := if_neg h

def output (s : Progress) : Except ScriptError (List Char) :=
  match s.firstLine with
  | none => .error .typeError
  | some line => .ok (((line ++ ['\n']) :: s.results).flatten ++ ['\n'])

end Progress

def openFile (files : List Char → Option (List Char)) (args : Args) (i : ℕ) (s : Progress) :
    Except ScriptError Progress :=
  match files (args.path i) with
  | none => .error (.fileNotFoundError (args.path i))
  | some text => .ok (s.readFile (universalNewlines text))

def readAllCsv (files : List Char → Option (List Char)) (args : Args) :
    Except ScriptError (List Char) :=
  (forRangeM (openFile files args) args.count.toNat ⟨none, []⟩).bind Progress.output

section Merge

variable (files : List Char → Option (List Char)) (args : Args) (header : List Char)
  (rows : ℕ → List (List Char))

structure CsvFiles : Prop where
  count : 1 ≤ args.count
  nonempty : header ≠ []
  headerLine : IsLine header
  rowLine (i : ℕ) : i < args.count.toNat → ∀ row ∈ rows i, IsLine row
  file (i : ℕ) : i < args.count.toNat → files (args.path i) = some (unlines (header :: rows i))

/-- The header once and all rows in the order of the files; `print` adds an end of line. -/
def MergesAll : Prop :=
  readAllCsv files args =
    .ok (unlines (header :: (List.range args.count.toNat).flatMap rows) ++ ['\n'])

def keptRows (k : ℕ) : List (List Char) :=
  if strip header = [] then [] else (List.range (k - 1)).flatMap fun i => rows (i + 1)

def progress (k : ℕ) : Progress :=
  ⟨if k = 0 then none else some (strip header), (keptRows header rows k).map (· ++ ['\n'])⟩

end Merge

section Merge

variable {files : List Char → Option (List Char)} {args : Args} {header : List Char}
  {rows : ℕ → List (List Char)} {k : ℕ}

lemma CsvFiles.one_le (h : CsvFiles files args header rows) : 1 ≤ args.count.toNat := by
  have hcount := h.count
  omega

lemma CsvFiles.fileLine (h : CsvFiles files args header rows) (hk : k < args.count.toNat) :
    ∀ l ∈ header :: rows k, IsLine l := by
  intro l hl
  rcases List.mem_cons.mp hl with rfl | hl
  · exact h.headerLine
  · exact h.rowLine k hk l hl

lemma CsvFiles.keptLine (h : CsvFiles files args header rows) :
    ∀ l ∈ strip header :: keptRows header rows args.count.toNat, IsLine l := by
  intro l hl
  rcases List.mem_cons.mp hl with rfl | hl
  · exact h.headerLine.strip
  · rw [keptRows] at hl
    split_ifs at hl
    · cases hl
    · obtain ⟨i, hi, hl⟩ := List.mem_flatMap.mp hl
      have hi := List.mem_range.mp hi
      exact h.rowLine (i + 1) (by omega) l hl

lemma keptRows_first (hk : k ≤ 1) : keptRows header rows k = [] := by
  rw [keptRows, Nat.sub_eq_zero_of_le hk]
  split_ifs <;> rfl

lemma keptRows_succ (hstrip : strip header ≠ []) :
    keptRows header rows (k + 2) = keptRows header rows (k + 1) ++ rows (k + 1) := by
  rw [keptRows, keptRows, if_neg hstrip, if_neg hstrip, Nat.add_sub_cancel]
  change (List.range (k + 1)).flatMap _ = _
  rw [List.range_succ, List.flatMap_append, List.flatMap_singleton]

lemma progress_zero : progress header rows 0 = ⟨none, []⟩ := by
  rw [progress, keptRows_first zero_le_one]
  rfl

lemma progress_succ : progress header rows (k + 1) =
    ⟨some (strip header), (keptRows header rows (k + 1)).map (· ++ ['\n'])⟩ := rfl

lemma readFile_progress (hl : ∀ l ∈ header :: rows k, IsLine l) :
    (progress header rows k).readFile (unlines (header :: rows k)) =
      progress header rows (k + 1) := by
  have hheader : strip (readline (unlines (header :: rows k))) = strip header := by
    rw [unlines_cons, readline_append (hl header List.mem_cons_self), strip_append_newline]
  cases k with
  | zero =>
    rw [progress_zero, Progress.readFile_first rfl, hheader, progress_succ, keptRows_first le_rfl]
    rfl
  | succ k =>
    have hfirst : (progress header rows (k + 1)).firstLine.getD [] = strip header := rfl
    by_cases hstrip : strip header = []
    · rw [Progress.readFile_first (hfirst.trans hstrip), hheader, progress_succ, progress_succ,
        keptRows, keptRows, if_pos hstrip, if_pos hstrip]
    · rw [Progress.readFile_next (hfirst.trans_ne hstrip), readlines_unlines hl, progress_succ,
        progress_succ, keptRows_succ hstrip, List.map_append]
      rfl

lemma CsvFiles.readAllCsv_eq (h : CsvFiles files args header rows) : readAllCsv files args =
    .ok (unlines (strip header :: keptRows header rows args.count.toNat) ++ ['\n']) := by
  have hread : ∀ i s, i < args.count.toNat → True →
      openFile files args i s = .ok (s.readFile (unlines (header :: rows i))) ∧ True := by
    intro i s hi _
    rw [openFile, h.file i hi]
    dsimp only
    rw [universalNewlines_unlines (h.fileLine hi)]
    exact ⟨rfl, trivial⟩
  obtain ⟨hrun, -⟩ := forRangeM_ok (s := ⟨none, []⟩) trivial hread
  have hprogress : forRange (fun i s => Progress.readFile (unlines (header :: rows i)) s)
      args.count.toNat ⟨none, []⟩ = progress header rows args.count.toNat := by
    apply forRange_invariant (P := fun i s => s = progress header rows i)
    · exact progress_zero.symm
    · rintro i s hi rfl
      exact readFile_progress (h.fileLine hi)
  have hcount : args.count.toNat ≠ 0 := Nat.one_le_iff_ne_zero.mp h.one_le
  rw [readAllCsv, hrun, hprogress, Except.bind, Progress.output, progress]
  simp only [if_neg hcount]
  rw [unlines_eq_flatten, List.map_cons]

lemma CsvFiles.mergesAll_lines (h : CsvFiles files args header rows) :
    MergesAll files args header rows ↔ strip header = header ∧
      keptRows header rows args.count.toNat = (List.range args.count.toNat).flatMap rows := by
  have hline : ∀ l ∈ header :: (List.range args.count.toNat).flatMap rows, IsLine l := by
    intro l hl
    rcases List.mem_cons.mp hl with rfl | hl
    · exact h.headerLine
    · obtain ⟨i, hi, hl⟩ := List.mem_flatMap.mp hl
      exact h.rowLine i (List.mem_range.mp hi) l hl
  rw [MergesAll, h.readAllCsv_eq, Except.ok.injEq, List.append_left_inj,
    unlines_inj h.keptLine hline, List.cons.injEq]

lemma keptRows_eq_iff (hstrip : strip header ≠ []) (hk : 1 ≤ k) :
    keptRows header rows k = (List.range k).flatMap rows ↔ rows 0 = [] := by
  obtain ⟨n, rfl⟩ := Nat.exists_eq_add_of_le' hk
  rw [keptRows, if_neg hstrip, Nat.add_sub_cancel, List.range_succ_eq_map, List.flatMap_cons,
    List.flatMap_map, List.self_eq_append_left]

end Merge

section Ranks

variable {dir stem header : List Char} {n userId : ℕ} {rows : ℕ → List (List Char)} {order : List ℕ}
  {files : List Char → Option (List Char)}

lemma csvFiles_written (hn : 1 ≤ n) (hnonempty : header ≠ []) (hheader : IsLine header)
    (hrows : ∀ i, ∀ row ∈ rows i, IsLine row) (horder : ∀ i < n, i ∈ order) :
    CsvFiles (written (Args.path ⟨dir, stem, n⟩) (fun i => unlines (header :: rows i)) order files)
      ⟨dir, stem, n⟩ header rows where
  count := Int.ofNat_le.mpr hn
  nonempty := hnonempty
  headerLine := hheader
  rowLine i _ := hrows i
  file i hi := written_path (Args.path_injective _) (horder i hi)

lemma written_mergesAll_iff (hn : 1 ≤ n) (hnonempty : header ≠ [])
    (hheader : IsWord header) (hrows : ∀ i, ∀ row ∈ rows i, IsLine row)
    (horder : ∀ i < n, i ∈ order) :
    MergesAll (written (Args.path ⟨dir, stem, n⟩) (fun i => unlines (header :: rows i)) order files)
      ⟨dir, stem, n⟩ header rows ↔ rows 0 = [] := by
  have hfiles := @csvFiles_written dir stem header n rows order files hn hnonempty
    hheader.isLine hrows horder
  have hstrip := hheader.strip_eq
  rw [hfiles.mergesAll_lines, keptRows_eq_iff (hstrip.symm ▸ hnonempty) hfiles.one_le,
    and_iff_right hstrip]

end Ranks

theorem mergesAll_iff {files : List Char → Option (List Char)} {args : Args} {header : List Char}
    {rows : ℕ → List (List Char)} (h : CsvFiles files args header rows) :
    MergesAll files args header rows ↔ rows 0 = [] ∧ strip header = header := by
  rw [h.mergesAll_lines, and_comm, and_congr_left_iff]
  intro hstrip
  exact keptRows_eq_iff (hstrip.symm ▸ h.nonempty) h.one_le

def twoRanks : Args := ⟨['.'], ['d'], 2⟩

def smallHeader : List Char := ['N', ',', 'u']

def secondRow (i : ℕ) : List (List Char) := if i = 0 then [] else [['7', ',', '1']]

theorem mergesAll_iff_second_row :
    MergesAll (written twoRanks.path (fun i => unlines (smallHeader :: secondRow i)) [1, 0] fun _ => none)
      twoRanks smallHeader secondRow := by
  apply (mergesAll_iff _).mpr
  · exact ⟨rfl, by decide⟩
  · apply csvFiles_written (by decide) (by decide) (by decide)
    · intro i
      rw [secondRow]
      split_ifs <;> decide
    · decide

theorem not_mergesAll_two :
    CsvFiles (written twoRanks.path (fun _ => unlines [smallHeader, ['7', ',', '1']]) [0, 1] fun _ => none)
      twoRanks smallHeader (fun _ => [['7', ',', '1']]) ∧
    ¬ MergesAll
      (written twoRanks.path (fun _ => unlines [smallHeader, ['7', ',', '1']]) [0, 1] fun _ => none)
      twoRanks smallHeader (fun _ => [['7', ',', '1']]) := by
  constructor
  · exact csvFiles_written (by decide) (by decide) (by decide) (fun _ => by decide) (by decide)
  · rw [MergesAll]
    decide

section Ranks

variable {dir : List Char} {n userId : ℕ} {order : List ℕ} {files : List Char → Option (List Char)}

def rank (n userId i : ℕ) : Process := ⟨n, i, userId⟩

def runTest (dir stem : List Char) (n userId : ℕ) (test : ℕ → Process → List Char) (order : List ℕ)
    (files : List Char → Option (List Char)) : List Char → Option (List Char) :=
  written (fun i => pathJoin dir (tableName stem (rank n userId i)))
    (fun i => test i (rank n userId i)) order files

variable (t : DoubleText) (m : ℕ → Measurements)

lemma throughputs_mergesAll_iff (hn : 1 ≤ n) (horder : ∀ i < n, i ∈ order) :
    MergesAll (runTest dir tpStem n userId (fun i => doTpTest t (m i)) order files)
      ⟨dir, tpStem, n⟩ tpHeader (fun i => tpRows t (m i) (rank n userId i)) ↔ 12 ≤ userId :=
  (written_mergesAll_iff hn csvHeader_ne_nil isWord_tpHeader (fun _ => isLine_tpRows t _)
    horder).trans (tpRows_eq_nil t (m 0))

lemma rtts_not_mergesAll (hn : 1 ≤ n) (horder : ∀ i < n, i ∈ order) :
    ¬ MergesAll (runTest dir rttStem n userId (fun i => doRttTest t (m i)) order files)
      ⟨dir, rttStem, n⟩ rttHeader (fun i => rttRows t (m i) (rank n userId i)) := by
  intro h
  have hrows := (written_mergesAll_iff hn csvHeader_ne_nil isWord_rttHeader
    (fun _ => isLine_rttRows t _) horder).mp h
  exact rttRows_ne_nil t (m 0) hrows

lemma delays_not_mergesAll (hn : 1 ≤ n) (horder : ∀ i < n, i ∈ order) :
    ¬ MergesAll (runTest dir delayStem n userId (fun i => doDelayTest t (m i)) order files)
      ⟨dir, delayStem, n⟩ delayHeader (fun i => delayRows t (m i) (rank n userId i)) := by
  intro h
  have hrows := (written_mergesAll_iff hn csvHeader_ne_nil isWord_delayHeader
    (fun _ => isLine_delayRows t _) horder).mp h
  exact delayRows_ne_nil t (m 0) rfl hrows

end Ranks

end SwarmSim.Offline
