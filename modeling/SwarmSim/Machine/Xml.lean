import Mathlib.Data.List.Nodup
import Mathlib.Tactic

/-! Elements written as text, and the incremental scan of such a text into the events that report
where elements start and end. Comments, sections, entities and attributes in single quotes are not
scanned. -/

namespace SwarmSim.Machine.Xml

abbrev Attributes := List (String × List Char)

inductive Markup
  | start (tag : String) (attrib : Attributes)
  | empty (tag : String) (attrib : Attributes)
  | stop (tag : String)
  deriving DecidableEq

inductive Event
  | start (tag : String) (attrib : Attributes)
  | stop (tag : String)
  deriving DecidableEq

def Markup.events : Markup → List Event
  | start tag attrib => [.start tag attrib]
  | empty tag attrib => [.start tag attrib, .stop tag]
  | stop tag => [.stop tag]

section Text

def attributeText (a : String × List Char) : List Char :=
  ' ' :: (a.1.toList ++ '=' :: '"' :: (a.2 ++ ['"']))

def Markup.text : Markup → List Char
  | start tag attrib => '<' :: (tag.toList ++ attrib.flatMap attributeText ++ ['>'])
  | empty tag attrib => '<' :: (tag.toList ++ attrib.flatMap attributeText ++ [' ', '/', '>'])
  | stop tag => '<' :: '/' :: (tag.toList ++ ['>'])

def indented (l : ℕ × Markup) : List Char := List.replicate l.1 ' ' ++ (l.2.text ++ ['\n'])

end Text

def isSpace (c : Char) : Bool := c = ' ' || c = '\t' || c = '\n' || c = '\r'

def isNameStart (c : Char) : Bool := c.isAlpha || c = '_' || c = ':'

def isNameChar (c : Char) : Bool := isNameStart c || c.isDigit || c = '-' || c = '.'

inductive Mode
  | content
  | opened
  | tag (tag : List Char)
  | attributes (tag : List Char) (attrib : Attributes)
  | name (tag : List Char) (attrib : Attributes) (name : List Char)
  | equals (tag : List Char) (attrib : Attributes) (name : List Char)
  | value (tag : List Char) (attrib : Attributes) (name value : List Char)
  | closed (tag : List Char) (attrib : Attributes)
  | slash (tag : List Char) (attrib : Attributes)
  | stop (tag : List Char)
  | instruction (mark : Bool)
  deriving DecidableEq

structure Scanner where
  mode : Mode := .content
  path : List String := []
  events : List Event := []
  deriving DecidableEq

namespace Scanner

/-- A whole markup. There is one element at the top, and an element has one value of an attribute. -/
def next (s : Scanner) (m : Markup) : Option Scanner :=
  match m with
  | .start tag attrib =>
    if (s.path = [] ∧ s.events ≠ []) ∨ ¬(attrib.map Prod.fst).Nodup then none
    else some ⟨.content, tag :: s.path, s.events ++ m.events⟩
  | .empty _ attrib =>
    if (s.path = [] ∧ s.events ≠ []) ∨ ¬(attrib.map Prod.fst).Nodup then none
    else some ⟨.content, s.path, s.events ++ m.events⟩
  | .stop tag =>
    if s.path.head? = some tag then some ⟨.content, s.path.tail, s.events ++ m.events⟩ else none

def delimiter (s : Scanner) (tag : List Char) (attrib : Attributes) (c : Char) : Option Scanner :=
  if isSpace c then some { s with mode := .attributes tag attrib }
  else if c = '/' then some { s with mode := .slash tag attrib }
  else if c = '>' then s.next (.start (String.ofList tag) attrib)
  else none

def step (s : Scanner) (c : Char) : Option Scanner :=
  match s.mode with
  | .content =>
    if c = '<' then some { s with mode := .opened }
    else if c = '&' ∨ (s.path = [] ∧ isSpace c = false) then none
    else some s
  | .opened =>
    if c = '/' then some { s with mode := .stop [] }
    else if c = '?' then some { s with mode := .instruction false }
    else if isNameStart c then some { s with mode := .tag [c] }
    else none
  | .tag tag =>
    if isNameChar c then some { s with mode := .tag (tag ++ [c]) } else s.delimiter tag [] c
  | .attributes tag attrib =>
    if isNameStart c then some { s with mode := .name tag attrib [c] } else s.delimiter tag attrib c
  | .name tag attrib name =>
    if isNameChar c then some { s with mode := .name tag attrib (name ++ [c]) }
    else if c = '=' then some { s with mode := .equals tag attrib name }
    else none
  | .equals tag attrib name => if c = '"' then some { s with mode := .value tag attrib name [] } else none
  | .value tag attrib name value =>
    if c = '"' then some { s with mode := .closed tag (attrib ++ [(String.ofList name, value)]) }
    else if c = '<' ∨ c = '&' then none
    else some { s with mode := .value tag attrib name (value ++ [if isSpace c then ' ' else c]) }
  | .closed tag attrib => s.delimiter tag attrib c
  | .slash tag attrib => if c = '>' then s.next (.empty (String.ofList tag) attrib) else none
  | .stop tag =>
    if isNameChar c then some { s with mode := .stop (tag ++ [c]) }
    else if c = '>' then s.next (.stop (String.ofList tag))
    else none
  | .instruction mark =>
    some { s with mode := if mark ∧ c = '>' then .content else .instruction (c = '?') }

def scan (s : Scanner) (l : List Char) : Option Scanner := l.foldlM step s

end Scanner

def iterparse (text : List Char) : Option (List Event) :=
  ((Scanner.scan {} text).filter fun s => s.mode = .content ∧ s.path = [] ∧ s.events ≠ []).map
    Scanner.events

def isName (n : String) : Bool :=
  match n.toList with
  | [] => false
  | c :: l => isNameStart c && l.all isNameChar

def isPlain (c : Char) : Bool :=
  c ≠ '"' && c ≠ '<' && c ≠ '&' && (c = ' ' || !isSpace c)

structure WellNamed (tag : String) (attrib : Attributes) : Prop where
  tag : isName tag = true
  nodup : (attrib.map Prod.fst).Nodup
  names : ∀ a ∈ attrib, isName a.1 = true
  values : ∀ a ∈ attrib, ∀ c ∈ a.2, isPlain c = true

def Markup.WellFormed : Markup → Prop
  | start tag attrib | empty tag attrib => WellNamed tag attrib
  | stop tag => isName tag = true

lemma wellFormed_stop {tag : String} (h : isName tag = true) : (Markup.stop tag).WellFormed := h

lemma wellNamed_nil {tag : String} (h : isName tag = true) : WellNamed tag [] :=
  ⟨h, List.nodup_nil, fun _ ha => absurd ha List.not_mem_nil, fun _ ha => absurd ha List.not_mem_nil⟩

namespace Scanner

section Characters

variable {path : List String} {events : List Event} {l rest : List Char} {c : Char} {n : String}
  {tag name value : List Char} {attrib : Attributes}

lemma scan_cons (s : Scanner) (c : Char) (l : List Char) :
    s.scan (c :: l) = (s.step c).bind fun s => s.scan l := List.foldlM_cons

lemma scan_step {s t : Scanner} (h : s.step c = some t) : s.scan (c :: l) = t.scan l := by
  rw [scan_cons, h]
  rfl

lemma scan_append {s t : Scanner} (h : s.scan l = some t) : s.scan (l ++ rest) = t.scan rest := by
  unfold scan at h ⊢
  rw [List.foldlM_append, h]
  rfl

lemma scan_run (mode : List Char → Mode) {good : Char → Bool}
    (hstep : ∀ l c, good c = true →
      step ⟨mode l, path, events⟩ c = some ⟨mode (l ++ [c]), path, events⟩)
    (h : ∀ c ∈ rest, good c = true) :
    scan ⟨mode l, path, events⟩ rest = some ⟨mode (l ++ rest), path, events⟩ := by
  induction rest generalizing l with
  | nil =>
    rw [List.append_nil]
    rfl
  | cons c rest ih =>
    rw [scan_step (hstep l c (h c List.mem_cons_self)), ih fun d hd => h d (List.mem_cons_of_mem _ hd),
      List.append_assoc, List.singleton_append]

lemma isName_cons (h : isName n = true) :
    ∃ c l, n.toList = c :: l ∧ isNameStart c = true ∧ ∀ d ∈ l, isNameChar d = true := by
  unfold isName at h
  cases hn : n.toList with
  | nil =>
    rw [hn] at h
    cases h
  | cons c l =>
    rw [hn] at h
    obtain ⟨hc, hl⟩ := Bool.and_eq_true_iff.mp h
    exact ⟨c, l, rfl, hc, List.all_eq_true.mp hl⟩

lemma isNameChar_of_start (h : isNameStart c = true) : isNameChar c = true := by
  simp [isNameChar, h]

lemma isName_all (h : isName n = true) : ∀ c ∈ n.toList, isNameChar c = true := by
  obtain ⟨c, l, hn, hc, hl⟩ := isName_cons h
  rw [hn]
  rintro d (_ | ⟨_, hd⟩)
  · exact isNameChar_of_start hc
  · exact hl d hd

lemma scan_opened (h : isName n = true) :
    scan ⟨.opened, path, events⟩ n.toList = some ⟨.tag n.toList, path, events⟩ := by
  obtain ⟨c, l, hn, hc, hl⟩ := isName_cons h
  have hslash : c ≠ '/' := by
    rintro rfl
    exact absurd hc (by decide)
  have hmark : c ≠ '?' := by
    rintro rfl
    exact absurd hc (by decide)
  have hstep : step ⟨.opened, path, events⟩ c = some ⟨.tag [c], path, events⟩ := by
    simp [step, hslash, hmark, hc]
  rw [hn, scan_step hstep]
  exact scan_run .tag (fun l d hd => if_pos hd) hl

lemma step_plain (h : isPlain c = true) :
    step ⟨.value tag attrib name value, path, events⟩ c =
      some ⟨.value tag attrib name (value ++ [c]), path, events⟩ := by
  simp only [isPlain, Bool.and_eq_true, decide_eq_true_eq, Bool.or_eq_true, Bool.not_eq_true'] at h
  obtain ⟨⟨⟨hq, hlt⟩, hamp⟩, hs⟩ := h
  have hc : (if isSpace c then ' ' else c) = c := by
    rcases hs with rfl | hs
    · rfl
    · rw [hs]
      rfl
  simp [step, hq, hlt, hamp, hc]

lemma scan_attribute {a : String × List Char} (hname : isName a.1 = true)
    (hvalue : ∀ c ∈ a.2, isPlain c = true) :
    scan ⟨.closed tag attrib, path, events⟩ (attributeText a) =
      some ⟨.closed tag (attrib ++ [a]), path, events⟩ := by
  obtain ⟨c, l, hn, hc, hl⟩ := isName_cons hname
  have hstart : step ⟨.attributes tag attrib, path, events⟩ c =
      some ⟨.name tag attrib [c], path, events⟩ := if_pos hc
  have hrun : scan ⟨.name tag attrib [c], path, events⟩ l =
      some ⟨.name tag attrib ([c] ++ l), path, events⟩ :=
    scan_run (.name tag attrib) (fun l d hd => if_pos hd) hl
  have hrun' : scan ⟨.value tag attrib ([c] ++ l) [], path, events⟩ a.2 =
      some ⟨.value tag attrib ([c] ++ l) a.2, path, events⟩ :=
    scan_run (.value tag attrib ([c] ++ l)) (fun _ _ => step_plain) hvalue
  have hstring : String.ofList ([c] ++ l) = a.1 := by
    rw [List.singleton_append, ← hn, String.ofList_toList]
  rw [attributeText, hn, scan_step (t := ⟨.attributes tag attrib, path, events⟩) rfl, List.cons_append,
    scan_step hstart, scan_append hrun, scan_step (t := ⟨.equals tag attrib ([c] ++ l), path, events⟩) rfl,
    scan_step (t := ⟨.value tag attrib ([c] ++ l) [], path, events⟩) rfl, scan_append hrun',
    scan_step (t := ⟨.closed tag (attrib ++ [(String.ofList ([c] ++ l), a.2)]), path, events⟩) rfl,
    hstring]
  rfl

lemma scan_attributes {as : Attributes} (hnames : ∀ a ∈ as, isName a.1 = true)
    (hvalues : ∀ a ∈ as, ∀ c ∈ a.2, isPlain c = true) :
    scan ⟨.closed tag attrib, path, events⟩ (as.flatMap attributeText) =
      some ⟨.closed tag (attrib ++ as), path, events⟩ := by
  induction as generalizing attrib with
  | nil =>
    rw [List.append_nil]
    rfl
  | cons a as ih =>
    rw [List.flatMap_cons, scan_append (scan_attribute (hnames a List.mem_cons_self)
      (hvalues a List.mem_cons_self)), ih (fun b hb => hnames b (List.mem_cons_of_mem _ hb))
      fun b hb => hvalues b (List.mem_cons_of_mem _ hb), List.append_assoc, List.singleton_append]

lemma scan_tag (h : isNameChar c = false) : scan ⟨.tag tag, path, events⟩ (c :: l) =
    scan ⟨.closed tag [], path, events⟩ (c :: l) := by
  rw [scan_cons, scan_cons]
  simp [step, h, delimiter, next]

lemma scan_opening (h : WellNamed n attrib) (hc : isNameChar c = false) :
    scan ⟨.content, path, events⟩ ('<' :: (n.toList ++ attrib.flatMap attributeText ++ c :: l)) =
      scan ⟨.closed n.toList attrib, path, events⟩ (c :: l) := by
  have hattrib : scan ⟨.closed n.toList [], path, events⟩ (attrib.flatMap attributeText) =
      some ⟨.closed n.toList attrib, path, events⟩ := scan_attributes h.names h.values
  rw [scan_step (t := ⟨.opened, path, events⟩) rfl, List.append_assoc, scan_append (scan_opened h.tag),
    ← scan_append hattrib]
  cases attrib with
  | nil => exact scan_tag hc
  | cons a as => exact scan_tag rfl

end Characters

section Markups

variable {path : List String} {events : List Event} {m : Markup} {s t : Scanner}

theorem scan_markup (h : m.WellFormed) :
    scan ⟨.content, path, events⟩ m.text = next ⟨.content, path, events⟩ m := by
  have hone : ∀ {s : Scanner} {c : Char}, s.scan [c] = s.step c := by
    intro s c
    rw [scan_cons]
    cases s.step c <;> rfl
  cases m with
  | start tag attrib =>
    rw [Markup.text, scan_opening h rfl, hone]
    change next _ (.start (String.ofList tag.toList) attrib) = _
    rw [String.ofList_toList]
    rfl
  | empty tag attrib =>
    rw [Markup.text, scan_opening h rfl,
      scan_step (t := ⟨.attributes tag.toList attrib, path, events⟩) rfl,
      scan_step (t := ⟨.slash tag.toList attrib, path, events⟩) rfl, hone]
    change next _ (.empty (String.ofList tag.toList) attrib) = _
    rw [String.ofList_toList]
    rfl
  | stop tag =>
    have hrun : scan ⟨.stop [], path, events⟩ tag.toList = some ⟨.stop ([] ++ tag.toList), path, events⟩ :=
      scan_run .stop (fun l d hd => if_pos hd) (isName_all h)
    rw [Markup.text, scan_step (t := ⟨.opened, path, events⟩) rfl,
      scan_step (t := ⟨.stop [], path, events⟩) rfl, scan_append hrun, hone]
    change next _ (.stop (String.ofList tag.toList)) = _
    rw [String.ofList_toList]
    rfl

lemma scan_spaces (n : ℕ) (hs : s.mode = .content) : s.scan (List.replicate n ' ') = some s := by
  induction n with
  | zero => rfl
  | succ n ih =>
    rw [List.replicate_succ, scan_step (t := s) (by simp [step, hs, isSpace]), ih]

lemma next_content (h : s.next m = some t) : t.mode = .content := by
  cases m with
  | start tag attrib | empty tag attrib | stop tag =>
    rw [next] at h
    split_ifs at h
    obtain rfl := Option.some.inj h
    rfl

lemma scan_indented {l : ℕ × Markup} (h : l.2.WellFormed) (hs : s.mode = .content) :
    s.scan (indented l) = s.next l.2 := by
  obtain ⟨mode, path, events⟩ := s
  obtain rfl := hs
  rw [indented, scan_append (scan_spaces l.1 rfl), scan, List.foldlM_append]
  change (scan _ _).bind _ = _
  rw [scan_markup h]
  cases hn : next ⟨.content, path, events⟩ l.2 with
  | none => rfl
  | some t =>
    change t.scan ['\n'] = some t
    exact scan_step (by simp [step, next_content hn, isSpace])

theorem scan_lines {ls : List (ℕ × Markup)} (h : ∀ l ∈ ls, l.2.WellFormed) (hs : s.mode = .content) :
    s.scan (ls.flatMap indented) = (ls.map Prod.snd).foldlM next s := by
  induction ls generalizing s with
  | nil => rfl
  | cons l ls ih =>
    rw [List.flatMap_cons, scan, List.foldlM_append]
    change (scan _ _).bind _ = _
    rw [scan_indented (h l List.mem_cons_self) hs, List.map_cons, List.foldlM_cons]
    cases hn : s.next l.2 with
    | none => rfl
    | some t => exact ih (fun k hk => h k (List.mem_cons_of_mem _ hk)) (next_content hn)

end Markups

def Balanced (ms : List Markup) : Prop :=
  ∀ path events, path ≠ [] → ms.foldlM next ⟨.content, path, events⟩ =
    some ⟨.content, path, events ++ ms.flatMap Markup.events⟩

section Balanced

variable {ms ms' : List Markup} {tag : String} {attrib : Attributes}

lemma balanced_nil : Balanced [] := by
  intro path events _
  rw [List.flatMap_nil, List.append_nil]
  rfl

lemma Balanced.append (h : Balanced ms) (h' : Balanced ms') : Balanced (ms ++ ms') := by
  intro path events hpath
  rw [List.foldlM_append, h path events hpath, List.flatMap_append, ← List.append_assoc]
  exact h' path _ hpath

lemma balanced_flatMap {α : Type*} {l : List α} {f : α → List Markup} (h : ∀ a ∈ l, Balanced (f a)) :
    Balanced (l.flatMap f) := by
  induction l with
  | nil => exact balanced_nil
  | cons a l ih =>
    exact (h a List.mem_cons_self).append (ih fun b hb => h b (List.mem_cons_of_mem _ hb))

lemma balanced_empty (h : (attrib.map Prod.fst).Nodup) : Balanced [.empty tag attrib] := by
  intro path events hpath
  simp [next, hpath, h]

lemma Balanced.element (hms : Balanced ms) (h : (attrib.map Prod.fst).Nodup) :
    Balanced (.start tag attrib :: (ms ++ [.stop tag])) := by
  intro path events hpath
  have hstart : next ⟨.content, path, events⟩ (.start tag attrib) =
      some ⟨.content, tag :: path, events ++ [.start tag attrib]⟩ := by
    simp [next, hpath, h, Markup.events]
  rw [List.foldlM_cons, hstart]
  change List.foldlM next _ _ = _
  rw [List.foldlM_append, hms _ _ (List.cons_ne_nil tag path)]
  simp [next, Markup.events]

end Balanced

end Scanner

theorem iterparse_lines {ls : List (ℕ × Markup)} {tag : String} {attrib : Attributes} {ms : List Markup}
    (hls : ls.map Prod.snd = .start tag attrib :: (ms ++ [.stop tag]))
    (h : ∀ l ∈ ls, l.2.WellFormed) (hattrib : (attrib.map Prod.fst).Nodup)
    (hms : Scanner.Balanced ms) :
    iterparse (ls.flatMap indented) =
      some (.start tag attrib :: (ms.flatMap Markup.events ++ [.stop tag])) := by
  have hstart : Scanner.next {} (.start tag attrib) =
      some ⟨.content, [tag], [.start tag attrib]⟩ := by
    simp [Scanner.next, hattrib, Markup.events]
  have hscan : Scanner.scan {} (ls.flatMap indented) =
      some ⟨.content, [], .start tag attrib :: (ms.flatMap Markup.events ++ [.stop tag])⟩ := by
    rw [Scanner.scan_lines h rfl, hls, List.foldlM_cons, hstart]
    change List.foldlM Scanner.next _ _ = _
    rw [List.foldlM_append, hms _ _ (List.cons_ne_nil tag [])]
    simp [Scanner.next, Markup.events]
  rw [iterparse, hscan]
  rfl

end SwarmSim.Machine.Xml
