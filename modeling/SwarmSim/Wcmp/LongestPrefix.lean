import SwarmSim.Wcmp.Lookup

/-! What `MultiLpm` collects in its single pass, beside the entries of the longest matching prefix
and the shortest metric. -/

namespace SwarmSim.Wcmp

open Machine Ns3

namespace WcmpStaticRouting

variable {dest : Ipv4Address} {l : List (EntryPtr × ℕ)}

def Matches (dest : Ipv4Address) (e : Ipv4RoutingTableEntry) : Prop :=
  e.destNetworkMask.isMatch dest e.dest = true

instance (dest : Ipv4Address) (e : Ipv4RoutingTableEntry) : Decidable (Matches dest e) :=
  inferInstanceAs (Decidable (_ = true))

lemma visit_of_not_matches {i : EntryPtr × ℕ} (s : LpmScan) (h : ¬ Matches dest i.1.entry) :
    s.visit dest i = s := by
  rw [LpmScan.visit]
  exact if_neg h

def prefixLength (x : EntryPtr × ℕ) : ℕ := x.1.entry.destNetworkMask.getPrefixLength

def Longest (dest : Ipv4Address) (l : List (EntryPtr × ℕ)) (x : EntryPtr × ℕ) : Prop :=
  ∀ y ∈ l, Matches dest y.1.entry → prefixLength y ≤ prefixLength x

instance (dest : Ipv4Address) (l : List (EntryPtr × ℕ)) : DecidablePred (Longest dest l) :=
  fun x => inferInstanceAs (Decidable (∀ y ∈ l, Matches dest y.1.entry →
    prefixLength y ≤ prefixLength x))

def Best (dest : Ipv4Address) (l : List (EntryPtr × ℕ)) (x : EntryPtr × ℕ) : Prop :=
  Matches dest x.1.entry ∧ Longest dest l x ∧
    ∀ y ∈ l, Matches dest y.1.entry → prefixLength y = prefixLength x → x.2 ≤ y.2

instance (dest : Ipv4Address) (l : List (EntryPtr × ℕ)) : DecidablePred (Best dest l) :=
  fun _ => inferInstanceAs (Decidable (_ ∧ _ ∧ _))

def bestEntries (dest : Ipv4Address) (l : List (EntryPtr × ℕ)) : List EntryPtr :=
  (l.filter fun x => Best dest l x).map Prod.fst

def OfKind (dest : Ipv4Address) (len metric : ℕ) (x : EntryPtr × ℕ) : Prop :=
  Matches dest x.1.entry ∧ prefixLength x = len ∧ x.2 = metric

instance (dest : Ipv4Address) (len metric : ℕ) : DecidablePred (OfKind dest len metric) :=
  fun _ => inferInstanceAs (Decidable (_ ∧ _ ∧ _))

def ofKind (dest : Ipv4Address) (len metric : ℕ) (l : List (EntryPtr × ℕ)) : List EntryPtr :=
  (l.filter fun x => OfKind dest len metric x).map Prod.fst

def firstMatch (dest : Ipv4Address) (l : List (EntryPtr × ℕ)) : Option (EntryPtr × ℕ) :=
  l.find? fun x => Matches dest x.1.entry

lemma ofKind_snoc {len metric : ℕ} {x : EntryPtr × ℕ} :
    ofKind dest len metric (l ++ [x]) =
      ofKind dest len metric l ++ if OfKind dest len metric x then [x.1] else [] := by
  rw [ofKind, List.filter_append, List.map_append]
  by_cases h : OfKind dest len metric x <;> simp [ofKind, h]

lemma ofKind_eq_nil {len metric : ℕ} (h : ∀ x ∈ l, ¬ OfKind dest len metric x) :
    ofKind dest len metric l = [] := by
  rw [ofKind, List.map_eq_nil_iff, List.filter_eq_nil_iff]
  simpa using h

lemma firstMatch_snoc {x : EntryPtr × ℕ} (hx : Matches dest x.1.entry) :
    firstMatch dest (l ++ [x]) = (firstMatch dest l).or (some x) := by
  rw [firstMatch, List.find?_append, List.find?_cons_of_pos (by simpa using hx), firstMatch]

lemma firstMatch_kept {x : EntryPtr × ℕ} (hx : Matches dest x.1.entry)
    (hne : firstMatch dest l ≠ none) : firstMatch dest (l ++ [x]) = firstMatch dest l := by
  obtain ⟨y, hy⟩ := Option.ne_none_iff_exists'.mp hne
  rw [firstMatch_snoc hx, hy, Option.some_or]

lemma firstMatch_snoc_of_not {x : EntryPtr × ℕ} (hx : ¬ Matches dest x.1.entry) :
    firstMatch dest (l ++ [x]) = firstMatch dest l := by
  rw [firstMatch, List.find?_append, List.find?_cons_of_neg (by simpa using hx)]
  simp [firstMatch]

/-- The state of the pass after the entries `l`. Collected entries of a shorter prefix are stale;
they stay as long as no metric undercuts `0xffffffff`. -/
structure Scanned (dest : Ipv4Address) (l : List (EntryPtr × ℕ)) (s : LpmScan) : Prop where
  longest : ∀ y ∈ l, Matches dest y.1.entry → prefixLength y ≤ s.longestMask
  shortest : ∀ y ∈ l, Matches dest y.1.entry → prefixLength y = s.longestMask →
    s.shortestMetric ≤ y.2
  shortest_le : s.shortestMetric ≤ 0xffffffff
  start : firstMatch dest l = none → s = ⟨0, 0xffffffff, []⟩
  attained : firstMatch dest l ≠ none → ∃ y ∈ l, OfKind dest s.longestMask s.shortestMetric y
  entries : ∃ stale, s.entries = stale ++ ofKind dest s.longestMask s.shortestMetric l ∧
    (stale = [] ↔ s.shortestMetric < 0xffffffff ∨
      ∀ y ∈ firstMatch dest l, prefixLength y = s.longestMask)

variable {s : LpmScan} {x : EntryPtr × ℕ}

lemma Scanned.entries_ne_nil (h : Scanned dest l s) (hfirst : firstMatch dest l ≠ none) :
    s.entries ≠ [] := by
  obtain ⟨y, hy, hkind⟩ := h.attained hfirst
  obtain ⟨stale, hentries, -⟩ := h.entries
  have hmem : y.1 ∈ ofKind dest s.longestMask s.shortestMetric l :=
    List.mem_map_of_mem (List.mem_filter.mpr ⟨hy, by simpa using hkind⟩)
  rw [hentries]
  exact List.ne_nil_of_mem (List.mem_append_right stale hmem)

lemma Scanned.match_of_lt (h : Scanned dest l s)
    (hs : 0 < s.longestMask ∨ s.shortestMetric < 0xffffffff) : firstMatch dest l ≠ none := by
  intro hnone
  rw [h.start hnone] at hs
  simp at hs

lemma Scanned.skip (h : Scanned dest l s) (hfirst : firstMatch dest (l ++ [x]) = firstMatch dest l)
    (hlong : Matches dest x.1.entry → prefixLength x ≤ s.longestMask)
    (hshort : Matches dest x.1.entry → prefixLength x = s.longestMask → s.shortestMetric < x.2) :
    Scanned dest (l ++ [x]) s where
  longest := by
    intro y hy hm
    rcases List.mem_append.mp hy with hy | hy
    · exact h.longest y hy hm
    · obtain rfl := List.mem_singleton.mp hy
      exact hlong hm
  shortest := by
    intro y hy hm hlen
    rcases List.mem_append.mp hy with hy | hy
    · exact h.shortest y hy hm hlen
    · obtain rfl := List.mem_singleton.mp hy
      exact (hshort hm hlen).le
  shortest_le := h.shortest_le
  start := by
    rw [hfirst]
    exact h.start
  attained := by
    rw [hfirst]
    intro hne
    obtain ⟨y, hy, hkind⟩ := h.attained hne
    exact ⟨y, List.mem_append_left _ hy, hkind⟩
  entries := by
    have hkind : ¬ OfKind dest s.longestMask s.shortestMetric x := by
      rintro ⟨hm, hlen, hmetric⟩
      exact (hshort hm hlen).ne' hmetric
    rw [hfirst, ofKind_snoc, if_neg hkind, List.append_nil]
    exact h.entries

lemma Scanned.take (h : Scanned dest l s) (hx : Matches dest x.1.entry) (hmetric : x.2 ≤ 0xffffffff)
    (hlong : s.longestMask ≤ prefixLength x)
    (hshort : prefixLength x = s.longestMask → x.2 ≤ s.shortestMetric) {es : List EntryPtr}
    (hes : ∃ stale, es = stale ++ ofKind dest (prefixLength x) x.2 l ∧
      (stale = [] ↔ x.2 < 0xffffffff ∨
        ∀ y ∈ firstMatch dest (l ++ [x]), prefixLength y = prefixLength x)) :
    Scanned dest (l ++ [x]) ⟨prefixLength x, x.2, es ++ [x.1]⟩ where
  longest := by
    intro y hy hm
    rcases List.mem_append.mp hy with hy | hy
    · exact (h.longest y hy hm).trans hlong
    · rw [List.mem_singleton.mp hy]
  shortest := by
    intro y hy hm hlen
    rcases List.mem_append.mp hy with hy | hy
    · have hsame : prefixLength x = s.longestMask :=
        (hlen.symm.trans_le (h.longest y hy hm)).antisymm hlong
      exact (hshort hsame).trans (h.shortest y hy hm (hlen.trans hsame))
    · rw [List.mem_singleton.mp hy]
  shortest_le := hmetric
  start := by
    rw [firstMatch_snoc hx]
    cases firstMatch dest l <;> simp
  attained := fun _ => ⟨x, List.mem_append_right l List.mem_cons_self, hx, rfl, rfl⟩
  entries := by
    obtain ⟨stale, hes, hstale⟩ := hes
    refine ⟨stale, ?_, hstale⟩
    rw [ofKind_snoc, if_pos ⟨hx, rfl, rfl⟩, hes, List.append_assoc]

lemma Scanned.nothing_of_kind (h : Scanned dest l s) {len metric : ℕ}
    (hkind : s.longestMask < len ∨ len = s.longestMask ∧ metric < s.shortestMetric) :
    ofKind dest len metric l = [] := by
  apply ofKind_eq_nil
  rintro y hy ⟨hm, rfl, rfl⟩
  rcases hkind with hlt | ⟨heq, hlt⟩
  · exact (h.longest y hy hm).not_gt hlt
  · exact (h.shortest y hy hm heq).not_gt hlt

lemma visit_cases (s : LpmScan) (hx : Matches dest x.1.entry) (hmetric : x.2 ≤ 0xffffffff) :
    (s.visit dest x = s ∧ (prefixLength x < s.longestMask ∨
      prefixLength x = s.longestMask ∧ s.shortestMetric < x.2)) ∨
    (s.visit dest x = ⟨prefixLength x, x.2, [x.1]⟩ ∧
      (prefixLength x = s.longestMask ∧ x.2 < s.shortestMetric ∨
        s.longestMask < prefixLength x ∧ x.2 < 0xffffffff)) ∨
    s.visit dest x = ⟨prefixLength x, x.2, s.entries ++ [x.1]⟩ ∧
      (prefixLength x = s.longestMask ∧ x.2 = s.shortestMetric ∨
        s.longestMask < prefixLength x ∧ x.2 = 0xffffffff) := by
  have hvisit : s.visit dest x =
      if prefixLength x < s.longestMask then s
      else
        let shortest := if s.longestMask < prefixLength x then 0xffffffff else s.shortestMetric
        if shortest < x.2 then ⟨prefixLength x, shortest, s.entries⟩
        else ⟨prefixLength x, x.2, (if x.2 < shortest then [] else s.entries) ++ [x.1]⟩ :=
    if_pos hx
  rcases lt_trichotomy (prefixLength x) s.longestMask with hlt | heq | hgt
  · rw [hvisit, if_pos hlt]
    exact Or.inl ⟨rfl, Or.inl hlt⟩
  · rw [hvisit, if_neg heq.not_lt]
    simp only [heq.not_gt, if_false]
    rcases lt_trichotomy x.2 s.shortestMetric with hless | hsame | hmore
    · rw [if_neg hless.not_gt, if_pos hless]
      exact Or.inr (Or.inl ⟨rfl, Or.inl ⟨heq, hless⟩⟩)
    · rw [if_neg hsame.not_gt, if_neg hsame.not_lt]
      exact Or.inr (Or.inr ⟨rfl, Or.inl ⟨heq, hsame⟩⟩)
    · rw [if_pos hmore, heq]
      exact Or.inl ⟨rfl, Or.inr ⟨rfl, hmore⟩⟩
  · rw [hvisit, if_neg hgt.not_gt]
    simp only [hgt, if_true, hmetric.not_gt, if_false]
    rcases hmetric.lt_or_eq with hless | heq
    · rw [if_pos hless]
      exact Or.inr (Or.inl ⟨rfl, Or.inr ⟨trivial, hless⟩⟩)
    · rw [if_neg heq.not_lt]
      exact Or.inr (Or.inr ⟨rfl, Or.inr ⟨trivial, heq⟩⟩)

lemma Scanned.stale_of_same (h : Scanned dest l s) (hx : Matches dest x.1.entry)
    (hlen : prefixLength x = s.longestMask) (hsame : x.2 = s.shortestMetric) :
    ∃ stale, s.entries = stale ++ ofKind dest (prefixLength x) x.2 l ∧
      (stale = [] ↔ x.2 < 0xffffffff ∨
        ∀ y ∈ firstMatch dest (l ++ [x]), prefixLength y = prefixLength x) := by
  obtain ⟨stale, hentries, hstale⟩ := h.entries
  rw [hlen, hsame]
  refine ⟨stale, hentries, hstale.trans ?_⟩
  cases hnone : firstMatch dest l with
  | none => simp [firstMatch_snoc hx, hnone, hlen]
  | some y => rw [firstMatch_kept hx (by simp [hnone]), hnone]

/-- A longer match whose metric does not undercut the one that the pass resets to: what shorter
prefixes have left stays. -/
lemma Scanned.stale_of_longer (h : Scanned dest l s) (hx : Matches dest x.1.entry)
    (hlen : s.longestMask < prefixLength x) (hmetric : x.2 = 0xffffffff) :
    ∃ stale, s.entries = stale ++ ofKind dest (prefixLength x) x.2 l ∧
      (stale = [] ↔ x.2 < 0xffffffff ∨
        ∀ y ∈ firstMatch dest (l ++ [x]), prefixLength y = prefixLength x) := by
  refine ⟨s.entries, by rw [h.nothing_of_kind (Or.inl hlen), List.append_nil], ?_⟩
  cases hfirst : firstMatch dest l with
  | none => simp [firstMatch_snoc hx, hfirst, h.start hfirst]
  | some y =>
    have hy := h.longest y (List.mem_of_find?_eq_some hfirst)
      (by simpa using List.find?_some hfirst)
    rw [firstMatch_kept hx (by simp [hfirst]), hfirst]
    refine iff_of_false (h.entries_ne_nil (by simp [hfirst])) ?_
    rintro (hlt | hall)
    · exact hmetric.not_lt hlt
    · exact absurd (hall y rfl) (hy.trans_lt hlen).ne

lemma Scanned.visit (h : Scanned dest l s)
    (hmetric : Matches dest x.1.entry → x.2 ≤ 0xffffffff) :
    Scanned dest (l ++ [x]) (s.visit dest x) := by
  by_cases hx : Matches dest x.1.entry
  swap
  · rw [visit_of_not_matches s hx]
    exact h.skip (firstMatch_snoc_of_not hx) (fun hm => absurd hm hx) fun hm => absurd hm hx
  have hle := hmetric hx
  rcases visit_cases s hx hle with ⟨hskip, hkind⟩ | ⟨halone, hkind⟩ | ⟨hadd, hkind⟩
  · rw [hskip]
    have hne : firstMatch dest l ≠ none := h.match_of_lt (by omega)
    exact h.skip (firstMatch_kept hx hne) (fun _ => by omega) fun _ _ => by omega
  · rw [halone]
    have hnone : ofKind dest (prefixLength x) x.2 l = [] := h.nothing_of_kind (by omega)
    have hless : x.2 < 0xffffffff := by
      have := h.shortest_le
      omega
    have hes : ∃ stale, [] = stale ++ ofKind dest (prefixLength x) x.2 l ∧
        (stale = [] ↔ x.2 < 0xffffffff ∨
          ∀ y ∈ firstMatch dest (l ++ [x]), prefixLength y = prefixLength x) :=
      ⟨[], hnone.symm, iff_of_true rfl (Or.inl hless)⟩
    have htake := h.take hx hle (by omega) (by omega) hes
    exact htake
  · rw [hadd]
    apply h.take hx hle (by omega) (by omega)
    rcases hkind with ⟨hlen, hsame⟩ | ⟨hlen, hreset⟩
    · exact h.stale_of_same hx hlen hsame
    · exact h.stale_of_longer hx hlen hreset

lemma scanned (dest : Ipv4Address) (l : List (EntryPtr × ℕ))
    (hmetric : ∀ x ∈ l, Matches dest x.1.entry → x.2 ≤ 0xffffffff) :
    Scanned dest l (l.foldl (LpmScan.visit dest) ⟨0, 0xffffffff, []⟩) := by
  induction l using List.reverseRecOn with
  | nil =>
    refine ⟨by simp, by simp, le_rfl, fun _ => rfl, fun h => absurd rfl h, [], rfl, ?_⟩
    exact iff_of_true rfl (Or.inr (by simp [firstMatch]))
  | append_singleton l x ih =>
    rw [List.foldl_append]
    exact (ih fun y hy => hmetric y (List.mem_append_left _ hy)).visit
      (hmetric x (List.mem_append_right l List.mem_cons_self))

lemma firstMatch_ne_none (hx : x ∈ l) (hm : Matches dest x.1.entry) : firstMatch dest l ≠ none := by
  intro hnone
  exact List.find?_eq_none.mp hnone x hx (by simpa using hm)

lemma Scanned.longest_iff (h : Scanned dest l s) (hx : x ∈ l) (hm : Matches dest x.1.entry) :
    Longest dest l x ↔ prefixLength x = s.longestMask := by
  constructor
  · intro hlong
    obtain ⟨y, hy, hmy, hlen, -⟩ := h.attained (firstMatch_ne_none hx hm)
    exact (h.longest x hx hm).antisymm (hlen ▸ hlong y hy hmy)
  · intro hlen y hy hmy
    exact hlen ▸ h.longest y hy hmy

lemma Scanned.best_iff (h : Scanned dest l s) (hx : x ∈ l) :
    Best dest l x ↔ OfKind dest s.longestMask s.shortestMetric x := by
  constructor
  · rintro ⟨hm, hlong, hbest⟩
    obtain ⟨y, hy, hmy, hlen, hmetric⟩ := h.attained (firstMatch_ne_none hx hm)
    have hsame := (h.longest_iff hx hm).mp hlong
    have hle := hbest y hy hmy (hlen.trans hsame.symm)
    exact ⟨hm, hsame, (hmetric ▸ hle).antisymm (h.shortest x hx hm hsame)⟩
  · rintro ⟨hm, hlen, hmetric⟩
    refine ⟨hm, (h.longest_iff hx hm).mpr hlen, fun y hy hmy hsame => ?_⟩
    exact hmetric ▸ h.shortest y hy hmy (hsame.trans hlen)

lemma Scanned.bestEntries_eq (h : Scanned dest l s) :
    bestEntries dest l = ofKind dest s.longestMask s.shortestMetric l := by
  rw [bestEntries, ofKind]
  congr 1
  apply List.filter_congr
  intro x hx
  simpa using h.best_iff hx

lemma Scanned.undercut_iff (h : Scanned dest l s) : s.shortestMetric < 0xffffffff ↔
    ∃ y ∈ l, Matches dest y.1.entry ∧ Longest dest l y ∧ y.2 < 0xffffffff := by
  constructor
  · intro hlt
    obtain ⟨y, hy, hm, hlen, hmetric⟩ := h.attained (h.match_of_lt (Or.inr hlt))
    exact ⟨y, hy, hm, (h.longest_iff hy hm).mpr hlen, hmetric ▸ hlt⟩
  · rintro ⟨y, hy, hm, hlong, hlt⟩
    exact (h.shortest y hy hm ((h.longest_iff hy hm).mp hlong)).trans_lt hlt

lemma best_of_kinds {len metric : ℕ} (h : ∀ y ∈ l, Matches dest y.1.entry →
      prefixLength y < len ∨ prefixLength y = len ∧ y.2 = metric)
    (hsome : ∃ y ∈ l, Matches dest y.1.entry ∧ prefixLength y = len) (hx : x ∈ l)
    (hm : Matches dest x.1.entry) :
    (Longest dest l x ↔ prefixLength x = len) ∧ (Best dest l x ↔ prefixLength x = len) := by
  have hle : ∀ y ∈ l, Matches dest y.1.entry → prefixLength y ≤ len := by
    intro y hy hmy
    rcases h y hy hmy with hlt | ⟨heq, -⟩
    · exact hlt.le
    · exact heq.le
  have hlong : Longest dest l x ↔ prefixLength x = len := by
    constructor
    · intro hlong
      obtain ⟨y, hy, hmy, hlen⟩ := hsome
      exact (hle x hx hm).antisymm (hlen ▸ hlong y hy hmy)
    · intro hlen y hy hmy
      exact hlen ▸ hle y hy hmy
  have hmetric : ∀ y ∈ l, Matches dest y.1.entry → prefixLength y = len → y.2 = metric := by
    intro y hy hmy hlen
    exact ((h y hy hmy).resolve_left hlen.not_lt).2
  refine ⟨hlong, fun hbest => hlong.mp hbest.2.1, fun hlen => ⟨hm, hlong.mpr hlen, ?_⟩⟩
  intro y hy hmy hsame
  rw [hmetric x hx hm hlen, hmetric y hy hmy (hsame.trans hlen)]

lemma Scanned.entries_eq_best_iff (h : Scanned dest l s) : s.entries = bestEntries dest l ↔
    (∃ y ∈ l, Matches dest y.1.entry ∧ Longest dest l y ∧ y.2 < 0xffffffff) ∨
      ∀ x ∈ firstMatch dest l, Longest dest l x := by
  obtain ⟨stale, hentries, hstale⟩ := h.entries
  rw [h.bestEntries_eq, hentries, List.append_left_eq_self, hstale]
  refine or_congr h.undercut_iff (forall₂_congr fun x hx => ?_)
  exact (h.longest_iff (List.mem_of_find?_eq_some hx) (by simpa using List.find?_some hx)).symm

/-- The pass returns the best entries unless a shorter match comes first and no longest match has
a metric below the one that the pass resets to. -/
theorem multiLpm_eq_bestEntries_iff (r : WcmpStaticRouting) (dest : Ipv4Address)
    (hmetric : ∀ x ∈ r.networkRoutes, x.2 < 2 ^ 32) :
    r.multiLpm dest = bestEntries dest r.networkRoutes ↔
      (∃ y ∈ r.networkRoutes, Matches dest y.1.entry ∧ Longest dest r.networkRoutes y ∧
        y.2 < 0xffffffff) ∨
      ∀ x ∈ firstMatch dest r.networkRoutes, Longest dest r.networkRoutes x := by
  have h := scanned dest r.networkRoutes fun x hx _ => Nat.le_of_lt_succ (hmetric x hx)
  exact h.entries_eq_best_iff

def subnetAfterSupernet : WcmpStaticRouting :=
  { WcmpStaticRouting.new 1 none with
    networkRoutes := [
      (⟨0, .createNetworkRouteTo (.ofOctets 10 0 0 0) (.ofPrefix 8) 1⟩, 0),
      (⟨1, .createNetworkRouteTo (.ofOctets 10 1 1 0) (.ofPrefix 24) 2⟩, 0xffffffff)] }

theorem multiLpm_eq_bestEntries_iff_supernet :
    subnetAfterSupernet.multiLpm (.ofOctets 10 1 1 2) =
        bestEntries (.ofOctets 10 1 1 2) subnetAfterSupernet.networkRoutes ↔ False :=
  (multiLpm_eq_bestEntries_iff subnetAfterSupernet (.ofOctets 10 1 1 2) (by decide)).trans
    (iff_false_intro (by decide))

theorem multiLpm_keeps_shorter_match :
    ¬ ∀ (r : WcmpStaticRouting) (dest : Ipv4Address), (∀ x ∈ r.networkRoutes, x.2 < 2 ^ 32) →
      r.multiLpm dest = bestEntries dest r.networkRoutes := by
  intro h
  have hboth := h subnetAfterSupernet (.ofOctets 10 1 1 2) (by decide)
  revert hboth
  decide

end WcmpStaticRouting

end SwarmSim.Wcmp
