import SwarmSim.Wcmp.StaticRouting

namespace SwarmSim.Wcmp

open Machine Ns3

namespace WcmpWeights

lemma answer_mem {up : List (EntryPtr × ℕ)} {hash : ℕ} {e : EntryPtr}
    (h : answer up hash = .ok (some e)) : ∃ w, (e, w) ∈ up := by
  have hsums : ∀ (m a : ℕ) (l : List (EntryPtr × ℕ)) (p : EntryPtr × ℕ),
      p ∈ runningSums m a l → ∃ w, (p.1, w) ∈ l := by
    intro m a l
    induction l generalizing a with
    | nil => simp [runningSums]
    | cons q l ih =>
      intro p hp
      rcases List.mem_cons.mp hp with rfl | hp
      · exact ⟨q.2, List.mem_cons_self⟩
      · obtain ⟨w, hw⟩ := ih _ p hp
        exact ⟨w, List.mem_cons_of_mem q hw⟩
  rw [answer] at h
  split at h
  · cases h
  · split at h
    · cases h
    · rename_i p hp
      obtain rfl := Option.some.inj (Except.ok.inj h)
      exact hsums _ _ _ p (hp ▸ List.mem_singleton_self p)
    · split at h
      · rename_i hp
        obtain rfl := Option.some.inj (Except.ok.inj h)
        obtain ⟨q, hq, rfl⟩ := Option.map_eq_some_iff.mp hp
        exact hsums _ _ _ q (List.mem_of_find?_eq_some hq)
      · obtain ⟨q, hq, rfl⟩ := Option.map_eq_some_iff.mp (Except.ok.inj h)
        exact hsums _ _ _ q (List.mem_of_getLast? hq)

lemma answer_not_none (up : List (EntryPtr × ℕ)) (hash : ℕ) : answer up hash ≠ .ok none := by
  intro h
  rw [answer] at h
  split at h
  · cases h
  · rename_i hsum
    split at h
    · rename_i hnil
      cases up with
      | nil => simp at hsum
      | cons p l => simp [runningSums] at hnil
    · cases h
    · rename_i hne _
      split at h
      · cases h
      · have hl : (runningSums (2 ^ 32) 0 up).getLast? = none := by
          simpa using Except.ok.inj h
        exact hne (List.getLast?_eq_none_iff.mp hl)

lemma answer_cases (up : List (EntryPtr × ℕ)) (hash : ℕ) :
    (total up % 2 ^ 32 = 0 ∧ answer up hash = .error (.abort "!sum")) ∨
      (total up % 2 ^ 32 ≠ 0 ∧ ∃ e w, answer up hash = .ok (some e) ∧ (e, w) ∈ up) := by
  by_cases h : total up % 2 ^ 32 = 0
  · exact Or.inl ⟨h, by rw [answer, if_pos h]⟩
  · refine Or.inr ⟨h, ?_⟩
    cases ha : answer up hash with
    | error f =>
      rw [answer, if_neg h] at ha
      split at ha
      · cases ha
      · cases ha
      · split at ha <;> cases ha
    | ok o =>
      cases o with
      | none => exact (answer_not_none up hash ha).elim
      | some e =>
        obtain ⟨w, hw⟩ := answer_mem ha
        exact ⟨e, w, rfl, hw⟩

lemma mem_upWeights {w : WcmpWeights} {level : ℕ} {es : List EntryPtr} {e : EntryPtr} {x : ℕ} :
    (e, x) ∈ w.upWeights level es ↔
      e ∈ es ∧ w.isIfUp e.getInterface = true ∧ x = w.getWeight e.getInterface level := by
  simp only [upWeights, List.mem_map, List.mem_filter, Prod.mk.injEq]
  constructor
  · rintro ⟨_, ⟨hm, hu⟩, rfl, rfl⟩
    exact ⟨hm, hu, rfl⟩
  · rintro ⟨hm, hu, rfl⟩
    exact ⟨e, ⟨hm, hu⟩, rfl, rfl⟩

end WcmpWeights

namespace WcmpStaticRouting

variable {r : WcmpStaticRouting} {dest : Ipv4Address} {hash iif : ℕ} {useCache : Bool}

lemma visit_entries (dest : Ipv4Address) (s : LpmScan) (i : EntryPtr × ℕ) (e : EntryPtr)
    (h : e ∈ (s.visit dest i).entries) : e ∈ s.entries ∨ e = i.1 := by
  simp only [LpmScan.visit] at h
  generalize (if s.longestMask < i.1.entry.destNetworkMask.getPrefixLength then 0xffffffff
    else s.shortestMetric) = shortest at h
  split at h
  · split at h
    · exact Or.inl h
    · split at h
      · exact Or.inl h
      · rcases List.mem_append.mp h with h | h
        · split at h
          · simp at h
          · exact Or.inl h
        · exact Or.inr (List.mem_singleton.mp h)
  · exact Or.inl h

lemma multiLpm_mem {e : EntryPtr} (h : e ∈ r.multiLpm dest) : e ∈ r.entries := by
  have hfold : ∀ (l : List (EntryPtr × ℕ)) (s : LpmScan),
      e ∈ (l.foldl (LpmScan.visit dest) s).entries → e ∈ s.entries ∨ e ∈ l.map Prod.fst := by
    intro l
    induction l with
    | nil => exact fun s h => Or.inl h
    | cons i l ih =>
      intro s h
      rcases ih _ h with h | h
      · rcases visit_entries dest s i e h with h | rfl
        · exact Or.inl h
        · exact Or.inr List.mem_cons_self
      · exact Or.inr (List.mem_cons_of_mem _ h)
  exact (hfold _ _ h).resolve_left (by simp)

lemma candidates_mem {e : EntryPtr} (h : e ∈ r.candidates dest iif) :
    e ∈ r.entries ∧ e.getInterface ≠ iif := by
  have hf := List.mem_filter.mp h
  exact ⟨multiLpm_mem hf.1, by simpa using hf.2⟩

lemma outputRoute_live {e : EntryPtr} (h : e ∈ r.entries) :
    r.outputRoute e = .ok (some e.route) := if_pos h

def contenders (dest : Ipv4Address) (iif : ℕ) (r : WcmpStaticRouting) : List (EntryPtr × ℕ) :=
  r.weights.upWeights (r.level dest) (r.candidates dest iif)

lemma contenders_mem {e : EntryPtr} {w : ℕ} (h : (e, w) ∈ r.contenders dest iif) :
    e ∈ r.candidates dest iif := (WcmpWeights.mem_upWeights.mp h).1

lemma candidates_congr {r' : WcmpStaticRouting} (h : r.networkRoutes = r'.networkRoutes) :
    r.candidates dest iif = r'.candidates dest iif := by
  rw [candidates, candidates, multiLpm, multiLpm, h]

lemma contenders_congr {r' : WcmpStaticRouting} (h : r.networkRoutes = r'.networkRoutes)
    (hm : r.levelMapper = r'.levelMapper) (hw : WcmpWeights.Same r.weights r'.weights) :
    r.contenders dest iif = r'.contenders dest iif := by
  rw [contenders, contenders, candidates_congr h, hw.upWeights, level, level, hm]

lemma lookupWcmp_hit {p : EntryPtr} (h : r.lookupCache hash = some p) :
    r.lookupWcmp true dest hash iif = (r.outputRoute p, r) := by
  simp only [lookupWcmp, if_true, h]

lemma lookupWcmp_none (hc : useCache = true → r.lookupCache hash = none)
    (h : r.candidates dest iif = []) : r.lookupWcmp useCache dest hash iif = (.ok none, r) := by
  have hcache : (if useCache then r.lookupCache hash else none) = none := by
    cases useCache
    · rfl
    · exact hc rfl
  simp only [lookupWcmp, hcache, h, if_true, ite_self]

/-- The protocol after a choice for `dest`: reading the two maps may have filled them. -/
def chose (dest : Ipv4Address) (hash iif : ℕ) (r : WcmpStaticRouting) : WcmpStaticRouting :=
  { r with weights := (r.weights.choose (r.candidates dest iif) hash (r.level dest)).2 }

lemma lookupWcmp_miss (hc : useCache = true → r.lookupCache hash = none)
    (h : r.candidates dest iif ≠ []) : r.lookupWcmp useCache dest hash iif =
      match WcmpWeights.answer (r.contenders dest iif) hash with
      | .error f => (.error f, r.chose dest hash iif)
      | .ok e => (.ok (e.map EntryPtr.route),
          if useCache then (r.chose dest hash iif).updateCache hash e else r.chose dest hash iif) := by
  have hcache : (if useCache then r.lookupCache hash else none) = none := by
    cases useCache
    · rfl
    · exact hc rfl
  have hlpm : r.multiLpm dest ≠ [] := by
    intro hn
    exact h (by rw [candidates, hn, List.filter_nil])
  have hchoose : r.weights.choose (r.candidates dest iif) hash (r.level dest) =
      (WcmpWeights.answer (r.contenders dest iif) hash, (r.chose dest hash iif).weights) :=
    Prod.ext WcmpWeights.choose_answer rfl
  simp only [lookupWcmp, hcache, if_neg hlpm, if_neg h, hchoose]
  cases ha : WcmpWeights.answer (r.contenders dest iif) hash with
  | error f => rfl
  | ok o =>
    cases o with
    | none => exact (WcmpWeights.answer_not_none _ _ ha).elim
    | some e =>
      obtain ⟨w, hw⟩ := WcmpWeights.answer_mem ha
      obtain ⟨hlive, hiif⟩ := candidates_mem (contenders_mem hw)
      simp only [if_neg hiif]
      refine Prod.ext (outputRoute_live ?_) rfl
      cases useCache
      · exact hlive
      · simp only [if_true, updateCache]
        split <;> exact hlive

@[simp] lemma updateCache_networkRoutes (p : Option EntryPtr) :
    (r.updateCache hash p).networkRoutes = r.networkRoutes := by
  rw [updateCache]; split <;> rfl

lemma updateCache_cache (h : r.cache hash = none) (p : Option EntryPtr) :
    (r.updateCache hash p).cache = Function.update r.cache hash (some p) := by
  simp only [updateCache, h]

@[simp] lemma updateCache_levelMapper (p : Option EntryPtr) :
    (r.updateCache hash p).levelMapper = r.levelMapper := by
  rw [updateCache]; split <;> rfl

@[simp] lemma updateCache_nextAddress (p : Option EntryPtr) :
    (r.updateCache hash p).nextAddress = r.nextAddress := by
  rw [updateCache]; split <;> rfl

@[simp] lemma updateCache_weights (p : Option EntryPtr) :
    (r.updateCache hash p).weights = r.weights := by
  rw [updateCache]; split <;> rfl

def HasRoute (r : WcmpStaticRouting) (e : Ipv4RoutingTableEntry) (metric : ℕ) : Prop :=
  ∃ a, (⟨a, e⟩, metric) ∈ r.networkRoutes

def CacheLive (r : WcmpStaticRouting) : Prop :=
  ∀ hash e, r.cache hash = some (some e) → e ∈ r.entries

lemma cacheLive_of_empty (h : ∀ hash, r.cache hash = none) : r.CacheLive := by
  intro hash e he
  rw [h] at he
  cases he

lemma CacheLive.lookupCache (h : r.CacheLive) {e : EntryPtr} (he : r.lookupCache hash = some e) :
    e ∈ r.entries := by
  rw [WcmpStaticRouting.lookupCache] at he
  cases hc : r.cache hash with
  | none => simp [hc] at he
  | some p =>
    rw [hc, Option.getD_some] at he
    exact h hash e (he ▸ hc)

lemma lookupWcmp_outcome (useCache : Bool) (dest : Ipv4Address) (hash iif : ℕ) (h : r.CacheLive) :
    (∃ a, (r.lookupWcmp useCache dest hash iif).1 = .ok a) ∨
      ((useCache = true → r.lookupCache hash = none) ∧ r.candidates dest iif ≠ [] ∧
        total (r.contenders dest iif) % 2 ^ 32 = 0 ∧
        (r.lookupWcmp useCache dest hash iif).1 = .error (.abort "!sum")) := by
  by_cases hc : useCache = true → r.lookupCache hash = none
  · by_cases hn : r.candidates dest iif = []
    · exact Or.inl ⟨none, by rw [lookupWcmp_none hc hn]⟩
    · rw [lookupWcmp_miss hc hn]
      rcases WcmpWeights.answer_cases (r.contenders dest iif) hash with ⟨hs, ha⟩ | ⟨_, e, _, ha, _⟩
      · exact Or.inr ⟨hc, hn, hs, by rw [ha]⟩
      · exact Or.inl ⟨_, by rw [ha]⟩
  · obtain ⟨rfl, hne⟩ := Classical.not_imp.mp hc
    obtain ⟨p, hp⟩ := Option.ne_none_iff_exists'.mp hne
    exact Or.inl ⟨_, by rw [lookupWcmp_hit hp, outputRoute_live (h.lookupCache hp)]⟩

/-- `LookupWcmp` as `RouteOutput` calls it always aborts. As `RouteInput` calls it, it never
reads through a null or a dangling pointer, and it answers with or without a route unless the
weights of the up candidates left by the input interface filter sum to zero. -/
theorem lookupWcmp_answers (r : WcmpStaticRouting) (useCache : Bool) (dest : Ipv4Address)
    (hash iif : ℕ) (h : r.CacheLive) :
    (r.lookupWcmpOutput dest hash).1 = .error (.abort "This function should not be used!") ∧
    (r.lookupWcmp useCache dest hash iif).1 ≠ .error .nullPointer ∧
    (r.lookupWcmp useCache dest hash iif).1 ≠ .error .useAfterFree ∧
    (((useCache = true → r.lookupCache hash = none) → r.candidates dest iif ≠ [] →
        total (r.contenders dest iif) % 2 ^ 32 ≠ 0) →
      ∃ a, (r.lookupWcmp useCache dest hash iif).1 = .ok a) := by
  rcases lookupWcmp_outcome useCache dest hash iif h with
    ⟨a, ha⟩ | ⟨hc, hn, hs, ha⟩
  · rw [ha]
    exact ⟨rfl, by simp, by simp, fun _ => ⟨a, rfl⟩⟩
  · rw [ha]
    exact ⟨rfl, by simp, by simp, fun hpos => (hpos hc hn hs).elim⟩

theorem lookupWcmp_answers_two_uplinks :
    let r := (((new 2 none).addWildcardRoute 1 0).addWildcardRoute 2 0).notifyInterfaceUp 2 true
    ∃ a, (r.lookupWcmp true 0x0a000001#32 7 3).1 = .ok a :=
  (lookupWcmp_answers _ true 0x0a000001#32 7 3 (cacheLive_of_empty fun _ => rfl)).2.2.2
    fun _ _ => by decide

theorem lookupWcmp_aborts_all_down :
    let r := ((new 2 none).addWildcardRoute 1 0).notifyInterfaceDown 1
    r.CacheLive ∧
    (r.lookupWcmpOutput 0x0a000001#32 7).1 =
      .error (.abort "This function should not be used!") ∧
    (r.lookupWcmp false 0x0a000001#32 7 3).1 = .error (.abort "!sum") :=
  ⟨cacheLive_of_empty fun _ => rfl, rfl, rfl⟩

/-- Two protocols that differ at most in their caches, and that no call but a cached lookup can
tell apart. -/
structure Twin (r r' : WcmpStaticRouting) : Prop where
  levelMapper : r.levelMapper = r'.levelMapper
  networkRoutes : r.networkRoutes = r'.networkRoutes
  nextAddress : r.nextAddress = r'.nextAddress
  weights : WcmpWeights.Alike r.weights r'.weights

section Twin

variable {r' : WcmpStaticRouting}

lemma Twin.with_weights {w v : WcmpWeights} (h : Twin r r') (hw : WcmpWeights.Alike w v) :
    Twin { r with weights := w } { r' with weights := v } :=
  ⟨h.levelMapper, h.networkRoutes, h.nextAddress, hw⟩

lemma Twin.candidates (h : Twin r r') :
    WcmpStaticRouting.candidates dest iif r = WcmpStaticRouting.candidates dest iif r' :=
  candidates_congr h.networkRoutes

lemma Twin.contenders (h : Twin r r') :
    WcmpStaticRouting.contenders dest iif r = WcmpStaticRouting.contenders dest iif r' :=
  contenders_congr h.networkRoutes h.levelMapper h.weights.same

lemma Twin.chose (h : Twin r r') :
    Twin (WcmpStaticRouting.chose dest hash iif r) (WcmpStaticRouting.chose dest hash iif r') := by
  refine h.with_weights ?_
  rw [h.candidates, level, level, h.levelMapper]
  exact h.weights.choose

lemma Twin.updateCache (h : Twin r r') (p : Option EntryPtr) : Twin (r.updateCache hash p) r' := by
  refine ⟨?_, ?_, ?_, ?_⟩
  · rw [updateCache_levelMapper, h.levelMapper]
  · rw [updateCache_networkRoutes, h.networkRoutes]
  · rw [updateCache_nextAddress, h.nextAddress]
  · rw [updateCache_weights]
    exact h.weights

lemma Twin.addNetworkRouteTo (h : Twin r r') (network : Ipv4Address) (mask : Ipv4Mask)
    (i metric : ℕ) : Twin (r.addNetworkRouteTo network mask i metric)
      (r'.addNetworkRouteTo network mask i metric) := by
  have hfound : r.lookupRoute (.createNetworkRouteTo network mask i) metric =
      r'.lookupRoute (.createNetworkRouteTo network mask i) metric := by
    rw [lookupRoute, lookupRoute, h.networkRoutes]
  rw [WcmpStaticRouting.addNetworkRouteTo, WcmpStaticRouting.addNetworkRouteTo, hfound]
  split
  · exact h
  · refine ⟨h.levelMapper, ?_, ?_, h.weights⟩
    · simp only [h.networkRoutes, h.nextAddress]
    · simp only [h.nextAddress]

lemma Twin.notifyRemoveAddress (h : Twin r r') (i : ℕ) (isUp : Bool) (a : Ipv4InterfaceAddress) :
    (r.notifyRemoveAddress i isUp a).1 = (r'.notifyRemoveAddress i isUp a).1 ∧
      Twin (r.notifyRemoveAddress i isUp a).2 (r'.notifyRemoveAddress i isUp a).2 := by
  simp only [WcmpStaticRouting.notifyRemoveAddress, h.networkRoutes]
  split
  · exact ⟨rfl, h⟩
  · exact ⟨rfl, h.levelMapper, rfl, h.nextAddress, h.weights⟩

lemma Twin.lookup_miss (dest : Ipv4Address) (iif : ℕ) (h : Twin r r') (hc : useCache = true → r.lookupCache hash = none) :
    (r.lookupWcmp useCache dest hash iif).1 = (r'.lookupWcmp false dest hash iif).1 ∧
      Twin (r.lookupWcmp useCache dest hash iif).2 (r'.lookupWcmp false dest hash iif).2 := by
  have hfree : false = true → r'.lookupCache hash = none := by simp
  by_cases hn : r.candidates dest iif = []
  · have hn' : r'.candidates dest iif = [] := by rwa [← h.candidates]
    rw [lookupWcmp_none hc hn, lookupWcmp_none hfree hn']
    exact ⟨rfl, h⟩
  · have hn' : r'.candidates dest iif ≠ [] := by rwa [← h.candidates]
    rw [lookupWcmp_miss hc hn, lookupWcmp_miss hfree hn', h.contenders]
    cases WcmpWeights.answer (r'.contenders dest iif) hash with
    | error f => exact ⟨rfl, h.chose⟩
    | ok e =>
      refine ⟨rfl, ?_⟩
      simp only [Bool.false_eq_true, if_false]
      split
      · exact h.chose.updateCache e
      · exact h.chose

end Twin

end WcmpStaticRouting

def Call.isLookup : Call → Bool
  | .lookupWcmp _ _ _ => true
  | _ => false

section Calls

variable {r r' : WcmpStaticRouting} {c : Call}

open WcmpStaticRouting

lemma addNetworkRouteTo_frame (r : WcmpStaticRouting) (network : Ipv4Address) (mask : Ipv4Mask)
    (i metric : ℕ) : (r.addNetworkRouteTo network mask i metric).cache = r.cache ∧
      (r.addNetworkRouteTo network mask i metric).weights = r.weights ∧
      (r.addNetworkRouteTo network mask i metric).levelMapper = r.levelMapper := by
  rw [addNetworkRouteTo]
  split <;> exact ⟨rfl, rfl, rfl⟩

lemma addNetworkRouteTo_hasRoute (r : WcmpStaticRouting) (network : Ipv4Address) (mask : Ipv4Mask)
    (i metric : ℕ) (e : Ipv4RoutingTableEntry) (m : ℕ) :
    (r.addNetworkRouteTo network mask i metric).HasRoute e m ↔
      (e = .createNetworkRouteTo network mask i ∧ m = metric) ∨ r.HasRoute e m := by
  rw [addNetworkRouteTo]
  split
  · rename_i h
    obtain ⟨x, hx, hm⟩ := List.any_eq_true.mp h
    simp only [Bool.and_eq_true, decide_eq_true_eq] at hm
    constructor
    · exact Or.inr
    · rintro (⟨rfl, rfl⟩ | hr)
      · refine ⟨x.1.address, ?_⟩
        rw [← hm.1, ← hm.2]
        exact hx
      · exact hr
  · simp only [HasRoute, List.mem_append, List.mem_singleton, Prod.mk.injEq, EntryPtr.mk.injEq]
    constructor
    · rintro ⟨a, ha | ⟨⟨-, he⟩, hm⟩⟩
      · exact Or.inr ⟨a, ha⟩
      · exact Or.inl ⟨he, hm⟩
    · rintro (⟨he, hm⟩ | ⟨a, ha⟩)
      · exact ⟨r.nextAddress, Or.inr ⟨⟨rfl, he⟩, hm⟩⟩
      · exact ⟨a, Or.inl ha⟩

lemma addNetworkRouteTo_length (r : WcmpStaticRouting) (network : Ipv4Address) (mask : Ipv4Mask)
    (i metric : ℕ) : (r.addNetworkRouteTo network mask i metric).networkRoutes.length ≤
      r.networkRoutes.length + 1 := by
  rw [addNetworkRouteTo]
  split
  · exact Nat.le_succ _
  · rw [List.length_append, List.length_singleton]

lemma notifyRemoveAddress_frame (r : WcmpStaticRouting) (i : ℕ) (isUp : Bool)
    (a : Ipv4InterfaceAddress) : (r.notifyRemoveAddress i isUp a).2.cache = r.cache ∧
      (r.notifyRemoveAddress i isUp a).2.weights = r.weights := by
  rw [notifyRemoveAddress]
  split <;> exact ⟨rfl, rfl⟩

lemma step_frame (hc : c.isLookup = false) (b : Bool) (r : WcmpStaticRouting) :
    (step b c r).2.cache = r.cache ∧
      ∀ i, (r.weights.states i).isSome → ((step b c r).2.weights.states i).isSome := by
  cases c with
  | addNetworkRouteTo network mask i metric =>
    obtain ⟨hcache, hw, -⟩ := addNetworkRouteTo_frame r network mask i metric
    exact ⟨hcache, fun j hj => by simpa only [step, hw] using hj⟩
  | addWildcardRoute i metric =>
    obtain ⟨hcache, hw, -⟩ := addNetworkRouteTo_frame r 0 0 i metric
    exact ⟨hcache, fun j hj => by simpa only [step, addWildcardRoute, hw] using hj⟩
  | notifyRemoveAddress i isUp a =>
    obtain ⟨hcache, hw⟩ := notifyRemoveAddress_frame r i isUp a
    exact ⟨hcache, fun j hj => by simpa only [step, hw] using hj⟩
  | notifyAddAddress i isUp => exact ⟨rfl, fun _ hj => WcmpWeights.addInterface_tracked hj⟩
  | setInterfaceWeight i level weight => exact ⟨rfl, fun _ hj => hj⟩
  | notifyInterfaceUp i isUp =>
    exact ⟨rfl, fun _ hj => WcmpWeights.setState_tracked (WcmpWeights.addInterface_tracked hj)⟩
  | notifyInterfaceDown i => exact ⟨rfl, fun _ hj => WcmpWeights.setState_tracked hj⟩
  | lookupWcmp dest hash iif => cases hc

lemma WcmpStaticRouting.Twin.step (h : Twin r r') (hc : c.isLookup = false) (b b' : Bool) :
    (Wcmp.step b c r).1 = (Wcmp.step b' c r').1 ∧ Twin (Wcmp.step b c r).2 (Wcmp.step b' c r').2 := by
  cases c with
  | addNetworkRouteTo network mask i metric => exact ⟨rfl, h.addNetworkRouteTo network mask i metric⟩
  | addWildcardRoute i metric => exact ⟨rfl, h.addNetworkRouteTo 0 0 i metric⟩
  | notifyRemoveAddress i isUp a =>
    obtain ⟨hans, hrel⟩ := h.notifyRemoveAddress i isUp a
    exact ⟨congrArg (Except.map fun _ => Answer.done) hans, hrel⟩
  | notifyAddAddress i isUp => exact ⟨rfl, h.with_weights (h.weights.addInterface isUp)⟩
  | setInterfaceWeight i level weight => exact ⟨rfl, h.with_weights (h.weights.setWeight weight)⟩
  | notifyInterfaceUp i isUp =>
    exact ⟨rfl, h.with_weights ((h.weights.addInterface isUp).setState true)⟩
  | notifyInterfaceDown i => exact ⟨rfl, h.with_weights (h.weights.setState false)⟩
  | lookupWcmp dest hash iif => cases hc

end Calls

end SwarmSim.Wcmp
