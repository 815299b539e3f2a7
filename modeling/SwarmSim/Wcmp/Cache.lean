import SwarmSim.Wcmp.Lookup

/-! The flow cache over whole runs: when it answers as the table would, and when its
entries outlive their routes. -/

namespace SwarmSim.Wcmp

open Machine Ns3 WcmpStaticRouting

section Transparency

/-- A cached routing protocol with, for each hash value, the candidates and the contending
weights of the last lookup that found no cache entry. -/
structure Logged where
  routing : WcmpStaticRouting
  seen : ℕ → Option (List EntryPtr × List (EntryPtr × ℕ))

def Logged.note : Call → Logged → ℕ → Option (List EntryPtr × List (EntryPtr × ℕ))
  | .lookupWcmp dest hash iif, l =>
    if l.routing.cache hash = none then
      Function.update l.seen hash
        (some (l.routing.candidates dest iif, l.routing.contenders dest iif))
    else l.seen
  | _, l => l.seen

def loggedStep : Step Logged Call Answer Fault := fun c l =>
  ((step true c l.routing).1, ⟨(step true c l.routing).2, l.note c⟩)

def Unmoved : Call → Logged → Prop
  | .lookupWcmp dest hash iif, l => l.routing.cache hash ≠ none →
    l.seen hash = some (l.routing.candidates dest iif, l.routing.contenders dest iif)
  | _, _ => True

structure Logged.Mirrors (l : Logged) (r : WcmpStaticRouting) : Prop where
  twin : Twin l.routing r
  cache (hash : ℕ) (p : Option EntryPtr) : l.routing.cache hash = some p →
    ∃ e es up, p = some e ∧ l.seen hash = some (es, up) ∧
      WcmpWeights.answer up hash = .ok (some e) ∧
      ∀ e' ∈ es, (l.routing.weights.states e'.getInterface).isSome

variable {l : Logged} {r : WcmpStaticRouting} {dest : Ipv4Address} {hash iif : ℕ}

lemma Logged.Mirrors.of_twin {r₁ r₂ : WcmpStaticRouting} (h : l.Mirrors r) (ht : Twin r₁ r₂)
    (hc : r₁.cache = l.routing.cache)
    (hw : ∀ i, (l.routing.weights.states i).isSome → (r₁.weights.states i).isSome) :
    Mirrors ⟨r₁, l.seen⟩ r₂ := by
  refine ⟨ht, ?_⟩
  intro hash p hp
  obtain ⟨e, es, up, rfl, hs, ha, hes⟩ := h.cache hash p (hc ▸ hp)
  exact ⟨e, es, up, rfl, hs, ha, fun e' he' => hw _ (hes e' he')⟩

lemma Logged.Mirrors.note_free (h : l.Mirrors r) (hc : l.routing.cache hash = none)
    (x : Option (List EntryPtr × List (EntryPtr × ℕ))) :
    Mirrors ⟨l.routing, Function.update l.seen hash x⟩ r := by
  refine ⟨h.twin, ?_⟩
  intro hash' p hp
  obtain ⟨e, es, up, rfl, hs, ha, hes⟩ := h.cache hash' p hp
  have hne : hash' ≠ hash := by
    rintro rfl
    simp only [hc] at hp
    cases hp
  exact ⟨e, es, up, rfl, (Function.update_of_ne hne _ _).trans hs, ha, hes⟩

lemma Logged.Mirrors.store {es : List EntryPtr} {up : List (EntryPtr × ℕ)} {e : EntryPtr}
    (h : l.Mirrors r) (hc : l.routing.cache hash = none) (hs : l.seen hash = some (es, up))
    (ha : WcmpWeights.answer up hash = .ok (some e))
    (hes : ∀ e' ∈ es, (l.routing.weights.states e'.getInterface).isSome) :
    Mirrors ⟨l.routing.updateCache hash (some e), l.seen⟩ r := by
  refine ⟨h.twin.updateCache _, ?_⟩
  intro hash' p hp
  rw [updateCache_cache hc] at hp
  rw [updateCache_weights]
  by_cases hh : hash' = hash
  · subst hh
    rw [Function.update_self] at hp
    exact ⟨e, es, up, (Option.some.inj hp).symm, hs, ha, hes⟩
  · rw [Function.update_of_ne hh] at hp
    exact h.cache hash' p hp

lemma Logged.Mirrors.lookup_miss (h : l.Mirrors r) (hc : l.routing.cache hash = none) :
    (l.routing.lookupWcmp true dest hash iif).1 = (r.lookupWcmp false dest hash iif).1 ∧
      ∀ a, (l.routing.lookupWcmp true dest hash iif).1 = .ok a →
        Mirrors ⟨(l.routing.lookupWcmp true dest hash iif).2, l.note (.lookupWcmp dest hash iif)⟩
          (r.lookupWcmp false dest hash iif).2 := by
  have hlookup : true = true → l.routing.lookupCache hash = none := by
    intro _
    rw [WcmpStaticRouting.lookupCache, hc, Option.getD_none]
  obtain ⟨hans, htwin⟩ := h.twin.lookup_miss dest iif hlookup
  refine ⟨hans, fun a ha => ?_⟩
  have hnote : l.note (.lookupWcmp dest hash iif) = Function.update l.seen hash
      (some (l.routing.candidates dest iif, l.routing.contenders dest iif)) := if_pos hc
  have hnoted := h.note_free hc
    (some (l.routing.candidates dest iif, l.routing.contenders dest iif))
  rw [hnote]
  by_cases hn : l.routing.candidates dest iif = []
  · rw [lookupWcmp_none hlookup hn] at htwin ⊢
    exact hnoted.of_twin htwin rfl fun _ hi => hi
  · rw [lookupWcmp_miss hlookup hn] at ha ⊢
    cases hans : WcmpWeights.answer (l.routing.contenders dest iif) hash with
    | error f =>
      rw [hans] at ha
      cases ha
    | ok o =>
      cases o with
      | none => exact (WcmpWeights.answer_not_none _ _ hans).elim
      | some e =>
        have hchose : Mirrors ⟨l.routing.chose dest hash iif, Function.update l.seen hash
            (some (l.routing.candidates dest iif, l.routing.contenders dest iif))⟩
            (r.lookupWcmp false dest hash iif).2 := by
          refine hnoted.of_twin ?_ rfl fun _ hi => WcmpWeights.choose_tracked hi
          have hfree : false = true → r.lookupCache hash = none := by simp
          rw [lookupWcmp_miss hfree (by rwa [← h.twin.candidates]), ← h.twin.contenders, hans]
          exact h.twin.chose
        exact hchose.store hc (Function.update_self _ _ _) hans
          fun e' he' => WcmpWeights.choose_tracks he'

lemma Logged.Mirrors.lookup_hit (h : l.Mirrors r) (hc : l.routing.cache hash ≠ none)
    (hg : Unmoved (.lookupWcmp dest hash iif) l) :
    (l.routing.lookupWcmp true dest hash iif).1 = (r.lookupWcmp false dest hash iif).1 ∧
      Mirrors ⟨(l.routing.lookupWcmp true dest hash iif).2, l.note (.lookupWcmp dest hash iif)⟩
        (r.lookupWcmp false dest hash iif).2 := by
  have hnote : l.note (.lookupWcmp dest hash iif) = l.seen := if_neg hc
  have hfree : false = true → r.lookupCache hash = none := by simp
  obtain ⟨p, hp⟩ := Option.ne_none_iff_exists'.mp hc
  obtain ⟨e, es, up, rfl, hs, ha, hes⟩ := h.cache hash p hp
  rw [hg hc] at hs
  obtain ⟨rfl, rfl⟩ := Prod.mk.inj (Option.some.inj hs)
  have hlookup : l.routing.lookupCache hash = some e := by
    rw [WcmpStaticRouting.lookupCache, hp, Option.getD_some]
  obtain ⟨x, hx⟩ := WcmpWeights.answer_mem ha
  have hmem := contenders_mem hx
  have hn' : r.candidates dest iif ≠ [] := by
    rw [← h.twin.candidates]
    exact List.ne_nil_of_mem hmem
  have htracked : ∀ e' ∈ r.candidates dest iif, (r.weights.states e'.getInterface).isSome := by
    rw [← h.twin.candidates, ← h.twin.weights.states]
    exact hes
  rw [hnote, lookupWcmp_hit hlookup, outputRoute_live (candidates_mem hmem).1,
    lookupWcmp_miss hfree hn', ← h.twin.contenders, ha]
  refine ⟨rfl, h.of_twin ?_ rfl fun _ hi => hi⟩
  exact h.twin.with_weights (h.twin.weights.trans (WcmpWeights.choose_alike htracked _ _).symm)

lemma mirrors_step (c : Call) (l : Logged) (r : WcmpStaticRouting) (hg : Unmoved c l)
    (h : l.Mirrors r) : (loggedStep c l).1 = (step false c r).1 ∧
      ∀ a, (loggedStep c l).1 = .ok a → (loggedStep c l).2.Mirrors (step false c r).2 := by
  cases hl : c.isLookup with
  | false =>
    obtain ⟨hans, htwin⟩ := h.twin.step hl true false
    obtain ⟨hcache, hstates⟩ := step_frame hl true l.routing
    have hnote : l.note c = l.seen := by
      cases c <;> first | rfl | cases hl
    refine ⟨hans, fun _ _ => ?_⟩
    rw [loggedStep, hnote]
    exact h.of_twin htwin hcache hstates
  | true =>
    cases c with
    | lookupWcmp dest hash iif =>
      by_cases hc : l.routing.cache hash = none
      · obtain ⟨hans, hrel⟩ := h.lookup_miss hc
        refine ⟨congrArg (Except.map Answer.route) hans, fun a ha => ?_⟩
        cases hok : (l.routing.lookupWcmp true dest hash iif).1 with
        | error f =>
          simp only [loggedStep, step, hok] at ha
          cases ha
        | ok o => exact hrel o hok
      · obtain ⟨hans, hrel⟩ := h.lookup_hit hc hg
        exact ⟨congrArg (Except.map Answer.route) hans, fun _ _ => hrel⟩
    | _ => cases hl

/-- A run answers alike with and without the cache if every lookup that finds a cache entry
has the candidates, and the up ones among them the weights, that the stored choice was made from. -/
theorem results_useCache (cs : List Call) (r : WcmpStaticRouting)
    (hr : ∀ hash, r.cache hash = none) (hg : Guarded loggedStep Unmoved cs ⟨r, fun _ => none⟩) :
    results (step true) cs r = results (step false) cs r := by
  have hghost : results loggedStep cs ⟨r, fun _ => none⟩ = results (step true) cs r :=
    results_map (π := Logged.routing) fun _ _ => ⟨rfl, rfl⟩
  have hstart : Logged.Mirrors ⟨r, fun _ => none⟩ r := by
    refine ⟨⟨rfl, rfl, rfl, .refl _⟩, ?_⟩
    intro hash p hp
    rw [hr] at hp
    cases hp
  rw [← hghost]
  exact hg.results_eq hstart mirrors_step

theorem results_useCache_repeated :
    let cs : List Call := [.addWildcardRoute 1 0, .notifyInterfaceUp 1 true,
      .lookupWcmp 0x0a000001#32 7 3, .setInterfaceWeight 2 0 5, .lookupWcmp 0x0a000002#32 7 3]
    results (step true) cs (.new 2 none) = results (step false) cs (.new 2 none) :=
  results_useCache _ _ (fun _ => rfl) <| .cons trivial <| .cons trivial <|
    .cons (fun h => (h rfl).elim) <| .cons trivial <| .cons (fun _ => by decide +kernel) trivial

theorem results_useCache_stale :
    let cs : List Call := [.addWildcardRoute 1 0, .addWildcardRoute 2 0,
      .notifyInterfaceUp 1 true, .notifyInterfaceUp 2 true, .lookupWcmp 0x0a000001#32 0 3,
      .notifyInterfaceDown 1, .lookupWcmp 0x0a000001#32 0 3]
    results (step true) cs (.new 2 none) ≠ results (step false) cs (.new 2 none) := by
  decide +kernel

end Transparency

section Liveness

variable {r : WcmpStaticRouting}

lemma mem_removalLoop {p : Ipv4RoutingTableEntry → Bool} {l : List (EntryPtr × ℕ)}
    {x : EntryPtr × ℕ} (hx : x ∈ l) (hp : p x.1.entry = false) : x ∈ (removalLoop p l).2 := by
  induction l with
  | nil => cases hx
  | cons y l ih =>
    rw [removalLoop]
    rcases List.mem_cons.mp hx with rfl | hx
    · rw [hp, if_neg Bool.false_ne_true]
      exact List.mem_cons_self
    · split
      · exact hx
      · exact List.mem_cons_of_mem y (ih hx)

def Spares : Call → WcmpStaticRouting → Prop
  | .notifyRemoveAddress i isUp a, r => isUp = true →
    ∀ hash e, r.cache hash = some (some e) → boundTo i a e.entry = false
  | _, _ => True

lemma WcmpStaticRouting.CacheLive.of_entries {r' : WcmpStaticRouting} (h : r.CacheLive) (hc : r'.cache = r.cache)
    (he : ∀ hash e, r.cache hash = some (some e) → e ∈ r.entries → e ∈ r'.entries) :
    r'.CacheLive := by
  intro hash e hh
  rw [hc] at hh
  exact he hash e hh (h hash e hh)

lemma WcmpStaticRouting.CacheLive.addNetworkRouteTo (h : r.CacheLive) (network : Ipv4Address) (mask : Ipv4Mask)
    (i metric : ℕ) : (r.addNetworkRouteTo network mask i metric).CacheLive := by
  rw [WcmpStaticRouting.addNetworkRouteTo]
  split
  · exact h
  · refine h.of_entries ?_ ?_
    · rfl
    intro _ e _ he
    simp only [entries, List.map_append, List.mem_append]
    exact Or.inl he

lemma WcmpStaticRouting.CacheLive.notifyRemoveAddress {i : ℕ} {isUp : Bool} {a : Ipv4InterfaceAddress}
    (h : r.CacheLive) (hg : Spares (.notifyRemoveAddress i isUp a) r) :
    (r.notifyRemoveAddress i isUp a).2.CacheLive := by
  rw [WcmpStaticRouting.notifyRemoveAddress]
  cases isUp with
  | false => exact h
  | true =>
    refine h.of_entries ?_ ?_
    · rfl
    intro hash e hc he
    obtain ⟨x, hx, rfl⟩ := List.mem_map.mp he
    exact List.mem_map_of_mem (mem_removalLoop hx (hg rfl hash x.1 hc))

lemma WcmpStaticRouting.CacheLive.updateCache {hash : ℕ} {e : EntryPtr} (h : r.CacheLive) (he : e ∈ r.entries) :
    (r.updateCache hash (some e)).CacheLive := by
  cases hc : r.cache hash with
  | some p =>
    have hkeep : r.updateCache hash (some e) = r := by
      simp only [WcmpStaticRouting.updateCache, hc]
    rw [hkeep]
    exact h
  | none =>
    intro hash' e' he'
    rw [updateCache_cache hc] at he'
    rw [entries, updateCache_networkRoutes]
    by_cases hh : hash' = hash
    · subst hh
      rw [Function.update_self] at he'
      rwa [← Option.some.inj (Option.some.inj he')]
    · rw [Function.update_of_ne hh] at he'
      exact h hash' e' he'

lemma WcmpStaticRouting.CacheLive.lookupWcmp (h : r.CacheLive) (useCache : Bool) (dest : Ipv4Address)
    (hash iif : ℕ) : (r.lookupWcmp useCache dest hash iif).2.CacheLive := by
  by_cases hc : useCache = true → r.lookupCache hash = none
  · by_cases hn : r.candidates dest iif = []
    · rw [lookupWcmp_none hc hn]
      exact h
    · rw [lookupWcmp_miss hc hn]
      rcases WcmpWeights.answer_cases (r.contenders dest iif) hash with ⟨_, ha⟩ | ⟨_, e, x, ha, hx⟩
      · rw [ha]
        exact h
      · rw [ha]
        have hlive := (candidates_mem (contenders_mem hx)).1
        dsimp only
        split
        · apply CacheLive.updateCache
          · exact h
          · exact hlive
        · exact h
  · obtain ⟨rfl, hne⟩ := Classical.not_imp.mp hc
    obtain ⟨p, hp⟩ := Option.ne_none_iff_exists'.mp hne
    rw [lookupWcmp_hit hp]
    exact h

lemma cacheLive_step (c : Call) (r : WcmpStaticRouting) (hg : Spares c r) (h : r.CacheLive) :
    (step true c r).1 ≠ .error .useAfterFree ∧ (step true c r).2.CacheLive := by
  cases c with
  | addNetworkRouteTo network mask i metric =>
    exact ⟨by simp [step], h.addNetworkRouteTo network mask i metric⟩
  | addWildcardRoute i metric => exact ⟨by simp [step], h.addNetworkRouteTo 0 0 i metric⟩
  | notifyRemoveAddress i isUp a =>
    refine ⟨?_, h.notifyRemoveAddress hg⟩
    have hloop : ∀ (p : Ipv4RoutingTableEntry → Bool) (l : List (EntryPtr × ℕ)),
        (removalLoop p l).1 ≠ .error .useAfterFree := by
      intro p l
      induction l with
      | nil => simp [removalLoop]
      | cons x l ih =>
        rw [removalLoop]
        split
        · simp
        · exact ih
    simp only [step, WcmpStaticRouting.notifyRemoveAddress]
    split
    · simp [Except.map]
    · cases hl : (removalLoop (boundTo i a) r.networkRoutes).1 with
      | ok _ => simp [Except.map]
      | error f =>
        simp only [Except.map, ne_eq, Except.error.injEq]
        rintro rfl
        exact hloop _ _ hl
  | notifyAddAddress i isUp => exact ⟨by simp [step], h⟩
  | setInterfaceWeight i level weight => exact ⟨by simp [step], h⟩
  | notifyInterfaceUp i isUp => exact ⟨by simp [step], h⟩
  | notifyInterfaceDown i => exact ⟨by simp [step], h⟩
  | lookupWcmp dest hash iif =>
    refine ⟨?_, h.lookupWcmp true dest hash iif⟩
    rcases lookupWcmp_outcome true dest hash iif h with ⟨a, ha⟩ | ⟨_, _, _, ha⟩
    · simp [step, ha, Except.map]
    · simp [step, ha, Except.map]

/-- With caching on, every state of a run has its cache in the table, and no lookup uses a
deleted entry, if no address removal takes a route that is cached at that time. -/
theorem cacheLive_of_spares (cs : List Call) (r : WcmpStaticRouting)
    (hr : ∀ hash, r.cache hash = none) (hg : Guarded (step true) Spares cs r) :
    (∀ t, Visits (step true) cs r t → t.CacheLive) ∧
      ∀ a ∈ results (step true) cs r, a ≠ .error .useAfterFree :=
  ⟨fun _ ht => hg.invariant (cacheLive_of_empty hr) (fun c s h hs => (cacheLive_step c s h hs).2) ht,
    hg.results_all (cacheLive_of_empty hr) cacheLive_step⟩

theorem cacheLive_of_spares_down :
    let cs : List Call := [.addWildcardRoute 1 0, .notifyInterfaceUp 1 true,
      .lookupWcmp 0x0a000001#32 7 3, .notifyRemoveAddress 1 false ⟨0x0a000001#32, .ofPrefix 8⟩,
      .lookupWcmp 0x0a000001#32 7 3]
    ∀ a ∈ results (step true) cs (.new 2 none), a ≠ .error .useAfterFree := by
  intro cs
  exact (cacheLive_of_spares cs _ (fun _ => rfl) <| .cons trivial <| .cons trivial <|
    .cons trivial <| .cons (fun h => nomatch h) <| .cons trivial trivial).2

theorem cacheLive_of_spares_removed :
    let cs : List Call := [.addNetworkRouteTo 0x0a000000#32 (.ofPrefix 8) 1 1,
      .notifyInterfaceUp 1 true, .lookupWcmp 0x0a000005#32 7 3,
      .notifyRemoveAddress 1 true ⟨0x0a000001#32, .ofPrefix 8⟩]
    ∃ t, Visits (step true) cs (.new 2 none) t ∧ ¬ t.CacheLive := by
  intro cs
  let e : EntryPtr := ⟨0, .createNetworkRouteTo 0x0a000000#32 (.ofPrefix 8) 1⟩
  have hlookup : (step true (.lookupWcmp 0x0a000005#32 7 3)
      ((step true (.notifyInterfaceUp 1 true)
        ((step true (.addNetworkRouteTo 0x0a000000#32 (.ofPrefix 8) 1 1) (.new 2 none)).2)).2)).1 =
      .ok (.route (some ⟨e.entry.dest, e.entry.gateway, 1⟩)) := by decide +kernel
  refine ⟨_, .of_ok rfl <| .of_ok rfl <| .of_ok hlookup <| .next _ _ _, fun hlive => ?_⟩
  have hmem := hlive 7 e (by decide +kernel)
  revert hmem
  decide +kernel

end Liveness

end SwarmSim.Wcmp
