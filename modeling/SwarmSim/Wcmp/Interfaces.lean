import SwarmSim.Wcmp.Lookup

namespace SwarmSim.Wcmp

open Machine Ns3 WcmpStaticRouting

namespace WcmpWeights

variable {w : WcmpWeights}

structure Holds (levels : ℕ) (cfg : ℕ → ℕ → ℕ) (w : WcmpWeights) : Prop where
  levels_eq : w.levels = levels
  weight {i level : ℕ} : i < 2 ^ 16 → level < levels → (w.states i).isSome →
    w.getWeight i level = cfg i level
  unset {i level : ℕ} : i < 2 ^ 16 → level < levels → ¬ (w.states i).isSome →
    cfg i level = defaultWcmpWeight

variable {levels : ℕ} {cfg : ℕ → ℕ → ℕ} {i : ℕ}

lemma states_setState_isSome (up : Bool) (j : ℕ) :
    ((w.setState i up).states j).isSome ↔ j = i ∨ (w.states j).isSome := by
  by_cases h : j = i
  · subst h; simp [setState]
  · simp [setState, h]

lemma Holds.setState (h : Holds levels cfg w) (hi : (w.states i).isSome) (up : Bool) :
    Holds levels cfg (w.setState i up) := by
  refine ⟨h.levels_eq, ?_, ?_⟩
  · intro j level hj hl hs
    rw [getWeight_setState]
    rcases (states_setState_isSome up j).mp hs with rfl | hs
    · exact h.weight hj hl hi
    · exact h.weight hj hl hs
  · intro j level hj hl hs
    rw [states_setState_isSome, not_or] at hs
    exact h.unset hj hl hs.2

lemma Holds.register (h : Holds levels cfg w) (hl : levels ≤ 2 ^ 16) (hi : i < 2 ^ 16)
    (hs : ¬ (w.states i).isSome) (up : Bool) :
    Holds levels cfg ((w.setState i up).setDefaults i) := by
  have hlev : (w.setState i up).levels = levels := h.levels_eq
  refine ⟨by rw [setDefaults_levels, hlev], ?_, ?_⟩
  · intro j level hj hlevel hj'
    rw [setDefaults_states, states_setState_isSome] at hj'
    rw [getWeight_setDefaults _ _ _ _ hi hj (by omega) (by omega), hlev, getWeight_setState]
    by_cases hji : j = i
    · subst hji
      rw [if_pos ⟨rfl, hlevel⟩, h.unset hj hlevel hs]
    · rw [if_neg (by simp [hji])]
      exact h.weight hj hlevel (hj'.resolve_left hji)
  · intro j level hj hlevel hj'
    rw [setDefaults_states, states_setState_isSome, not_or] at hj'
    exact h.unset hj hlevel hj'.2

lemma Holds.addInterface (h : Holds levels cfg w) (hl : levels ≤ 2 ^ 16) (hi : i < 2 ^ 16)
    (up : Bool) : Holds levels cfg (w.addInterface i up) := by
  rw [WcmpWeights.addInterface]
  split
  · exact h
  · rename_i hs
    exact h.register hl hi hs up

lemma addInterface_self (w : WcmpWeights) (i : ℕ) (up : Bool) :
    ((w.addInterface i up).states i).isSome := by
  rw [addInterface]
  split
  · assumption
  · rw [setDefaults_states, states_setState_isSome]
    exact Or.inl rfl

lemma addInterface_states (w : WcmpWeights) (i j : ℕ) (up : Bool) :
    ((w.addInterface i up).states j).isSome ↔ j = i ∨ (w.states j).isSome := by
  rw [addInterface]
  split
  · rename_i hi
    constructor
    · exact Or.inr
    · rintro (rfl | hj)
      · exact hi
      · exact hj
  · rw [setDefaults_states, states_setState_isSome]

lemma addInterface_isIfUp {j : ℕ} (w : WcmpWeights) (up : Bool) (h : j ≠ i) :
    (w.addInterface i up).isIfUp j = w.isIfUp j := by
  rw [addInterface]
  split
  · rfl
  · rw [isIfUp, setDefaults_states, ← isIfUp, isIfUp_setState, if_neg h]

lemma addInterface_levels (w : WcmpWeights) (i : ℕ) (up : Bool) :
    (w.addInterface i up).levels = w.levels := by
  rw [addInterface]
  split
  · rfl
  · rw [setDefaults_levels, levels_setState]

lemma addInterface_registered (w : WcmpWeights) (up : Bool) (h : (w.states i).isSome) :
    w.addInterface i up = w := by
  rw [addInterface, if_pos h]

lemma Holds.setWeight {level x : ℕ} (h : Holds levels cfg w) (hlev : levels ≤ 2 ^ 16)
    (hi : i < 2 ^ 16) (hl : level < 2 ^ 16) (hs : level < levels → (w.states i).isSome) :
    Holds levels (fun j k => if j = i ∧ k = level then x else cfg j k) (w.setWeight i level x) := by
  refine ⟨h.levels_eq, ?_, ?_⟩
  · intro j k hj hk hjs
    have hkey : getLeveledIf k j = getLeveledIf level i ↔ j = i ∧ k = level := by
      rw [getLeveledIf_inj hj hi (by omega) hl, and_comm]
    rw [getWeight_setWeight]
    simp only [hkey, h.weight hj hk hjs]
  · intro j k hj hk hjs
    rw [if_neg]
    · exact h.unset hj hk hjs
    · rintro ⟨rfl, rfl⟩
      exact hjs (hs hk)

lemma Holds.alike {v : WcmpWeights} (h : Holds levels cfg w) (ha : Alike v w) :
    Holds levels cfg v := by
  refine ⟨ha.same.levels.trans h.levels_eq, ?_, ?_⟩
  · intro i level hi hl hs
    rw [ha.same.getWeight]
    exact h.weight hi hl (ha.states ▸ hs)
  · intro i level hi hl hs
    exact h.unset hi hl (ha.states ▸ hs)

lemma holds_new (levels : ℕ) : Holds levels (fun _ _ => defaultWcmpWeight) (new levels) :=
  ⟨rfl, fun _ _ h => by simp [new] at h, fun _ _ _ => rfl⟩

lemma Holds.reset {n : ℕ} (isUp : ℕ → Bool) (hl : levels ≤ 2 ^ 16) (hn : n ≤ 2 ^ 16) :
    Holds levels (fun _ _ => defaultWcmpWeight) ((new levels).reset n isUp) ∧
      ∀ j, 0 < j → j < n → (((new levels).reset n isUp).states j).isSome := by
  rw [WcmpWeights.reset]
  have hloop := forRange_invariant (n := n - 1) (s := new levels)
    (f := fun k w => (w.setState (k + 1) (isUp (k + 1))).setDefaults (k + 1))
    (P := fun k w => Holds levels (fun _ _ => defaultWcmpWeight) w ∧
      ∀ j, (w.states j).isSome ↔ 0 < j ∧ j < k + 1) ⟨holds_new levels, fun j => ?_⟩ ?_
  · refine ⟨hloop.1, fun j hj hjn => (hloop.2 j).mpr ⟨hj, by omega⟩⟩
  · simp [new]
    omega
  · rintro k w hk ⟨hw, hs⟩
    refine ⟨hw.register hl (by omega) (fun h => ?_) _, fun j => ?_⟩
    · have := (hs _).mp h
      omega
    · rw [setDefaults_states, states_setState_isSome, hs]
      omega

end WcmpWeights

section Notifications

variable (r : WcmpStaticRouting) (i j : ℕ) (up : Bool)

lemma notifyInterfaceUp_states : ((r.notifyInterfaceUp i up).weights.states j).isSome ↔
    j = i ∨ (r.weights.states j).isSome := by
  rw [notifyInterfaceUp, WcmpWeights.states_setState_isSome, WcmpWeights.addInterface_states]
  tauto

lemma notifyInterfaceUp_isIfUp : (r.notifyInterfaceUp i up).weights.isIfUp j =
    if j = i then true else r.weights.isIfUp j := by
  rw [notifyInterfaceUp, WcmpWeights.isIfUp_setState]
  split
  · rfl
  · rename_i h
    exact WcmpWeights.addInterface_isIfUp _ _ h

lemma notifyInterfaceUp_levels :
    (r.notifyInterfaceUp i up).weights.levels = r.weights.levels :=
  WcmpWeights.addInterface_levels _ _ _

lemma notifyAddAddress_states : ((r.notifyAddAddress i up).weights.states j).isSome ↔
    j = i ∨ (r.weights.states j).isSome := WcmpWeights.addInterface_states _ _ _ _

lemma notifyInterfaceDown_states : ((r.notifyInterfaceDown i).weights.states j).isSome ↔
    j = i ∨ (r.weights.states j).isSome := WcmpWeights.states_setState_isSome _ _

lemma notifyInterfaceDown_isIfUp : (r.notifyInterfaceDown i).weights.isIfUp j =
    if j = i then false else r.weights.isIfUp j := WcmpWeights.isIfUp_setState _ _ _ _

end Notifications

section Runs

variable {useCache : Bool} {r : WcmpStaticRouting} {levels : ℕ} {cfg : ℕ → ℕ → ℕ}

def Call.InRange : Call → Prop
  | .notifyAddAddress i _ => i < 2 ^ 16
  | .setInterfaceWeight i level _ => i < 2 ^ 16 ∧ level < 2 ^ 16
  | .notifyInterfaceUp i _ => i < 2 ^ 16
  | .notifyInterfaceDown i => i < 2 ^ 16
  | _ => True

def Registered (useCache : Bool) : Call → WcmpStaticRouting → Prop
  | .notifyInterfaceDown i, r => (r.weights.states i).isSome
  | .setInterfaceWeight i level _, r => level < r.weights.levels → (r.weights.states i).isSome
  | .lookupWcmp dest hash iif, r => (useCache = true → r.lookupCache hash = none) →
    ∀ e ∈ r.candidates dest iif, (r.weights.states e.getInterface).isSome
  | _, _ => True

def Call.configure (cfg : ℕ → ℕ → ℕ) : Call → ℕ → ℕ → ℕ
  | .setInterfaceWeight i level weight => fun j k => if j = i ∧ k = level then weight else cfg j k
  | _ => cfg

def configured (cs : List Call) : ℕ → ℕ → ℕ := cs.foldl Call.configure fun _ _ => defaultWcmpWeight

lemma setIpv4_holds {mapper : Option (Ipv4Address → ℕ)} {n : ℕ} {isUp : ℕ → Bool}
    (hl : levels ≤ 2 ^ 16) (hn : n ≤ 2 ^ 16) (h0 : 0 < n → isUp 0 = true) :
    ((new levels mapper).setIpv4 n isUp).weights.Holds levels fun _ _ => defaultWcmpWeight := by
  obtain ⟨hreset, hstates⟩ := WcmpWeights.Holds.reset isUp hl hn
  rw [setIpv4]
  have hloop := forRange_preserves (n := n)
    (P := fun r : WcmpStaticRouting => r.weights.Holds levels (fun _ _ => defaultWcmpWeight) ∧
      ∀ j, 0 < j → j < n → (r.weights.states j).isSome)
    (f := fun i r => if isUp i then r.notifyInterfaceUp i true else r.notifyInterfaceDown i)
    (s := { new levels mapper with weights := (new levels mapper).weights.reset n isUp })
    ⟨hreset, hstates⟩ ?_
  · exact hloop.1
  · rintro i r hi ⟨hw, hs⟩
    split
    · refine ⟨(hw.addInterface hl (by omega) true).setState (WcmpWeights.addInterface_self _ _ _) true,
        fun j hj hjn => ?_⟩
      exact WcmpWeights.setState_tracked (WcmpWeights.addInterface_tracked (hs j hj hjn))
    · rename_i hup
      have hpos : 0 < i := by
        rcases Nat.eq_zero_or_pos i with rfl | hpos
        · exact (hup (h0 hi)).elim
        · exact hpos
      exact ⟨hw.setState (hs i hpos hi) false,
        fun j hj hjn => WcmpWeights.setState_tracked (hs j hj hjn)⟩

lemma lookup_twin {dest : Ipv4Address} {hash iif : ℕ}
    (hg : Registered useCache (.lookupWcmp dest hash iif) r) :
    Twin (r.lookupWcmp useCache dest hash iif).2 r := by
  have hr : Twin r r := ⟨rfl, rfl, rfl, .refl _⟩
  by_cases hc : useCache = true → r.lookupCache hash = none
  · by_cases hn : r.candidates dest iif = []
    · rw [lookupWcmp_none hc hn]
      exact hr
    · have hchose : Twin (r.chose dest hash iif) r :=
        ⟨rfl, rfl, rfl, WcmpWeights.choose_alike (hg hc) hash (r.level dest)⟩
      rw [lookupWcmp_miss hc hn]
      split
      · exact hchose
      · dsimp only
        split
        · exact hchose.updateCache _
        · exact hchose
  · obtain ⟨rfl, hne⟩ := Classical.not_imp.mp hc
    obtain ⟨p, hp⟩ := Option.ne_none_iff_exists'.mp hne
    rw [lookupWcmp_hit hp]
    exact hr

lemma holds_step (hl : levels ≤ 2 ^ 16) (cfg : ℕ → ℕ → ℕ) (c : Call) (r : WcmpStaticRouting)
    (hg : c.InRange ∧ Registered useCache c r) (h : r.weights.Holds levels cfg) :
    (step useCache c r).2.weights.Holds levels (c.configure cfg) := by
  obtain ⟨hrange, hreg⟩ := hg
  cases c with
  | addNetworkRouteTo network mask i metric =>
    simpa only [step, (addNetworkRouteTo_frame _ _ _ _ _).2.1] using! h
  | addWildcardRoute i metric =>
    simpa only [step, addWildcardRoute, (addNetworkRouteTo_frame _ _ _ _ _).2.1] using! h
  | notifyRemoveAddress i isUp a =>
    simpa only [step, (notifyRemoveAddress_frame _ _ _ _).2] using! h
  | notifyAddAddress i isUp => exact h.addInterface hl hrange isUp
  | setInterfaceWeight i level weight =>
    exact h.setWeight hl hrange.1 hrange.2 fun hlt => hreg (by rwa [h.levels_eq])
  | notifyInterfaceUp i isUp =>
    exact (h.addInterface hl hrange isUp).setState (WcmpWeights.addInterface_self _ _ _) true
  | notifyInterfaceDown i => exact h.setState hreg false
  | lookupWcmp dest hash iif => exact h.alike (lookup_twin hreg).weights

lemma twin_results {r r' : WcmpStaticRouting} (h : Twin r r') (cs : List Call) :
    results (step false) cs r = results (step false) cs r' := by
  refine (guarded_always (G := fun _ _ => True) fun _ _ => trivial).results_eq h ?_
  intro c r r' _ h
  cases hl : c.isLookup with
  | false =>
    obtain ⟨hans, htwin⟩ := h.step hl false false
    exact ⟨hans, fun _ _ => htwin⟩
  | true =>
    cases c with
    | lookupWcmp dest hash iif =>
      have hfree : false = true → r.lookupCache hash = none := by simp
      obtain ⟨hans, htwin⟩ := h.lookup_miss dest iif hfree
      exact ⟨congrArg (Except.map Answer.route) hans, fun _ _ => htwin⟩
    | _ => cases hl

/-- If the loopback is up when the stack is attached and no call but a registration names an
unregistered interface, every up interface has the weights last set for it, or the default
ones; and without the cache no lookup changes what later calls answer. -/
theorem weights_of_up (useCache : Bool) (levels : ℕ) (mapper : Option (Ipv4Address → ℕ)) (n : ℕ)
    (isUp : ℕ → Bool) (cs : List Call) (t : WcmpStaticRouting) (hl : levels ≤ 2 ^ 16)
    (hn : n ≤ 2 ^ 16) (h0 : 0 < n → isUp 0 = true)
    (hg : Guarded (step useCache) (fun c r => c.InRange ∧ Registered useCache c r) cs
      ((new levels mapper).setIpv4 n isUp))
    (ht : Reaches (step useCache) cs ((new levels mapper).setIpv4 n isUp) t) :
    (∀ i level, i < 2 ^ 16 → level < levels → t.weights.isIfUp i = true →
      t.weights.getWeight i level = configured cs i level) ∧
    ∀ dest hash iif cs', (useCache = true → t.lookupCache hash ≠ none) →
      Registered useCache (.lookupWcmp dest hash iif) t →
      results (step useCache) cs' (t.lookupWcmp useCache dest hash iif).2 =
        results (step useCache) cs' t := by
  constructor
  · intro i level hi hlevel hup
    have hholds := hg.reaches_foldl (setIpv4_holds hl hn h0) (holds_step hl) ht
    refine hholds.weight hi hlevel ?_
    rw [WcmpWeights.isIfUp] at hup
    cases hs : t.weights.states i with
    | none => simp [hs] at hup
    | some b => rfl
  · intro dest hash iif cs' hcache hreg
    cases useCache with
    | false => exact twin_results (lookup_twin hreg) cs'
    | true =>
      obtain ⟨p, hp⟩ := Option.ne_none_iff_exists'.mp (hcache rfl)
      rw [lookupWcmp_hit hp]

theorem weights_of_up_configured :
    let cs : List Call := [.notifyAddAddress 1 false, .setInterfaceWeight 1 0 7,
      .notifyInterfaceUp 1 true]
    ∀ t, Reaches (step false) cs ((new 2 none).setIpv4 1 fun _ => true) t →
      t.weights.isIfUp 1 = true → t.weights.getWeight 1 0 = 7 := by
  intro cs t ht
  have hg : Guarded (step false) (fun c r => c.InRange ∧ Registered false c r) cs
      ((new 2 none).setIpv4 1 fun _ => true) :=
    .cons ⟨Nat.one_lt_two_pow (by decide), trivial⟩ <|
      .cons ⟨⟨Nat.one_lt_two_pow (by decide), by positivity⟩, fun _ => by decide⟩ <|
        .cons ⟨Nat.one_lt_two_pow (by decide), trivial⟩ trivial
  exact (weights_of_up false 2 none 1 _ cs t (by decide) (by decide) (fun _ => rfl) hg ht).1 1 0
    (by decide) (by decide)

theorem weights_of_up_after_down :
    let cs : List Call := [.notifyInterfaceDown 1, .notifyInterfaceUp 1 true]
    ∃ t, Reaches (step false) cs ((new 2 none).setIpv4 1 fun _ => true) t ∧
      t.weights.isIfUp 1 = true ∧ t.weights.getWeight 1 0 ≠ configured cs 1 0 :=
  ⟨_, ⟨_, _, rfl, _, _, rfl, rfl⟩, by decide⟩

end Runs

end SwarmSim.Wcmp
