import Mathlib.Data.List.Induction
import Mathlib.Data.List.Nodup
import Mathlib.Tactic

/-! Left folds over a list that is consumed from the front: the rule for an invariant between
what was consumed and the state, and the numbering of elements by when they were first seen. -/

namespace SwarmSim.Machine

variable {σ ι ε α : Type*}

lemma bind_ok {β : Type*} {x : Except ε α} {f : α → Except ε β} {b : β} (h : x.bind f = .ok b) :
    ∃ a, x = .ok a ∧ f a = .ok b := by
  cases x with
  | error e => cases h
  | ok a => exact ⟨a, rfl, h⟩

lemma ok_bind.{u, v} {ε : Type u} {α β : Type v} (x : α) (f : α → Except ε β) :
    (Except.ok x >>= f) = f x := rfl

lemma bind_of_ok {β γ : Type*} {x : Except ε α} {f : α → Except ε β} {b : β} (h : x.bind f = .ok b)
    (g : β → Except ε γ) : (x.bind fun a => (f a).bind g) = g b := by
  obtain ⟨a, rfl, hb⟩ := bind_ok h
  rw [Except.bind, hb, Except.bind]

lemma bind_error {β : Type*} {x : Except ε α} {f : α → Except ε β} {e : ε} (h : x.bind f = .error e) :
    x = .error e ∨ ∃ a, x = .ok a ∧ f a = .error e := by
  cases x with
  | error e' =>
    cases h
    exact .inl rfl
  | ok a => exact .inr ⟨a, rfl, h⟩

lemma map_ok {β : Type*} {x : Except ε α} {f : α → β} {b : β} (h : x.map f = .ok b) :
    ∃ a, x = .ok a ∧ f a = b := by
  cases x with
  | error e => cases h
  | ok a => exact ⟨a, rfl, Except.ok.inj h⟩

/-- `I pre s` holds of the state `s` that the calls `pre` lead to. A call may count on it and on
the list that it is a part of. -/
lemma foldlM_invariant {I : List ι → σ → Prop} {f : σ → ι → Except ε σ} {cs : List ι} {s : σ}
    (h : I [] s)
    (hstep : ∀ pre c post s, cs = pre ++ c :: post → I pre s →
      ∃ t, f s c = .ok t ∧ I (pre ++ [c]) t) :
    ∃ t, cs.foldlM f s = .ok t ∧ I cs t := by
  have hpre : ∀ pre post, cs = pre ++ post → ∃ t, pre.foldlM f s = .ok t ∧ I pre t := by
    intro pre
    induction pre using List.reverseRecOn with
    | nil => exact fun _ _ => ⟨s, rfl, h⟩
    | append_singleton pre c ih =>
      intro post hcs
      have hcs : cs = pre ++ c :: post := by rw [hcs, List.append_assoc, List.singleton_append]
      obtain ⟨t, ht, hi⟩ := ih (c :: post) hcs
      obtain ⟨u, hu, hj⟩ := hstep pre c post t hcs hi
      refine ⟨u, ?_, hj⟩
      rw [List.foldlM_append, ht]
      change [c].foldlM f t = .ok u
      rw [List.foldlM_cons, hu]
      rfl
  exact hpre cs [] (List.append_nil cs).symm

lemma foldlM_concat_ok {f : σ → ι → Except ε σ} {cs : List ι} {c : ι} {s u : σ}
    (h : (cs ++ [c]).foldlM f s = .ok u) : ∃ t, cs.foldlM f s = .ok t ∧ f t c = .ok u := by
  rw [List.foldlM_append] at h
  cases ht : cs.foldlM f s with
  | error e =>
    rw [ht] at h
    cases h
  | ok t =>
    rw [ht] at h
    change [c].foldlM f t = .ok u at h
    rw [List.foldlM_cons] at h
    obtain ⟨v, hu, h⟩ := bind_ok h
    obtain rfl := Except.ok.inj h
    exact ⟨t, rfl, hu⟩

lemma foldlM_ok_mem {f : σ → ι → Except ε σ} {cs : List ι} {c : ι} {s t : σ}
    (h : cs.foldlM f s = .ok t) (hc : c ∈ cs) : ∃ u v, f u c = .ok v := by
  induction cs generalizing s with
  | nil => cases hc
  | cons d cs ih =>
    rw [List.foldlM_cons] at h
    obtain ⟨u, hd, h⟩ := bind_ok h
    rcases List.mem_cons.mp hc with rfl | hc
    · exact ⟨s, u, hd⟩
    · exact ih h hc

lemma foldlM_error {f : σ → ι → Except ε σ} {cs : List ι} {s : σ} {x : ε}
    (h : cs.foldlM f s = .error x) :
    ∃ pre c post t, cs = pre ++ c :: post ∧ pre.foldlM f s = .ok t ∧ f t c = .error x := by
  induction cs generalizing s with
  | nil => cases h
  | cons c cs ih =>
    rw [List.foldlM_cons] at h
    rcases bind_error h with hc | ⟨t, hc, h⟩
    · exact ⟨[], c, cs, s, rfl, rfl, hc⟩
    · obtain ⟨pre, d, post, u, rfl, hu, hd⟩ := ih h
      refine ⟨c :: pre, d, post, u, rfl, ?_, hd⟩
      rw [List.foldlM_cons, hc]
      exact hu

lemma foldlM_ok {I : List ι → σ → Prop} {f : σ → ι → Except ε σ} {cs : List ι} {s t : σ}
    (h : I [] s) (hstep : ∀ pre c s t, I pre s → f s c = .ok t → I (pre ++ [c]) t)
    (hrun : cs.foldlM f s = .ok t) : I cs t := by
  induction cs using List.reverseRecOn generalizing t with
  | nil =>
    obtain rfl := Except.ok.inj hrun
    exact h
  | append_singleton cs c ih =>
    obtain ⟨u, hu, hc⟩ := foldlM_concat_ok hrun
    exact hstep cs c u t (ih hu) hc

lemma foldlM_simulates {τ : Type*} {f : σ → ι → Except ε σ} {f' : τ → ι → Except ε τ} {g : σ → τ}
    {I : σ → Prop} {cs : List ι} {s : σ} (hs : I s)
    (hmap : ∀ s, ∀ c ∈ cs, I s → (f s c).map g = f' (g s) c)
    (hstep : ∀ s t, ∀ c ∈ cs, I s → f s c = .ok t → I t) :
    (cs.foldlM f s).map g = cs.foldlM f' (g s) ∧ ∀ t, cs.foldlM f s = .ok t → I t := by
  induction cs generalizing s with
  | nil => exact ⟨rfl, fun t ht => Except.ok.inj ht ▸ hs⟩
  | cons c cs ih =>
    rw [List.foldlM_cons, List.foldlM_cons, ← hmap s c List.mem_cons_self hs]
    cases hc : f s c with
    | error e => exact ⟨rfl, fun t ht => by cases ht⟩
    | ok u =>
      apply ih (hstep s u c List.mem_cons_self hs hc)
      · exact fun s d hd => hmap s d (List.mem_cons_of_mem c hd)
      · exact fun s t d hd => hstep s t d (List.mem_cons_of_mem c hd)

section Interleaved

variable {κ : Type*} [DecidableEq κ]

lemma foldl_update_apply (f : σ → ι → σ) (cs : List (κ × ι)) (s : κ → σ) (r : κ) :
    cs.foldl (fun s c => Function.update s c.1 (f (s c.1) c.2)) s r =
      ((cs.filter fun c => c.1 = r).map Prod.snd).foldl f (s r) := by
  induction cs generalizing s with
  | nil => rfl
  | cons c cs ih =>
    rw [List.foldl_cons, ih]
    by_cases hr : c.1 = r
    · have hc : (c :: cs).filter (fun c => c.1 = r) = c :: cs.filter fun c => c.1 = r :=
        List.filter_cons_of_pos (decide_eq_true hr)
      rw [hc, List.map_cons, List.foldl_cons, hr, Function.update_self]
    · have hc : (c :: cs).filter (fun c => c.1 = r) = cs.filter fun c => c.1 = r :=
        List.filter_cons_of_neg (by simpa using hr)
      rw [hc, Function.update_of_ne (Ne.symm hr)]

end Interleaved

section LastOf

variable {κ β : Type*} [DecidableEq κ]

def lastOf (l : List (κ × α)) (k : κ) : Option α := (l.filter fun c => c.1 = k).getLast?.map Prod.snd

lemma lastOf_concat (l : List (κ × α)) (c : κ × α) (k : κ) :
    lastOf (l ++ [c]) k = if c.1 = k then some c.2 else lastOf l k := by
  rw [lastOf, List.filter_append, List.filter_singleton]
  by_cases hk : c.1 = k
  · rw [decide_eq_true hk, cond_true, List.getLast?_concat, if_pos hk]
    rfl
  · rw [decide_eq_false hk, cond_false, List.append_nil, if_neg hk, lastOf]

lemma filterMap_concat (f : β → Option α) (cs : List β) (c : β) :
    (cs ++ [c]).filterMap f = cs.filterMap f ++ (f c).toList := by
  rw [List.filterMap_append]
  cases h : f c <;> simp [h]

end LastOf

section FirstSeen

variable [DecidableEq α]

def firstSeen (l : List α) : List α :=
  l.foldl (fun seen a => if a ∈ seen then seen else seen ++ [a]) []

lemma firstSeen_concat (l : List α) (a : α) :
    firstSeen (l ++ [a]) = if a ∈ firstSeen l then firstSeen l else firstSeen l ++ [a] := by
  unfold firstSeen
  rw [List.foldl_append, List.foldl_cons, List.foldl_nil]

@[simp] lemma mem_firstSeen {l : List α} {a : α} : a ∈ firstSeen l ↔ a ∈ l := by
  induction l using List.reverseRecOn with
  | nil => rfl
  | append_singleton l b ih =>
    rw [firstSeen_concat]
    split_ifs with hb
    · constructor
      · exact fun ha => List.mem_append_left _ (ih.mp ha)
      · intro ha
        rcases List.mem_append.mp ha with ha | ha
        · exact ih.mpr ha
        · rwa [List.mem_singleton.mp ha]
    · rw [List.mem_append, List.mem_append, ih]

lemma firstSeen_nodup (l : List α) : (firstSeen l).Nodup := by
  induction l using List.reverseRecOn with
  | nil => exact List.nodup_nil
  | append_singleton l a ih =>
    rw [firstSeen_concat]
    split_ifs with ha
    · exact ih
    · exact List.nodup_append.mpr ⟨ih, List.nodup_singleton a, fun b hb c hc he =>
        ha (List.mem_singleton.mp hc ▸ he ▸ hb)⟩

lemma firstSeen_length_le (l : List α) : (firstSeen l).length ≤ l.length :=
  (List.subperm_of_subset (firstSeen_nodup l) fun _ ha => mem_firstSeen.mp ha).length_le

lemma firstSeen_append (l l' : List α) : ∃ new, firstSeen (l ++ l') = firstSeen l ++ new := by
  induction l' using List.reverseRecOn with
  | nil => exact ⟨[], by rw [List.append_nil, List.append_nil]⟩
  | append_singleton l' a ih =>
    obtain ⟨new, hnew⟩ := ih
    rw [← List.append_assoc, firstSeen_concat, hnew]
    split_ifs
    · exact ⟨new, rfl⟩
    · exact ⟨new ++ [a], List.append_assoc _ _ _⟩

lemma idxOf_firstSeen_append {l : List α} {a : α} (h : a ∈ l) (l' : List α) :
    (firstSeen (l ++ l')).idxOf a = (firstSeen l).idxOf a := by
  obtain ⟨new, hnew⟩ := firstSeen_append l l'
  rw [hnew, List.idxOf_append_of_mem (mem_firstSeen.mpr h)]

lemma firstSeen_map {β : Type*} [DecidableEq β] {f : α → β} {l : List α}
    (h : ∀ a ∈ l, ∀ b ∈ l, f a = f b → a = b) : firstSeen (l.map f) = (firstSeen l).map f := by
  induction l using List.reverseRecOn with
  | nil => rfl
  | append_singleton l a ih =>
    have ih := ih fun b hb c hc =>
      h b (List.mem_append_left _ hb) c (List.mem_append_left _ hc)
    have hmem : f a ∈ l.map f ↔ a ∈ l := by
      rw [List.mem_map]
      constructor
      · rintro ⟨b, hb, he⟩
        exact h b (List.mem_append_left _ hb) a (List.mem_append_right _ (List.mem_singleton_self a))
          he ▸ hb
      · exact fun ha => ⟨a, ha, rfl⟩
    rw [List.map_append, List.map_singleton, firstSeen_concat, firstSeen_concat]
    simp only [mem_firstSeen, hmem]
    split_ifs
    · exact ih
    · rw [ih, List.map_append, List.map_singleton]

lemma map_idxOf {l : List α} (h : l.Nodup) : l.map (fun a => l.idxOf a) = List.range l.length := by
  apply List.ext_getElem
  · rw [List.length_map, List.length_range]
  · intro i hi _
    rw [List.getElem_map, List.getElem_range]
    exact h.idxOf_getElem i (by simpa using hi)

end FirstSeen

end SwarmSim.Machine
