import Mathlib.Logic.Function.Basic
import Mathlib.Tactic

/-! Counting loops over an arbitrary state, and the rules by which a loop is
replaced by what it does to one component of the state. -/

namespace SwarmSim.Machine

variable {σ τ ε : Type*}

/-- `for (i = 0; i < n; i++) f i`. -/
def forRange (f : ℕ → σ → σ) : ℕ → σ → σ
  | 0, s => s
  | n + 1, s => f n (forRange f n s)

@[simp] lemma forRange_zero (f : ℕ → σ → σ) (s : σ) : forRange f 0 s = s := rfl

lemma forRange_succ (f : ℕ → σ → σ) (n : ℕ) (s : σ) :
    forRange f (n + 1) s = f n (forRange f n s) := rfl

lemma forRange_invariant {P : ℕ → σ → Prop} {f : ℕ → σ → σ} {n : ℕ} {s : σ} (h : P 0 s)
    (hb : ∀ i s, i < n → P i s → P (i + 1) (f i s)) : P n (forRange f n s) := by
  induction n with
  | zero => exact h
  | succ n ih =>
    rw [forRange_succ]
    exact hb n _ n.lt_succ_self (ih fun i s hi => hb i s (hi.trans n.lt_succ_self))

lemma forRange_preserves {P : σ → Prop} {f : ℕ → σ → σ} {n : ℕ} {s : σ} (h : P s)
    (hb : ∀ i s, i < n → P s → P (f i s)) : P (forRange f n s) :=
  forRange_invariant (P := fun _ => P) h hb

lemma forRange_establishes {P : σ → Prop} {f : ℕ → σ → σ} {n k : ℕ} {s : σ} (hk : k < n)
    (he : ∀ s, P (f k s)) (hb : ∀ i s, i < n → P s → P (f i s)) :
    P (forRange f n s) := by
  have hi : k < n → P (forRange f n s) := by
    apply forRange_invariant (P := fun i s => k < i → P s) (by omega)
    intro i s hi hs hki
    rcases Nat.lt_succ_iff_lt_or_eq.mp hki with hlt | rfl
    · exact hb i s hi (hs hlt)
    · exact he s
  exact hi hk

lemma forRange_related {R : σ → τ → Prop} {f : ℕ → σ → σ} {g : ℕ → τ → τ} {n : ℕ} {s : σ} {t : τ}
    (h : R s t) (hb : ∀ i s t, i < n → R s t → R (f i s) (g i t)) :
    R (forRange f n s) (forRange g n t) := by
  induction n with
  | zero => exact h
  | succ n ih => exact hb n _ _ n.lt_succ_self (ih fun i s t hi => hb i s t (hi.trans n.lt_succ_self))

lemma forRange_congr {f g : ℕ → σ → σ} {n : ℕ} (s : σ) (h : ∀ i s, i < n → f i s = g i s) :
    forRange f n s = forRange g n s := by
  induction n with
  | zero => rfl
  | succ n ih =>
    rw [forRange_succ, forRange_succ, ih fun i s hi => h i s (hi.trans n.lt_succ_self)]
    exact h n _ n.lt_succ_self

lemma forRange_map {f : ℕ → σ → σ} {g : ℕ → τ → τ} (π : σ → τ) {n : ℕ} (s : σ)
    (h : ∀ i s, i < n → π (f i s) = g i (π s)) : π (forRange f n s) = forRange g n (π s) := by
  induction n with
  | zero => rfl
  | succ n ih =>
    rw [forRange_succ, forRange_succ, h n _ n.lt_succ_self,
      ih fun i s hi => h i s (hi.trans n.lt_succ_self)]

@[simp] lemma forRange_id (n : ℕ) (s : σ) : forRange (fun _ s => s) n s = s := by
  induction n with
  | zero => rfl
  | succ n ih => rw [forRange_succ, ih]

@[simp] lemma forRange_if (c : Prop) [Decidable c] (f : ℕ → σ → σ) (n : ℕ) (s : σ) :
    forRange (fun i s => if c then f i s else s) n s = if c then forRange f n s else s := by
  by_cases hc : c
  · simp only [if_pos hc]
  · simp only [if_neg hc, forRange_id]

@[simp] lemma forRange_at (k : ℕ) (f : ℕ → σ → σ) (n : ℕ) (s : σ) :
    forRange (fun i s => if k = i then f i s else s) n s = if k < n then f k s else s := by
  induction n with
  | zero => simp
  | succ n ih =>
    rw [forRange_succ, ih]
    rcases Nat.lt_trichotomy k n with hlt | rfl | hgt
    · rw [if_neg hlt.ne, if_pos hlt, if_pos (hlt.trans n.lt_succ_self)]
    · rw [if_pos rfl, if_neg k.lt_irrefl, if_pos k.lt_succ_self]
    · rw [if_neg hgt.ne', if_neg (by omega), if_neg (by omega)]

@[simp] lemma forRange_at_left (k : ℕ) (c : Prop) [Decidable c] (f : ℕ → σ → σ) (n : ℕ) (s : σ) :
    forRange (fun i s => if k = i ∧ c then f i s else s) n s = if k < n ∧ c then f k s else s := by
  by_cases hc : c
  · simp only [hc, and_true, forRange_at]
  · simp only [hc, and_false, if_false, forRange_id]

@[simp] lemma forRange_at_right (k : ℕ) (c : Prop) [Decidable c] (f : ℕ → σ → σ) (n : ℕ) (s : σ) :
    forRange (fun i s => if c ∧ k = i then f i s else s) n s = if c ∧ k < n then f k s else s := by
  by_cases hc : c
  · simp only [hc, true_and, forRange_at]
  · simp only [hc, false_and, if_false, forRange_id]

section Nested

variable {P : σ → Prop} {f : ℕ → ℕ → ℕ → σ → σ} {a b c i j k : ℕ} {s : σ}

lemma nested_preserves (h : P s)
    (hf : ∀ i j k s, i < a → j < b → k < c → P s → P (f i j k s)) :
    P (forRange (fun i s => forRange (fun j s => forRange (fun k s => f i j k s) c s) b s) a s) := by
  apply forRange_preserves h
  intro i s hi hs
  apply forRange_preserves hs
  intro j s hj hs
  apply forRange_preserves hs
  intro k s hk hs
  exact hf i j k s hi hj hk hs

lemma nested_establishes (hi : i < a) (hj : j < b) (hk : k < c) (he : ∀ s, P (f i j k s))
    (hf : ∀ i j k s, i < a → j < b → k < c → P s → P (f i j k s)) :
    P (forRange (fun i s => forRange (fun j s => forRange (fun k s => f i j k s) c s) b s) a s) := by
  apply forRange_establishes hi
  · intro s
    apply forRange_establishes hj
    · intro s
      apply forRange_establishes hk he
      intro k s hk hs
      exact hf i j k s hi hj hk hs
    · intro j s hj hs
      apply forRange_preserves hs
      intro k s hk hs
      exact hf i j k s hi hj hk hs
  · intro i s hi hs
    apply forRange_preserves hs
    intro j s hj hs
    apply forRange_preserves hs
    intro k s hk hs
    exact hf i j k s hi hj hk hs

end Nested

/-- A loop whose iterations may fault; the first fault ends it. -/
def forRangeM (f : ℕ → σ → Except ε σ) : ℕ → σ → Except ε σ
  | 0, s => .ok s
  | n + 1, s => (forRangeM f n s).bind (f n)

lemma forRangeM_ok {P : σ → Prop} {f : ℕ → σ → Except ε σ} {g : ℕ → σ → σ} {n : ℕ} {s : σ} (h : P s)
    (hf : ∀ i s, i < n → P s → f i s = .ok (g i s) ∧ P (g i s)) :
    forRangeM f n s = .ok (forRange g n s) ∧ P (forRange g n s) := by
  induction n with
  | zero => exact ⟨rfl, h⟩
  | succ n ih =>
    obtain ⟨he, hp⟩ := ih fun i s hi => hf i s (hi.trans n.lt_succ_self)
    rw [forRangeM, he, forRange_succ]
    exact hf n _ n.lt_succ_self hp

lemma forRangeM_skip {P : σ → Prop} {c : ℕ → Prop} [DecidablePred c] {f : ℕ → σ → Except ε σ}
    {g : ℕ → σ → σ} {n : ℕ} {s : σ} (h : P s)
    (hf : ∀ i s, i < n → ¬ c i → P s → f i s = .ok (g i s) ∧ P (g i s)) :
    forRangeM (fun i s => if c i then .ok s else f i s) n s =
      .ok (forRange (fun i s => if c i then s else g i s) n s) ∧
      P (forRange (fun i s => if c i then s else g i s) n s) := by
  apply forRangeM_ok h
  intro i s hi hs
  by_cases hc : c i
  · simp only [if_pos hc]
    exact ⟨trivial, hs⟩
  · simp only [if_neg hc]
    exact hf i s hi hc hs

end SwarmSim.Machine
