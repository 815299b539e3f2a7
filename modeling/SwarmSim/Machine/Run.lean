import Mathlib.Logic.Function.Basic
import Mathlib.Tactic

/-! Runs of a system that answers calls. A call returns an answer or a fault
together with the state it leaves; a fault ends the run. -/

namespace SwarmSim.Machine

variable {σ τ ι ρ ε : Type*}

abbrev Step (σ ι ρ ε : Type*) := ι → σ → Except ε ρ × σ

def results (f : Step σ ι ρ ε) : List ι → σ → List (Except ε ρ)
  | [], _ => []
  | c :: cs, s =>
    match f c s with
    | (.ok r, s') => .ok r :: results f cs s'
    | (.error e, _) => [.error e]

/-- `t` is one of the states of the run of `cs` from `s`, the one a fault leaves included. -/
inductive Visits (f : Step σ ι ρ ε) : List ι → σ → σ → Prop
  | start {cs s} : Visits f cs s s
  | fault {c cs s e t} : f c s = (.error e, t) → Visits f (c :: cs) s t
  | step {c cs s r s' t} : f c s = (.ok r, s') → Visits f cs s' t → Visits f (c :: cs) s t

def Guarded (f : Step σ ι ρ ε) (G : ι → σ → Prop) : List ι → σ → Prop
  | [], _ => True
  | c :: cs, s => G c s ∧ ∀ r s', f c s = (.ok r, s') → Guarded f G cs s'

def Reaches (f : Step σ ι ρ ε) : List ι → σ → σ → Prop
  | [], s, t => s = t
  | c :: cs, s, t => ∃ r s', f c s = (.ok r, s') ∧ Reaches f cs s' t

section

variable {f : Step σ ι ρ ε} {g : Step τ ι ρ ε} {G : ι → σ → Prop}

lemma Guarded.cons {c : ι} {cs : List ι} {s : σ} (h : G c s) (ht : Guarded f G cs (f c s).2) :
    Guarded f G (c :: cs) s := by
  refine ⟨h, fun r s' he => ?_⟩
  rwa [he] at ht

lemma Visits.next (c : ι) (cs : List ι) (s : σ) : Visits f (c :: cs) s (f c s).2 := by
  rcases h : f c s with ⟨_ | _, s'⟩
  · exact .fault h
  · exact .step h .start

lemma Visits.of_ok {c : ι} {cs : List ι} {s t : σ} {r : ρ} (h : (f c s).1 = .ok r)
    (hv : Visits f cs (f c s).2 t) : Visits f (c :: cs) s t := .step (Prod.ext h rfl) hv

lemma guarded_always {cs : List ι} {s : σ} (h : ∀ c s, G c s) : Guarded f G cs s := by
  induction cs generalizing s with
  | nil => trivial
  | cons c cs ih => exact ⟨h _ _, fun _ _ _ => ih⟩

lemma Guarded.invariant {I : σ → Prop} {cs : List ι} {s t : σ} (hg : Guarded f G cs s) (hs : I s)
    (hstep : ∀ c s, G c s → I s → I (f c s).2) (hv : Visits f cs s t) : I t := by
  induction hv with
  | start => exact hs
  | fault he => simpa only [he] using hstep _ _ hg.1 hs
  | step he _ ih => exact ih (hg.2 _ _ he) (by simpa only [he] using hstep _ _ hg.1 hs)

lemma Guarded.reaches_foldl {α : Type*} {acc : α → ι → α} {I : α → σ → Prop} {cs : List ι}
    {s t : σ} {a : α} (hg : Guarded f G cs s) (hs : I a s)
    (hstep : ∀ a c s, G c s → I a s → I (acc a c) (f c s).2) (hr : Reaches f cs s t) :
    I (cs.foldl acc a) t := by
  induction cs generalizing s a with
  | nil =>
    obtain rfl : s = t := hr
    exact hs
  | cons c cs ih =>
    obtain ⟨r, s', he, hr⟩ := hr
    have hnext := hstep a c s hg.1 hs
    rw [he] at hnext
    exact ih (hg.2 r s' he) hnext hr

lemma Guarded.results_eq {R : σ → τ → Prop} {cs : List ι} {s : σ} {t : τ} (hg : Guarded f G cs s)
    (hr : R s t) (hstep : ∀ c s t, G c s → R s t →
      (f c s).1 = (g c t).1 ∧ ∀ r, (f c s).1 = .ok r → R (f c s).2 (g c t).2) :
    results f cs s = results g cs t := by
  induction cs generalizing s t with
  | nil => rfl
  | cons c cs ih =>
    obtain ⟨hans, hrel⟩ := hstep c s t hg.1 hr
    rcases hf : f c s with ⟨a, s'⟩
    rcases hh : g c t with ⟨b, t'⟩
    simp only [hf, hh] at hans hrel
    subst hans
    cases a with
    | error e => simp only [results, hf, hh]
    | ok r => simp only [results, hf, hh, ih (hg.2 r s' hf) (hrel r rfl)]

lemma Guarded.results_all {P : Except ε ρ → Prop} {I : σ → Prop} {cs : List ι} {s : σ}
    (hg : Guarded f G cs s) (hs : I s)
    (hstep : ∀ c s, G c s → I s → P (f c s).1 ∧ I (f c s).2) : ∀ a ∈ results f cs s, P a := by
  induction cs generalizing s with
  | nil => simp [results]
  | cons c cs ih =>
    obtain ⟨hp, hi⟩ := hstep c s hg.1 hs
    rcases hf : f c s with ⟨a, s'⟩
    rw [hf] at hp hi
    cases a with
    | error e => simpa only [results, hf, List.mem_singleton, forall_eq] using hp
    | ok r =>
      simp only [results, hf, List.mem_cons, forall_eq_or_imp]
      exact ⟨hp, ih (hg.2 r s' hf) hi⟩

lemma results_map {π : σ → τ} {cs : List ι} {s : σ}
    (h : ∀ c s, (f c s).1 = (g c (π s)).1 ∧ π (f c s).2 = (g c (π s)).2) :
    results f cs s = results g cs (π s) :=
  (guarded_always (G := fun _ _ => True) fun _ _ => trivial).results_eq (R := fun s t => π s = t) rfl
    fun c s t _ hst => by subst hst; exact ⟨(h c s).1, fun _ _ => (h c s).2⟩

end

end SwarmSim.Machine
