import Mathlib.Data.List.Sort
import Mathlib.Tactic

/-! The events of a discrete-event simulator: they happen in the order of their times, and those of
one time in the order they were scheduled in. -/

namespace SwarmSim.Machine

structure Scheduled (α : Type*) where
  time : ℕ
  uid : ℕ
  action : α

abbrev EventId := Option ℕ

structure Calendar (α : Type*) where
  now : ℕ
  nextUid : ℕ
  pending : List (Scheduled α)
  fresh : ∀ e ∈ pending, e.uid < nextUid
  ahead : ∀ e ∈ pending, now ≤ e.time
  nodup : (pending.map Scheduled.uid).Nodup
  sorted : pending.Pairwise fun a b => a.time ≤ b.time

namespace Calendar

variable {α : Type*}

def insert (e : Scheduled α) (l : List (Scheduled α)) : List (Scheduled α) :=
  l.orderedInsert (fun a b => a.time < b.time) e

section Insert

variable {e d : Scheduled α} {l : List (Scheduled α)}

lemma mem_insert : d ∈ insert e l ↔ d = e ∨ d ∈ l := List.mem_orderedInsert _

lemma map_insert_perm : ((insert e l).map Scheduled.uid).Perm (e.uid :: l.map Scheduled.uid) :=
  (List.perm_orderedInsert _ e l).map Scheduled.uid

lemma insert_sorted (h : l.Pairwise fun a b => a.time ≤ b.time) :
    (insert e l).Pairwise fun a b => a.time ≤ b.time := by
  induction l with
  | nil => exact List.pairwise_singleton _ e
  | cons d l ih =>
    obtain ⟨hd, hl⟩ := List.pairwise_cons.mp h
    rw [insert, List.orderedInsert]
    split
    · rename_i hlt
      apply List.pairwise_cons.mpr
      refine ⟨fun b hb => ?_, h⟩
      rcases List.mem_cons.mp hb with rfl | hb
      · exact hlt.le
      · exact hlt.le.trans (hd b hb)
    · rename_i hge
      apply List.pairwise_cons.mpr
      refine ⟨fun b hb => ?_, ih hl⟩
      rcases mem_insert.mp hb with rfl | hb
      · exact Nat.not_lt.mp hge
      · exact hd b hb

end Insert

def empty : Calendar α where
  now := 0
  nextUid := 0
  pending := []
  fresh := by simp
  ahead := by simp
  nodup := List.nodup_nil
  sorted := List.Pairwise.nil

def schedule (delay : ℕ) (action : α) (c : Calendar α) : Calendar α where
  now := c.now
  nextUid := c.nextUid + 1
  pending := insert ⟨c.now + delay, c.nextUid, action⟩ c.pending
  fresh := by
    intro e he
    rcases mem_insert.mp he with rfl | he
    · exact Nat.lt_succ_self _
    · exact (c.fresh e he).trans (Nat.lt_succ_self _)
  ahead := by
    intro e he
    rcases mem_insert.mp he with rfl | he
    · exact Nat.le_add_right _ _
    · exact c.ahead e he
  nodup := by
    rw [map_insert_perm.nodup_iff, List.nodup_cons]
    refine ⟨fun hmem => ?_, c.nodup⟩
    obtain ⟨e, he, huid⟩ := List.mem_map.mp hmem
    exact (c.fresh e he).ne huid
  sorted := insert_sorted c.sorted

def newId (c : Calendar α) : EventId := some c.nextUid

def cancel (id : EventId) (c : Calendar α) : Calendar α where
  now := c.now
  nextUid := c.nextUid
  pending := c.pending.filter fun e => some e.uid ≠ id
  fresh := fun e he => c.fresh e (List.mem_of_mem_filter he)
  ahead := fun e he => c.ahead e (List.mem_of_mem_filter he)
  nodup := (List.filter_sublist.map Scheduled.uid).nodup c.nodup
  sorted := c.sorted.sublist List.filter_sublist

def IsRunning (id : EventId) (c : Calendar α) : Prop := ∃ e ∈ c.pending, some e.uid = id

instance (id : EventId) (c : Calendar α) : Decidable (c.IsRunning id) :=
  inferInstanceAs (Decidable (∃ e ∈ c.pending, some e.uid = id))

def pop (c : Calendar α) : Option (Scheduled α × Calendar α) :=
  match h : c.pending with
  | [] => none
  | e :: l => some (e, {
      now := e.time
      nextUid := c.nextUid
      pending := l
      fresh := fun d hd => c.fresh d (h ▸ List.mem_cons_of_mem e hd)
      ahead := fun d hd => (List.pairwise_cons.mp (h ▸ c.sorted)).1 d hd
      nodup := (List.nodup_cons.mp (by simpa only [h, List.map_cons] using c.nodup)).2
      sorted := (List.pairwise_cons.mp (h ▸ c.sorted)).2 })

/-- Something else happens at time `t`, before the events that are left. -/
def waitUntil (t : ℕ) (c : Calendar α) : Calendar α :=
  if h : ∀ e ∈ c.pending, t ≤ e.time then
    { c with
      now := max c.now t
      ahead := fun e he => max_le (c.ahead e he) (h e he) }
  else c

variable {c d : Calendar α} {e : Scheduled α} {id : α → EventId} {a b : α} {delay : ℕ}

lemma mem_schedule : e ∈ (c.schedule delay a).pending ↔
    e = ⟨c.now + delay, c.nextUid, a⟩ ∨ e ∈ c.pending := mem_insert

lemma pop_eq_some (h : c.pop = some (e, d)) :
    c.pending = e :: d.pending ∧ d.now = e.time ∧ d.nextUid = c.nextUid := by
  rw [pop] at h
  split at h
  · cases h
  · cases h
    exact ⟨‹_›, rfl, rfl⟩

@[simp] lemma waitUntil_pending (t : ℕ) : (c.waitUntil t).pending = c.pending := by
  rw [waitUntil]
  split <;> rfl

@[simp] lemma waitUntil_nextUid (t : ℕ) : (c.waitUntil t).nextUid = c.nextUid := by
  rw [waitUntil]
  split <;> rfl

def Due (a : α) (c : Calendar α) : Prop := ∃ e ∈ c.pending, e.action = a

/-- Every event that is still to happen is the one that is remembered for what it does. -/
structure Tracked (id : α → EventId) (c : Calendar α) : Prop where
  own : ∀ e ∈ c.pending, some e.uid = id e.action
  known : ∀ a n, id a = some n → n < c.nextUid
  apart : ∀ a b n, id a = some n → id b = some n → a = b

lemma tracked_empty : Tracked (fun _ => none) (empty : Calendar α) :=
  ⟨by simp [empty], by simp, by simp⟩

lemma due_schedule : (c.schedule delay a).Due b ↔ b = a ∨ c.Due b := by
  simp only [Due, mem_schedule, or_and_right, exists_or, exists_eq_left]
  rw [eq_comm]

lemma due_waitUntil (t : ℕ) : (c.waitUntil t).Due a ↔ c.Due a := by
  rw [Due, waitUntil_pending, Due]

lemma not_due_empty : ¬(empty : Calendar α).Due a := by
  rintro ⟨e, he, -⟩
  exact List.not_mem_nil he

lemma Due.pending_ne_nil (h : c.Due a) : c.pending ≠ [] := by
  obtain ⟨e, he, -⟩ := h
  exact List.ne_nil_of_mem he

namespace Tracked

lemma isRunning_iff (h : c.Tracked id) : c.IsRunning (id a) ↔ c.Due a := by
  constructor
  · rintro ⟨e, he, hid⟩
    exact ⟨e, he, h.apart _ _ e.uid (h.own e he).symm hid.symm⟩
  · rintro ⟨e, he, rfl⟩
    exact ⟨e, he, h.own e he⟩

lemma schedule [DecidableEq α] (h : c.Tracked id) (hidle : ¬c.Due a) (delay : ℕ) :
    (c.schedule delay a).Tracked (Function.update id a c.newId) := by
  refine ⟨fun e he => ?_, fun b n hn => ?_, fun b b' n hn hn' => ?_⟩
  · rcases mem_schedule.mp he with rfl | he
    · exact (Function.update_self a c.newId id).symm
    · have hne : e.action ≠ a := by
        intro ha
        exact hidle ⟨e, he, ha⟩
      rw [Function.update_of_ne hne]
      exact h.own e he
  · by_cases hb : b = a
    · rw [hb, Function.update_self] at hn
      obtain rfl := Option.some.inj hn
      exact Nat.lt_succ_self _
    · rw [Function.update_of_ne hb] at hn
      exact (h.known b n hn).trans (Nat.lt_succ_self _)
  · have hold : ∀ x, x ≠ a → Function.update id a c.newId x = some n → n < c.nextUid := by
      intro x hx hxn
      rw [Function.update_of_ne hx] at hxn
      exact h.known x n hxn
    have hnew : ∀ x, x = a → Function.update id a c.newId x = some n → n = c.nextUid := by
      rintro x rfl hxn
      rw [Function.update_self] at hxn
      exact (Option.some.inj hxn).symm
    by_cases hb : b = a
    · by_cases hb' : b' = a
      · rw [hb, hb']
      · exact absurd (hnew b hb hn) (hold b' hb' hn').ne
    · by_cases hb' : b' = a
      · exact absurd (hnew b' hb' hn') (hold b hb hn).ne
      · rw [Function.update_of_ne hb] at hn
        rw [Function.update_of_ne hb'] at hn'
        exact h.apart b b' n hn hn'

lemma cancel (h : c.Tracked id) (x : EventId) : (c.cancel x).Tracked id :=
  ⟨fun e he => h.own e (List.mem_of_mem_filter he), h.known, h.apart⟩

lemma due_cancel (h : c.Tracked id) : (c.cancel (id a)).Due b ↔ b ≠ a ∧ c.Due b := by
  constructor
  · rintro ⟨e, he, rfl⟩
    obtain ⟨hmem, hne⟩ := List.mem_filter.mp he
    refine ⟨?_, e, hmem, rfl⟩
    rintro rfl
    exact of_decide_eq_true hne (h.own e hmem)
  · rintro ⟨hb, e, he, rfl⟩
    refine ⟨e, List.mem_filter.mpr ⟨he, decide_eq_true ?_⟩, rfl⟩
    intro hid
    exact hb (h.apart _ _ e.uid (h.own e he).symm hid.symm)

lemma waitUntil (h : c.Tracked id) (t : ℕ) : (c.waitUntil t).Tracked id := by
  refine ⟨fun e he => ?_, fun a n hn => ?_, h.apart⟩
  · rw [waitUntil_pending] at he
    exact h.own e he
  · rw [waitUntil_nextUid]
    exact h.known a n hn

lemma pop (h : c.Tracked id) (hpop : c.pop = some (e, d)) : d.Tracked id := by
  obtain ⟨hpending, -, hnext⟩ := pop_eq_some hpop
  refine ⟨fun e' he' => ?_, fun b n hn => hnext ▸ h.known b n hn, h.apart⟩
  apply h.own
  rw [hpending]
  exact List.mem_cons_of_mem e he'

lemma due_pop (h : c.Tracked id) (hpop : c.pop = some (e, d)) :
    d.Due b ↔ b ≠ e.action ∧ c.Due b := by
  obtain ⟨hpending, -, -⟩ := pop_eq_some hpop
  have hmem : e ∈ c.pending := hpending ▸ List.mem_cons_self
  constructor
  · rintro ⟨e', he', rfl⟩
    have hmem' : e' ∈ c.pending := hpending ▸ List.mem_cons_of_mem e he'
    refine ⟨fun ha => ?_, e', hmem', rfl⟩
    have huid : e'.uid = e.uid := by
      apply Option.some.inj
      rw [h.own e' hmem', h.own e hmem, ha]
    have hnodup := c.nodup
    rw [hpending, List.map_cons] at hnodup
    exact (List.nodup_cons.mp hnodup).1 (huid ▸ List.mem_map_of_mem he')
  · rintro ⟨hb, e', he', rfl⟩
    rw [hpending] at he'
    rcases List.mem_cons.mp he' with rfl | he'
    · exact absurd rfl hb
    · exact ⟨e', he', rfl⟩

lemma due_of_pop (hpop : c.pop = some (e, d)) : c.Due e.action := by
  obtain ⟨hpending, -, -⟩ := pop_eq_some hpop
  exact ⟨e, hpending ▸ List.mem_cons_self, rfl⟩

lemma eq_of_action {e' : Scheduled α} (h : c.Tracked id) (he : e ∈ c.pending) (he' : e' ∈ c.pending)
    (ha : e.action = e'.action) : e = e' := by
  apply List.inj_on_of_nodup_map c.nodup he he'
  apply Option.some.inj
  rw [h.own e he, h.own e' he', ha]

end Tracked

end Calendar

end SwarmSim.Machine
