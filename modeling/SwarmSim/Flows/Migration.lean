import SwarmSim.Flows.Scheduler
import SwarmSim.Machine.Fold

namespace SwarmSim.Flows

open Machine Ns3

namespace FlowScheduler

def migrateTo (originalSource destination : ℕ) (percent : BitVec 8) (fs : FlowScheduler) :
    FlowScheduler :=
  match fs.migrations.lookup originalSource with
  | some targets =>
    match targets.lookup destination with
    | some p =>
      { fs with
        migrations := fs.migrations.insert originalSource (targets.insert destination (p + percent)) }
    | none =>
      { fs with
        migrations := fs.migrations.insert originalSource (targets.insert destination percent) }
  | none =>
    { fs with
      migrations := fs.migrations.insert originalSource (AList.insert destination percent ∅) }

/-- `operator[]` makes the entries that it does not find. -/
def migrateBack (originalSource destination : ℕ) (percent : BitVec 8) (fs : FlowScheduler) :
    Except Fault FlowScheduler :=
  let targets := (fs.migrations.lookup originalSource).getD ∅
  let p := (targets.lookup destination).getD 0
  if ¬p ≥ percent then .error .assertion
  else
    let targets :=
      if p - percent = 0 then targets.erase destination else targets.insert destination (p - percent)
    .ok { fs with migrations := fs.migrations.insert originalSource targets }

def migrateTraffic (migrationSource migrationDestination : ℕ) (percent : ℤ) (fs : FlowScheduler) :
    Except Fault FlowScheduler :=
  if ¬(percent ≤ 100 ∧ percent ≥ -100) then .error .assertion
  else if percent > 0 then
    .ok (fs.migrateTo migrationSource migrationDestination (BitVec.ofInt 8 percent))
  else fs.migrateBack migrationSource migrationDestination (BitVec.ofInt 8 (-percent))

end FlowScheduler

structure Migration where
  source : ℕ
  target : ℕ
  percent : ℤ
  deriving DecidableEq

def migrate (cs : List Migration) (fs : FlowScheduler) : Except Fault FlowScheduler :=
  cs.foldlM (fun fs c => fs.migrateTraffic c.source c.target c.percent) fs

def commanded (cs : List Migration) (s t : ℕ) : ℤ :=
  ((cs.filter fun c => c.source = s ∧ c.target = t).map (·.percent)).sum

def commandedBy (cs : List Migration) (s : ℕ) : ℤ :=
  ((cs.filter fun c => c.source = s).map (·.percent)).sum

namespace Targets

def percent (m : Targets) (t : ℕ) : ℕ := ((m.lookup t).getD 0).toNat

def total (m : Targets) : ℕ := (m.entries.map fun e => e.2.toNat).sum

variable {m : Targets} {t u : ℕ} {v : BitVec 8}

lemma percent_insert : percent (m.insert t v) u = if u = t then v.toNat else m.percent u := by
  unfold percent
  split_ifs with h
  · rw [h, AList.lookup_insert, Option.getD_some]
  · rw [AList.lookup_insert_ne h]

lemma percent_erase : percent (m.erase t) u = if u = t then 0 else m.percent u := by
  unfold percent
  split_ifs with h
  · rw [h, AList.lookup_erase]
    rfl
  · rw [AList.lookup_erase_ne h]

lemma total_erase : total (m.erase t) + m.percent t = m.total := by
  have hsum : ∀ l : List (Sigma fun _ : ℕ => BitVec 8),
      ((l.kerase t).map fun e => e.2.toNat).sum + ((l.dlookup t).getD 0).toNat =
        (l.map fun e => e.2.toNat).sum := by
    intro l
    induction l with
    | nil => rfl
    | cons e l ih =>
      obtain ⟨k, v⟩ := e
      by_cases hk : t = k
      · subst hk
        have hrest : List.kerase t (⟨t, v⟩ :: l) = l := List.kerase_cons_eq rfl
        rw [hrest, List.dlookup_cons_eq, Option.getD_some, List.map_cons, List.sum_cons,
          Nat.add_comm]
      · have hrest : List.kerase t (⟨k, v⟩ :: l) = ⟨k, v⟩ :: l.kerase t := List.kerase_cons_ne hk
        rw [hrest, List.dlookup_cons_ne l ⟨k, v⟩ hk, List.map_cons, List.sum_cons,
          List.map_cons, List.sum_cons, ← ih, Nat.add_assoc]
  exact hsum m.entries

lemma total_insert : total (m.insert t v) + m.percent t = m.total + v.toNat := by
  have herase := total_erase (m := m) (t := t)
  have hinsert : total (m.insert t v) = v.toNat + total (m.erase t) := by
    rw [total, AList.entries_insert]
    rfl
  omega

lemma total_empty : total ∅ = 0 := rfl

lemma total_eq_zero (h : ∀ t, m.percent t = 0) : m.total = 0 := by
  have hsum : ∀ l : List (Sigma fun _ : ℕ => BitVec 8), l.NodupKeys →
      (∀ t, ((l.dlookup t).getD 0).toNat = 0) → (l.map fun e => e.2.toNat).sum = 0 := by
    intro l hl hzero
    rw [List.sum_eq_zero_iff]
    intro x hx
    obtain ⟨e, he, rfl⟩ := List.mem_map.mp hx
    have hlookup := hzero e.1
    rwa [List.mem_dlookup hl he] at hlookup
  exact hsum m.entries m.nodupKeys h

lemma percent_le_total (m : Targets) (t : ℕ) : m.percent t ≤ m.total := by
  have h := total_erase (m := m) (t := t)
  omega

end Targets

namespace FlowScheduler

def targets (fs : FlowScheduler) (s : ℕ) : Targets := (fs.migrations.lookup s).getD ∅

variable {fs fs' : FlowScheduler} {s t : ℕ} {p : ℤ}

lemma targets_some {m : Targets} (h : fs.migrations.lookup s = some m) : fs.targets s = m := by
  rw [targets, h, Option.getD_some]

lemma targets_none (h : fs.migrations.lookup s = none) : fs.targets s = ∅ := by
  rw [targets, h, Option.getD_none]

lemma migrateTo_targets (q : BitVec 8) : ∃ v, (fs.migrateTo s t q).migrations =
    fs.migrations.insert s ((fs.targets s).insert t v) ∧
      v.toNat = ((fs.targets s).percent t + q.toNat) % 2 ^ 8 := by
  unfold migrateTo targets Targets.percent
  cases hs : fs.migrations.lookup s with
  | none =>
    refine ⟨q, rfl, ?_⟩
    simp [Nat.mod_eq_of_lt q.isLt]
  | some ts =>
    cases ht : ts.lookup t with
    | none =>
      refine ⟨q, by simp [ht], ?_⟩
      simp [ht, Nat.mod_eq_of_lt q.isLt]
    | some v =>
      refine ⟨v + q, by simp [ht], ?_⟩
      simp [ht, BitVec.toNat_add]

lemma migrateBack_targets {q : BitVec 8} (h : fs.migrateBack s t q = .ok fs') :
    ∃ ts : Targets, fs'.migrations = fs.migrations.insert s ts ∧
      (∀ u, ts.percent u + (if u = t then q.toNat else 0) = (fs.targets s).percent u) ∧
      ts.total + q.toNat = (fs.targets s).total := by
  unfold migrateBack at h
  simp only at h
  split_ifs at h with hge hzero
  all_goals
    rw [ge_iff_le, BitVec.le_def] at hge
    change q.toNat ≤ (fs.targets s).percent t at hge
    obtain rfl := Except.ok.inj h
    have hsub : (((fs.targets s).lookup t).getD 0 - q).toNat = (fs.targets s).percent t - q.toNat :=
      BitVec.toNat_sub_of_le (BitVec.le_def.mpr hge)
  · have hq : (fs.targets s).percent t = q.toNat := by
      have hnull := congrArg BitVec.toNat hzero
      change (((fs.targets s).lookup t).getD 0 - q).toNat = 0 at hnull
      omega
    refine ⟨_, rfl, fun u => ?_, ?_⟩
    · change Targets.percent ((fs.targets s).erase t) u + _ = _
      rw [Targets.percent_erase]
      split_ifs with hu
      · rw [hu, hq, Nat.zero_add]
      · rfl
    · rw [← hq]
      exact Targets.total_erase
  · refine ⟨_, rfl, fun u => ?_, ?_⟩
    · change Targets.percent ((fs.targets s).insert t _) u + _ = _
      rw [Targets.percent_insert]
      split_ifs with hu
      · change (((fs.targets s).lookup t).getD 0 - q).toNat + _ = _
        rw [hsub, hu]
        omega
      · rfl
    · have htotal := Targets.total_insert (m := fs.targets s) (t := t)
        (v := ((fs.targets s).lookup t).getD 0 - q)
      change Targets.total ((fs.targets s).insert t (((fs.targets s).lookup t).getD 0 - q)) + _ = _
      omega

lemma migrateTraffic_books (h : fs.migrateTraffic s t p = .ok fs') :
    ∃ ts : Targets, ∃ w : ℕ, fs'.migrations = fs.migrations.insert s ts ∧
      (∀ u, (ts.percent u : ℤ) = (fs.targets s).percent u + if u = t then p - 256 * w else 0) ∧
      (ts.total : ℤ) = (fs.targets s).total + p - 256 * w := by
  unfold migrateTraffic at h
  split_ifs at h with hrange hpos
  · obtain rfl := Except.ok.inj h
    obtain ⟨v, hm, hv⟩ := @migrateTo_targets fs s t (BitVec.ofInt 8 p)
    have hq : ((BitVec.ofInt 8 p).toNat : ℤ) = p := by
      rw [BitVec.toNat_ofInt]
      omega
    have htotal := Targets.total_insert (m := fs.targets s) (t := t) (v := v)
    refine ⟨_, ((fs.targets s).percent t + (BitVec.ofInt 8 p).toNat) / 2 ^ 8, hm, fun u => ?_, ?_⟩
    · rw [Targets.percent_insert]
      split_ifs with hu
      · subst hu
        omega
      · omega
    · omega
  · obtain ⟨ts, hm, hpercent, htotal⟩ := migrateBack_targets h
    have hq : ((BitVec.ofInt 8 (-p)).toNat : ℤ) = -p := by
      rw [BitVec.toNat_ofInt]
      omega
    refine ⟨ts, 0, hm, fun u => ?_, ?_⟩
    · have hu := hpercent u
      split_ifs at hu ⊢ <;> omega
    · omega

lemma migrateTraffic_frame (h : fs.migrateTraffic s t p = .ok fs') :
    (∀ u, (fs'.migrations.lookup u).isSome ↔ u = s ∨ (fs.migrations.lookup u).isSome) ∧
      ∀ u ≠ s, fs'.targets u = fs.targets u := by
  obtain ⟨ts, _, hm, -, -⟩ := migrateTraffic_books h
  refine ⟨fun u => ?_, fun u hu => ?_⟩
  · rw [hm]
    by_cases hu : u = s
    · rw [hu, AList.lookup_insert]
      simp
    · simp [hu, AList.lookup_insert_ne hu]
  · unfold targets
    rw [hm, AList.lookup_insert_ne hu]

end FlowScheduler

open FlowScheduler

/-- The books after the commands `cs`: `k s t` times the cell of `(s, t)` has wrapped around. -/
structure Books (cs : List Migration) (k : ℕ → ℕ → ℕ) (n : ℕ → ℕ) (fs : FlowScheduler) : Prop where
  percent : ∀ s t, commanded cs s t = (fs.targets s).percent t + 256 * k s t
  total : ∀ s, commandedBy cs s = (fs.targets s).total + 256 * n s
  wraps : ∀ s, n s = 0 ↔ ∀ t, k s t = 0
  named : ∀ s, (fs.migrations.lookup s).isSome ↔ ∃ c ∈ cs, c.source = s

section Bookkeeping

variable {cs : List Migration} {c : Migration} {k : ℕ → ℕ → ℕ} {n : ℕ → ℕ} {s t : ℕ}
  {fs fs' : FlowScheduler}

lemma commanded_snoc : commanded (cs ++ [c]) s t =
    commanded cs s t + if c.source = s ∧ c.target = t then c.percent else 0 := by
  unfold commanded
  rw [List.filter_append, List.map_append, List.sum_append]
  by_cases hc : c.source = s ∧ c.target = t <;> simp [hc]

lemma commandedBy_snoc : commandedBy (cs ++ [c]) s =
    commandedBy cs s + if c.source = s then c.percent else 0 := by
  unfold commandedBy
  rw [List.filter_append, List.map_append, List.sum_append]
  by_cases hc : c.source = s <;> simp [hc]

lemma Books.nil (h : fs.migrations = ∅) : Books [] (fun _ _ => 0) (fun _ => 0) fs := by
  have htargets : ∀ s, fs.targets s = ∅ := fun s => targets_none (by rw [h, AList.lookup_empty])
  refine ⟨fun s t => ?_, fun s => ?_, fun s => ?_, fun s => ?_⟩
  · rw [htargets]
    rfl
  · rw [htargets]
    rfl
  · simp
  · simp [h]

lemma Books.step (hb : Books cs k n fs)
    (h : fs.migrateTraffic c.source c.target c.percent = .ok fs') :
    ∃ k' n', Books (cs ++ [c]) k' n' fs' := by
  obtain ⟨ts, w, hm, hpercent, htotal⟩ := migrateTraffic_books h
  obtain ⟨hnamed, hother⟩ := migrateTraffic_frame h
  have hts : fs'.targets c.source = ts := targets_some (by rw [hm, AList.lookup_insert])
  refine ⟨fun s t => k s t + if s = c.source ∧ t = c.target then w else 0,
    fun s => n s + if s = c.source then w else 0, fun s t => ?_, fun s => ?_, fun s => ?_, fun s => ?_⟩
  · have hbefore := hb.percent s t
    rw [commanded_snoc]
    by_cases hs : s = c.source
    · subst hs
      have hcell := hpercent t
      rw [hts]
      by_cases ht : t = c.target
      · subst ht
        simp only [and_self, if_true] at hcell ⊢
        push_cast
        omega
      · simp only [ht, Ne.symm ht, and_false, if_false] at hcell ⊢
        push_cast
        omega
    · simp only [hs, Ne.symm hs, false_and, if_false, hother s hs, add_zero]
      exact hbefore
  · have hbefore := hb.total s
    rw [commandedBy_snoc]
    by_cases hs : s = c.source
    · subst hs
      rw [hts]
      simp only [if_true]
      push_cast
      omega
    · simp only [hs, Ne.symm hs, if_false, hother s hs, add_zero]
      exact hbefore
  · by_cases hs : s = c.source
    · simp only [hs, true_and, if_true, Nat.add_eq_zero_iff]
      rw [hb.wraps]
      constructor
      · rintro ⟨hk, rfl⟩ t
        simp [hk t]
      · intro hk
        exact ⟨fun t => (hk t).1, by simpa using (hk c.target).2⟩
    · simp only [hs, false_and, if_false, add_zero]
      exact hb.wraps s
  · rw [hnamed, hb.named]
    simp only [List.mem_append, List.mem_singleton, or_and_right, exists_or, exists_eq_left]
    exact ⟨fun hor => hor.symm.imp_right Eq.symm, fun hor => hor.symm.imp_left Eq.symm⟩

lemma Books.run (h : migrate cs fs = .ok fs') (hm : fs.migrations = ∅) :
    ∃ k n, Books cs k n fs' := by
  refine foldlM_ok (I := fun cs fs => ∃ k n, Books cs k n fs) ⟨_, _, .nil hm⟩ ?_ h
  rintro cs c fs fs' ⟨k, n, hb⟩ hc
  exact hb.step hc

lemma Books.exact_iff (hb : Books cs k n fs) :
    (∀ t, commanded cs s t = (fs.targets s).percent t) ↔ n s = 0 := by
  rw [hb.wraps]
  refine forall_congr' fun t => ?_
  have h := hb.percent s t
  constructor <;> intro <;> omega

lemma Books.commandedBy_eq (hb : Books cs k n fs)
    (h : ∀ t, commanded cs s t = (fs.targets s).percent t) :
    commandedBy cs s = (fs.targets s).total := by
  rw [hb.total, hb.exact_iff.mp h]
  omega

lemma commandedBy_unnamed (h : ¬∃ c ∈ cs, c.source = s) : commandedBy cs s = 0 := by
  have hnone : cs.filter (fun c => c.source = s) = [] := by
    apply List.filter_eq_nil_iff.mpr
    intro c hmem hc
    exact h ⟨c, hmem, of_decide_eq_true hc⟩
  rw [commandedBy, hnone]
  rfl

lemma Books.unnamed (hb : Books cs k n fs) (h : ¬∃ c ∈ cs, c.source = s) :
    fs.migrations.lookup s = none := by
  rw [← hb.named] at h
  simpa using h

end Bookkeeping

def FlowScheduler.Unmigrated (fs : FlowScheduler) (s : ℕ) : Prop :=
  ∀ g : FlowScheduler, g.migrations = fs.migrations → g.currentFlow.src < 2 ^ 16 →
    (g.currentFlow.read g.stream).1.src = s →
    g.getNextFlow.currentFlow = { g with migrations := g.migrations.erase s }.getNextFlow.currentFlow

structure Exact (cs : List Migration) (fs : FlowScheduler) : Prop where
  stored : ∀ s t, commanded cs s t = (fs.targets s).percent t
  bounded : ∀ s, (fs.targets s).total ≤ 100
  returned : ∀ s, (∀ t, commanded cs s t = 0) → fs.Unmigrated s

section Exactness

variable {fs fs' : FlowScheduler} {s : ℕ} {cs : List Migration}

lemma unmigrated_of_lookup (h : fs.migrations.lookup s = none) : fs.Unmigrated s := by
  intro g hm _ hsrc
  have hg : g.migrations.lookup (g.currentFlow.read g.stream).1.src = none := by rw [hm, hsrc, h]
  rw [getNextFlow_unmigrated hg, getNextFlow_unmigrated]
  rw [hsrc]
  exact AList.lookup_erase s g.migrations

/-- Only a flow record can name a source, and it has 16 bits for it. -/
lemma unmigrated_of_large (h : ¬s < 2 ^ 16) : fs.Unmigrated s := by
  intro g _ hlt hsrc
  rw [← hsrc] at h
  exact absurd (extract_scanUnsigned_lt hlt) h

lemma getMigrationSource_zero {r : BitVec 8} {src : ℕ} {sum : BitVec 8}
    {targets : List (ℕ × BitVec 8)} (h : ∀ e ∈ targets, e.2 = 0) (hr : r > sum) :
    getMigrationSource r src sum targets = src := by
  induction targets with
  | nil => rfl
  | cons e targets ih =>
    obtain ⟨hzero, htail⟩ := List.forall_mem_cons.mp h
    have hsum : sum + e.2 = sum := by
      rw [hzero]
      exact BitVec.add_zero sum
    rw [getMigrationSource, if_pos hr, hsum]
    exact ih htail

lemma Targets.inOrder_zero {m : Targets} (h : ∀ t, m.percent t = 0) : ∀ e ∈ m.inOrder, e.2 = 0 := by
  intro e he
  unfold Targets.inOrder at he
  rw [List.mem_insertionSort] at he
  obtain ⟨x, hx, rfl⟩ := List.mem_map.mp he
  have hlookup := h x.1
  unfold Targets.percent AList.lookup at hlookup
  rw [List.mem_dlookup m.nodupKeys hx] at hlookup
  exact BitVec.eq_of_toNat_eq hlookup

lemma not_unmigrated {m : Targets} (hs : s < 2 ^ 16) (hm : fs.migrations.lookup s = some m)
    (hzero : ∀ t, m.percent t = 0) : ¬fs.Unmigrated s := by
  intro h
  let g : FlowScheduler :=
    { fs with currentFlow := ⟨s, s + 1, 0, 0⟩, stream := ⟨[], false⟩, rand := fun _ => 1 }
  have hread : g.currentFlow.read g.stream = (g.currentFlow, g.stream) := rfl
  have hsame := h g rfl hs (by rw [hread])
  have hkept : ({ g with migrations := g.migrations.erase s } : FlowScheduler).getNextFlow.currentFlow.dst =
      s + 1 := by
    rw [getNextFlow_unmigrated]
    · rfl
    · exact AList.lookup_erase s g.migrations
  have hrewritten : g.getNextFlow.currentFlow.dst = s := by
    have hlookup : g.migrations.lookup (g.currentFlow.read g.stream).1.src = some m := hm
    rw [getNextFlow]
    simp only [hlookup]
    change getMigrationSource (BitVec.ofNat 8 (1 % 100)) s 0 m.inOrder % 2 ^ 16 = s
    rw [getMigrationSource_zero (Targets.inOrder_zero hzero) (by decide), Nat.mod_eq_of_lt hs]
  rw [hsame, hkept] at hrewritten
  omega

section Directions

variable {c : Migration} {k : ℕ → ℕ → ℕ} {n : ℕ → ℕ}

lemma Books.positive (hb : Books cs k n fs) (he : Exact cs fs) (hc : c ∈ cs)
    (hlt : c.source < 2 ^ 16) : 0 < commandedBy cs c.source := by
  have hsum := hb.commandedBy_eq (he.stored c.source)
  by_contra hneg
  have htotal : (fs.targets c.source).total = 0 := by omega
  have hpercent : ∀ t, (fs.targets c.source).percent t = 0 := by
    intro t
    have hle := Targets.percent_le_total (fs.targets c.source) t
    omega
  obtain ⟨m, hlookup⟩ := Option.isSome_iff_exists.mp ((hb.named c.source).mpr ⟨c, hc, rfl⟩)
  rw [targets_some hlookup] at hpercent
  refine not_unmigrated hlt hlookup hpercent (he.returned c.source fun t => ?_)
  rw [he.stored, targets_some hlookup, hpercent]
  rfl

lemma Books.stored (hb : Books cs k n fs) (hc : ∀ c ∈ cs, commandedBy cs c.source ≤ 100)
    (s t : ℕ) : commanded cs s t = (fs.targets s).percent t := by
  have hle : commandedBy cs s ≤ 100 := by
    by_cases hs : ∃ c ∈ cs, c.source = s
    · obtain ⟨c, hmem, rfl⟩ := hs
      exact hc c hmem
    · rw [commandedBy_unnamed hs]
      norm_num
  have htotal := hb.total s
  exact hb.exact_iff.mpr (by omega) t

lemma Books.exact (hb : Books cs k n fs) (hc : ∀ c ∈ cs, commandedBy cs c.source ≤ 100)
    (hpos : ∀ c ∈ cs, c.source < 2 ^ 16 → 0 < commandedBy cs c.source) : Exact cs fs := by
  refine ⟨hb.stored hc, fun s => ?_, fun s hback => ?_⟩
  · by_cases hs : ∃ c ∈ cs, c.source = s
    · obtain ⟨c, hmem, rfl⟩ := hs
      have hle := hc c hmem
      have hsum := hb.commandedBy_eq (hb.stored hc c.source)
      omega
    · rw [targets_none (hb.unnamed hs), Targets.total_empty]
      exact Nat.zero_le _
  · by_cases hs : ∃ c ∈ cs, c.source = s
    · obtain ⟨c, hmem, rfl⟩ := hs
      refine unmigrated_of_large fun hlt => ?_
      have hpos := hpos c hmem hlt
      have hzero : (fs.targets c.source).total = 0 := by
        refine Targets.total_eq_zero fun t => ?_
        have ht := hb.stored hc c.source t
        rw [hback t] at ht
        exact_mod_cast ht.symm
      have hsum := hb.commandedBy_eq (hb.stored hc c.source)
      omega
    · exact unmigrated_of_lookup (hb.unnamed hs)

end Directions

/-- The books are exact when no source is told to send out more than all of its traffic, and no
host has taken all of it back. -/
theorem migration_exact (hm : fs.migrations = ∅) (h : migrate cs fs = .ok fs') :
    Exact cs fs' ↔ ∀ c ∈ cs, commandedBy cs c.source ≤ 100 ∧
      (c.source < 2 ^ 16 → 0 < commandedBy cs c.source) := by
  obtain ⟨k, n, hb⟩ := Books.run h hm
  constructor
  · intro he c hc
    have hsum := hb.commandedBy_eq (he.stored c.source)
    have hbound := he.bounded c.source
    exact ⟨by omega, hb.positive he hc⟩
  · exact fun hc => hb.exact (fun c hmem => (hc c hmem).1) fun c hmem => (hc c hmem).2

lemma readFlowFile_migrations (rand : ℕ → ℕ) (uninit : ℕ) (text : List Char) :
    (readFlowFile rand uninit text).migrations = ∅ := rfl

def oneFlow : FlowScheduler := readFlowFile (fun _ => 1) 0 "1\n0 2 1000 0.5\n".toList

theorem migration_exact_half : ∃ fs,
    migrate [⟨0, 1, 50⟩, ⟨0, 2, 50⟩, ⟨0, 1, -20⟩] oneFlow = .ok fs ∧
      Exact [⟨0, 1, 50⟩, ⟨0, 2, 50⟩, ⟨0, 1, -20⟩] fs :=
  ⟨_, rfl, (migration_exact (readFlowFile_migrations _ _ _) rfl).mpr (by decide)⟩

theorem migration_leftover : ∃ fs,
    migrate [⟨0, 1, 50⟩, ⟨0, 1, -50⟩] oneFlow = .ok fs ∧
      (∀ t, commanded [⟨0, 1, 50⟩, ⟨0, 1, -50⟩] 0 t = 0) ∧
      fs.getNextFlow.currentFlow = ⟨0, 0, 1 / 2, 1000⟩ ∧
      oneFlow.getNextFlow.currentFlow = ⟨0, 2, 1 / 2, 1000⟩ ∧
      ¬Exact [⟨0, 1, 50⟩, ⟨0, 1, -50⟩] fs := by
  have hback : ∀ t, commanded [⟨0, 1, 50⟩, ⟨0, 1, -50⟩] 0 t = 0 := by
    intro t
    by_cases ht : 1 = t <;> simp [commanded, ht]
  refine ⟨_, rfl, hback, by decide +kernel, by decide +kernel, fun h => ?_⟩
  exact not_unmigrated (m := ∅) (by decide) rfl (fun _ => rfl) (h.returned 0 hback)

end Exactness

end SwarmSim.Flows
