import SwarmSim.Wcmp.LongestPrefix

namespace SwarmSim.Wcmp

open Machine Ns3

def Overlap (e e' : Ipv4RoutingTableEntry) : Prop :=
  e.dest &&& (e.destNetworkMask &&& e'.destNetworkMask) =
    e'.dest &&& (e.destNetworkMask &&& e'.destNetworkMask)

instance (e e' : Ipv4RoutingTableEntry) : Decidable (Overlap e e') :=
  inferInstanceAs (Decidable (_ = _))

namespace WcmpStaticRouting

/-- `y`, added after `x`, joins it in the group of a common destination. -/
def Joins (x y : EntryPtr × ℕ) : Prop :=
  Overlap x.1.entry y.1.entry ∧ (prefixLength y = prefixLength x ∧ y.2 = x.2 ∨
    prefixLength x < prefixLength y ∧ y.2 = 0xffffffff)

instance (x y : EntryPtr × ℕ) : Decidable (Joins x y) :=
  inferInstanceAs (Decidable (_ ∧ (_ ∨ _)))

variable {dest : Ipv4Address} {l : List (EntryPtr × ℕ)} {s : LpmScan} {x y : EntryPtr × ℕ}

lemma overlap_of_matches {e e' : Ipv4RoutingTableEntry} (h : Matches dest e) (h' : Matches dest e') :
    Overlap e e' := by
  rw [Matches, Ipv4Mask.isMatch, decide_eq_true_eq] at h h'
  rw [Overlap]
  calc
    _ = dest &&& e.destNetworkMask &&& e'.destNetworkMask := by rw [h, BitVec.and_assoc]
    _ = dest &&& e'.destNetworkMask &&& e.destNetworkMask := by
      rw [BitVec.and_assoc, BitVec.and_comm e.destNetworkMask, BitVec.and_assoc]
    _ = e'.dest &&& e'.destNetworkMask &&& e.destNetworkMask := by rw [h']
    _ = _ := by rw [BitVec.and_assoc, BitVec.and_comm e'.destNetworkMask]

structure Gathered (dest : Ipv4Address) (l : List (EntryPtr × ℕ)) (s : LpmScan) : Prop where
  source : ∀ e ∈ s.entries, ∃ y ∈ l, y.1 = e ∧ Matches dest y.1.entry ∧
    (prefixLength y = s.longestMask ∧ y.2 = s.shortestMetric ∨
      prefixLength y < s.longestMask ∧ s.shortestMetric = 0xffffffff)
  nodup : (s.entries.map EntryPtr.getInterface).Nodup

lemma Gathered.visit (h : Gathered dest l s) (hmetric : x.2 ≤ 0xffffffff)
    (hx : ∀ y ∈ l, y.1.getInterface = x.1.getInterface → ¬ Joins y x) :
    Gathered dest (l ++ [x]) (s.visit dest x) := by
  have hkeep : Gathered dest (l ++ [x]) s := by
    refine ⟨fun e he => ?_, h.nodup⟩
    obtain ⟨y, hy, hrest⟩ := h.source e he
    exact ⟨y, List.mem_append_left _ hy, hrest⟩
  by_cases hm : Matches dest x.1.entry
  · have hself : ∃ y ∈ l ++ [x], y.1 = x.1 ∧ Matches dest y.1.entry ∧
        (prefixLength y = prefixLength x ∧ y.2 = x.2 ∨
          prefixLength y < prefixLength x ∧ x.2 = 0xffffffff) :=
      ⟨x, List.mem_append_right l List.mem_cons_self, rfl, hm, Or.inl ⟨rfl, rfl⟩⟩
    rcases visit_cases s hm hmetric with ⟨hskip, -⟩ | ⟨halone, -⟩ | ⟨hadd, hkind⟩
    · rwa [hskip]
    · rw [halone]
      refine ⟨fun e he => ?_, List.nodup_singleton _⟩
      obtain rfl := List.mem_singleton.mp he
      exact hself
    · -- What the group already has is of the kind of `x`, or shorter under the reset metric.
      have hold : ∀ e ∈ s.entries, ∃ y ∈ l, y.1 = e ∧ Matches dest y.1.entry ∧
          (prefixLength y = prefixLength x ∧ y.2 = x.2 ∨
            prefixLength y < prefixLength x ∧ x.2 = 0xffffffff) := by
        intro e he
        obtain ⟨y, hy, rfl, hmy, hlen⟩ := h.source e he
        refine ⟨y, hy, rfl, hmy, ?_⟩
        omega
      rw [hadd]
      refine ⟨fun e he => ?_, ?_⟩
      · rcases List.mem_append.mp he with he | he
        · obtain ⟨y, hy, hrest⟩ := hold e he
          exact ⟨y, List.mem_append_left _ hy, hrest⟩
        · obtain rfl := List.mem_singleton.mp he
          exact hself
      · rw [List.map_append, List.nodup_append]
        refine ⟨h.nodup, List.nodup_singleton _, fun i hi j hj hij => ?_⟩
        obtain ⟨e, he, rfl⟩ := List.mem_map.mp hi
        obtain rfl := List.mem_singleton.mp hj
        obtain ⟨y, hy, rfl, hmy, hlen⟩ := hold e he
        refine hx y hy hij ⟨overlap_of_matches hmy hm, ?_⟩
        omega
  · rwa [visit_of_not_matches s hm]

def Apart (l : List (EntryPtr × ℕ)) : Prop :=
  l.Pairwise fun x y => x.1.getInterface = y.1.getInterface → ¬ Joins x y

lemma Apart.gathered (h : Apart l) (hmetric : ∀ x ∈ l, x.2 ≤ 0xffffffff) (dest : Ipv4Address) :
    Gathered dest l (l.foldl (LpmScan.visit dest) ⟨0, 0xffffffff, []⟩) := by
  induction l using List.reverseRecOn with
  | nil => exact ⟨by simp, List.nodup_nil⟩
  | append_singleton l x ih =>
    rw [Apart, List.pairwise_append] at h
    rw [List.foldl_append]
    apply (ih h.1 fun y hy => hmetric y (List.mem_append_left _ hy)).visit
    · exact hmetric x (List.mem_append_right l List.mem_cons_self)
    · exact fun y hy => h.2.2 y hy x List.mem_cons_self

lemma Apart.group_nodup {r : WcmpStaticRouting} (h : Apart r.networkRoutes)
    (hmetric : ∀ x ∈ r.networkRoutes, x.2 ≤ 0xffffffff) (dest : Ipv4Address) :
    ((r.multiLpm dest).map EntryPtr.getInterface).Nodup := (h.gathered hmetric dest).nodup

end WcmpStaticRouting

open WcmpStaticRouting

variable {r : WcmpStaticRouting}

/-- The metric is a `uint32_t`, and unless `LookupRoute` finds a copy of the route, no stored
route of its interface shares a group with it. -/
def WcmpStaticRouting.Distinct (r : WcmpStaticRouting) (network : Ipv4Address) (mask : Ipv4Mask)
    (i metric : ℕ) : Prop :=
  let route := Ipv4RoutingTableEntry.createNetworkRouteTo network mask i
  metric < 2 ^ 32 ∧ (r.lookupRoute route metric = false →
    ∀ x ∈ r.networkRoutes, x.1.getInterface = i → ¬ Joins x (⟨r.nextAddress, route⟩, metric))

instance (network : Ipv4Address) (mask : Ipv4Mask) (i metric : ℕ) :
    Decidable (r.Distinct network mask i metric) := inferInstanceAs (Decidable (_ ∧ _))

def AddsDistinct : Call → WcmpStaticRouting → Prop
  | .addNetworkRouteTo network mask i metric, r => r.Distinct network mask i metric
  | .addWildcardRoute i metric, r => r.Distinct 0 0 i metric
  | _, _ => True

instance : ∀ c r, Decidable (AddsDistinct c r)
  | .addNetworkRouteTo network mask i metric, r =>
    inferInstanceAs (Decidable (r.Distinct network mask i metric))
  | .addWildcardRoute i metric, r => inferInstanceAs (Decidable (r.Distinct 0 0 i metric))
  | .notifyRemoveAddress _ _ _, _ => instDecidableTrue
  | .notifyAddAddress _ _, _ => instDecidableTrue
  | .setInterfaceWeight _ _ _, _ => instDecidableTrue
  | .notifyInterfaceUp _ _, _ => instDecidableTrue
  | .notifyInterfaceDown _, _ => instDecidableTrue
  | .lookupWcmp _ _ _, _ => instDecidableTrue

structure WcmpStaticRouting.Once (r : WcmpStaticRouting) : Prop where
  apart : Apart r.networkRoutes
  metrics : ∀ x ∈ r.networkRoutes, x.2 ≤ 0xffffffff

lemma removalLoop_sublist (p : Ipv4RoutingTableEntry → Bool) (l : List (EntryPtr × ℕ)) :
    (removalLoop p l).2.Sublist l := by
  induction l with
  | nil => exact List.Sublist.refl []
  | cons x l ih =>
    rw [removalLoop]
    split
    · exact List.sublist_cons_self x l
    · exact ih.cons_cons x

lemma WcmpStaticRouting.Once.of_sublist {r' : WcmpStaticRouting} (h : r.Once)
    (hsub : r'.networkRoutes.Sublist r.networkRoutes) : r'.Once :=
  ⟨h.apart.sublist hsub, fun x hx => h.metrics x (hsub.subset hx)⟩

lemma WcmpStaticRouting.Once.addNetworkRouteTo {network : Ipv4Address} {mask : Ipv4Mask}
    {i metric : ℕ} (h : r.Once) (hd : r.Distinct network mask i metric) :
    (r.addNetworkRouteTo network mask i metric).Once := by
  rw [WcmpStaticRouting.addNetworkRouteTo]
  split
  · exact h
  · rename_i hnew
    have hapart := hd.2 (by simpa using hnew)
    refine ⟨?_, ?_⟩
    · rw [Apart, List.pairwise_append]
      refine ⟨h.apart, List.pairwise_singleton _ _, fun x hx y hy hi => ?_⟩
      obtain rfl := List.mem_singleton.mp hy
      exact hapart x hx hi
    · intro x hx
      rcases List.mem_append.mp hx with hx | hx
      · exact h.metrics x hx
      · obtain rfl := List.mem_singleton.mp hx
        exact Nat.le_of_lt_succ hd.1

lemma lookupWcmp_networkRoutes (useCache : Bool) (dest : Ipv4Address) (hash iif : ℕ)
    (r : WcmpStaticRouting) :
    (r.lookupWcmp useCache dest hash iif).2.networkRoutes = r.networkRoutes := by
  by_cases hc : useCache = true → r.lookupCache hash = none
  · by_cases hn : r.candidates dest iif = []
    · rw [lookupWcmp_none hc hn]
    · rw [lookupWcmp_miss hc hn]
      cases WcmpWeights.answer (r.contenders dest iif) hash with
      | error f => rfl
      | ok o =>
        dsimp only
        split
        · exact updateCache_networkRoutes _
        · rfl
  · obtain ⟨rfl, hne⟩ := Classical.not_imp.mp hc
    obtain ⟨p, hp⟩ := Option.ne_none_iff_exists'.mp hne
    rw [lookupWcmp_hit hp]

lemma once_step (useCache : Bool) (c : Call) (r : WcmpStaticRouting) (hg : AddsDistinct c r)
    (h : r.Once) : (step useCache c r).2.Once := by
  cases c with
  | addNetworkRouteTo network mask i metric => exact h.addNetworkRouteTo hg
  | addWildcardRoute i metric => exact h.addNetworkRouteTo hg
  | notifyRemoveAddress i isUp a =>
    apply h.of_sublist
    simp only [step, WcmpStaticRouting.notifyRemoveAddress]
    split
    · exact List.Sublist.refl _
    · exact removalLoop_sublist _ _
  | lookupWcmp dest hash iif =>
    apply h.of_sublist
    rw [step, lookupWcmp_networkRoutes]
  | _ => exact h.of_sublist (List.Sublist.refl _)

/-- In every state of a run from an empty table, every group has an interface at most once, if no
call adds a route that shares a group with a stored route of its interface. -/
theorem group_once {useCache : Bool} {cs : List Call} {r t : WcmpStaticRouting}
    (hr : r.networkRoutes = []) (hg : Guarded (step useCache) AddsDistinct cs r)
    (hv : Visits (step useCache) cs r t) (dest : Ipv4Address) :
    ((t.multiLpm dest).map EntryPtr.getInterface).Nodup := by
  have hstart : r.Once := by
    refine ⟨?_, ?_⟩
    · rw [Apart, hr]
      exact List.Pairwise.nil
    · simp [hr]
  have honce : t.Once := hg.invariant hstart (once_step useCache) hv
  exact honce.apart.group_nodup honce.metrics dest

theorem group_once_restated :
    let cs : List Call := [.addNetworkRouteTo 0x0a000000#32 (.ofPrefix 24) 1 1,
      .addNetworkRouteTo 0x0a000000#32 (.ofPrefix 24) 1 1,
      .addNetworkRouteTo 0x0a000000#32 (.ofPrefix 16) 1 1]
    ∀ t, Visits (step false) cs (.new 1 none) t →
      ((t.multiLpm 0x0a000005#32).map EntryPtr.getInterface).Nodup := by
  intro cs t hv
  have hg : Guarded (step false) AddsDistinct cs (.new 1 none) :=
    .cons (by decide +kernel) <| .cons (by decide +kernel) <| .cons (by decide +kernel) trivial
  exact group_once rfl hg hv 0x0a000005#32

theorem group_not_once :
    let cs : List Call := [.addNetworkRouteTo 0x0a000001#32 (.ofPrefix 24) 1 1,
      .addNetworkRouteTo 0x0a000002#32 (.ofPrefix 24) 1 1]
    ∃ t, Visits (step false) cs (.new 1 none) t ∧
      (t.multiLpm 0x0a000005#32).map EntryPtr.getInterface = [1, 1] :=
  ⟨_, .of_ok rfl <| .next _ _ _, by decide +kernel⟩

end SwarmSim.Wcmp
