import SwarmSim.Wcmp.LongestPrefix

/-! Lookups of a destination all of whose matches have one mask length and one metric: the
packet leaves by an up interface of positive weight, or the lookup aborts because there is none. -/

namespace SwarmSim.Wcmp

open Machine Ns3

namespace WcmpStaticRouting

variable {r : WcmpStaticRouting} {dest : Ipv4Address} {hash iif : ℕ}

/-- The matches for `dest` are the wildcard-like routes by the interfaces of `U`, at one metric,
and the packet did not come in by one of them. -/
structure Spreads (r : WcmpStaticRouting) (dest : Ipv4Address) (iif : ℕ) (U : ℕ → Prop) : Prop where
  alike : ∃ len metric, metric ≤ 0xffffffff ∧ ∀ e m, r.HasRoute e m → Matches dest e →
    e.destNetworkMask.getPrefixLength = len ∧ m = metric
  uplink (e : Ipv4RoutingTableEntry) (m : ℕ) : r.HasRoute e m → Matches dest e → U e.interface
  route (i : ℕ) : U i → ∃ e m, r.HasRoute e m ∧ Matches dest e ∧ e.interface = i
  elsewhere : ¬ U iif

variable {U : ℕ → Prop}

lemma hasRoute_of_mem {x : EntryPtr × ℕ} (h : x ∈ r.networkRoutes) : r.HasRoute x.1.entry x.2 :=
  ⟨x.1.address, h⟩

structure Offers (r : WcmpStaticRouting) (dest : Ipv4Address) (iif : ℕ) (U : ℕ → Prop) : Prop where
  sound (e : EntryPtr) : e ∈ r.candidates dest iif → U e.getInterface
  complete (i : ℕ) : U i → ∃ e ∈ r.candidates dest iif, e.getInterface = i

lemma Offers.congr {U' : ℕ → Prop} (h : r.Offers dest iif U) (hU : ∀ i, U i ↔ U' i) :
    r.Offers dest iif U' :=
  ⟨fun e he => (hU _).mp (h.sound e he), fun i hi => h.complete i ((hU i).mpr hi)⟩

lemma offers_of_best {len : ℕ} (iif : ℕ) (hlpm : r.multiLpm dest = bestEntries dest r.networkRoutes)
    (hbest : ∀ x ∈ r.networkRoutes, Matches dest x.1.entry →
      (Best dest r.networkRoutes x ↔ prefixLength x = len)) :
    r.Offers dest iif fun i => i ≠ iif ∧ ∃ e m, r.HasRoute e m ∧ Matches dest e ∧
      e.destNetworkMask.getPrefixLength = len ∧ e.interface = i := by
  constructor
  · intro e he
    obtain ⟨hin, hne⟩ := List.mem_filter.mp he
    rw [hlpm] at hin
    obtain ⟨x, hx, rfl⟩ := List.mem_map.mp hin
    obtain ⟨hx, hb⟩ := List.mem_filter.mp hx
    have hb : Best dest r.networkRoutes x := of_decide_eq_true hb
    exact ⟨of_decide_eq_true hne, _, _, hasRoute_of_mem hx, hb.1, (hbest x hx hb.1).mp hb, rfl⟩
  · rintro i ⟨hne, e, m, ⟨a, ha⟩, hm, hlen, rfl⟩
    refine ⟨⟨a, e⟩, List.mem_filter.mpr ⟨?_, decide_eq_true hne⟩, rfl⟩
    rw [hlpm, bestEntries, List.mem_map]
    exact ⟨_, List.mem_filter.mpr ⟨ha, decide_eq_true ((hbest _ ha hm).mpr hlen)⟩, rfl⟩

lemma offers_longest {len metric : ℕ} (iif : ℕ) (hmetric : ∀ e m, r.HasRoute e m → m ≤ 0xffffffff)
    (hlt : metric < 0xffffffff) (h : ∀ e m, r.HasRoute e m → Matches dest e →
      e.destNetworkMask.getPrefixLength < len ∨
        e.destNetworkMask.getPrefixLength = len ∧ m = metric)
    (hsome : ∃ e m, r.HasRoute e m ∧ Matches dest e ∧ e.destNetworkMask.getPrefixLength = len) :
    r.Offers dest iif fun i => i ≠ iif ∧ ∃ e m, r.HasRoute e m ∧ Matches dest e ∧
      e.destNetworkMask.getPrefixLength = len ∧ e.interface = i := by
  obtain ⟨e, m, ⟨a, ha⟩, hm, hlen⟩ := hsome
  have hkinds := fun x (hx : x ∈ r.networkRoutes) => h _ _ (hasRoute_of_mem hx)
  have hbest := fun x (hx : x ∈ r.networkRoutes) => best_of_kinds hkinds ⟨_, ha, hm, hlen⟩ hx
  have hscan := scanned dest r.networkRoutes fun x hx _ => hmetric _ _ (hasRoute_of_mem hx)
  refine offers_of_best iif (hscan.entries_eq_best_iff.mpr (Or.inl ⟨_, ha, hm, ?_, ?_⟩))
    fun x hx hm => (hbest x hx hm).2
  · exact (hbest _ ha hm).1.mpr hlen
  · rwa [((h e m ⟨a, ha⟩ hm).resolve_left hlen.not_lt).2]

lemma offers_alike {len metric : ℕ} (iif : ℕ) (hmetric : metric ≤ 0xffffffff)
    (h : ∀ e m, r.HasRoute e m → Matches dest e →
      e.destNetworkMask.getPrefixLength = len ∧ m = metric) :
    r.Offers dest iif fun i => i ≠ iif ∧ ∃ e m, r.HasRoute e m ∧ Matches dest e ∧ e.interface = i := by
  have hkinds : ∀ x ∈ r.networkRoutes, Matches dest x.1.entry →
      prefixLength x < len ∨ prefixLength x = len ∧ x.2 = metric :=
    fun x hx hm => Or.inr (h _ _ (hasRoute_of_mem hx) hm)
  have hbest := fun x (hx : x ∈ r.networkRoutes) hm =>
    best_of_kinds hkinds ⟨x, hx, hm, (h _ _ (hasRoute_of_mem hx) hm).1⟩ hx hm
  have hscan := scanned dest r.networkRoutes fun x hx hm =>
    (h _ _ (hasRoute_of_mem hx) hm).2.trans_le hmetric
  refine (offers_of_best iif (hscan.entries_eq_best_iff.mpr (Or.inr fun x hx => ?_))
    fun x hx hm => (hbest x hx hm).2).congr fun i => and_congr_right fun _ => ⟨?_, ?_⟩
  · have hin := List.mem_of_find?_eq_some hx
    have hm : Matches dest x.1.entry := by simpa using List.find?_some hx
    exact (hbest x hin hm).1.mpr (h _ _ (hasRoute_of_mem hin) hm).1
  · rintro ⟨e, m, hr, hm, -, hi⟩
    exact ⟨e, m, hr, hm, hi⟩
  · rintro ⟨e, m, hr, hm, hi⟩
    exact ⟨e, m, hr, hm, (h e m hr hm).1, hi⟩

lemma Spreads.offers (h : r.Spreads dest iif U) : r.Offers dest iif U := by
  obtain ⟨len, metric, hm, halike⟩ := h.alike
  refine (offers_alike iif hm halike).congr fun i => ⟨?_, fun hi => ⟨?_, h.route i hi⟩⟩
  · rintro ⟨-, e, m, hr, hmatch, rfl⟩
    exact h.uplink e m hr hmatch
  · rintro rfl
    exact h.elsewhere hi

lemma Spreads.candidates (h : r.Spreads dest iif U) :
    r.candidates dest iif = (r.networkRoutes.filter fun x => Matches dest x.1.entry).map Prod.fst := by
  obtain ⟨len, metric, hm, halike⟩ := h.alike
  have hkinds : ∀ x ∈ r.networkRoutes, Matches dest x.1.entry →
      prefixLength x < len ∨ prefixLength x = len ∧ x.2 = metric :=
    fun x hx hmatch => Or.inr (halike _ _ (hasRoute_of_mem hx) hmatch)
  have hbest : ∀ x ∈ r.networkRoutes, Matches dest x.1.entry → Best dest r.networkRoutes x := by
    intro x hx hmatch
    have hlen := (halike _ _ (hasRoute_of_mem hx) hmatch).1
    exact (best_of_kinds hkinds ⟨x, hx, hmatch, hlen⟩ hx hmatch).2.mpr hlen
  have hscan := scanned dest r.networkRoutes fun x hx hmatch =>
    (halike _ _ (hasRoute_of_mem hx) hmatch).2.trans_le hm
  have hlpm : r.multiLpm dest = bestEntries dest r.networkRoutes := by
    refine hscan.entries_eq_best_iff.mpr (Or.inr fun x hx => ?_)
    exact (hbest x (List.mem_of_find?_eq_some hx) (by simpa using List.find?_some hx)).2.1
  rw [WcmpStaticRouting.candidates, hlpm, bestEntries, List.filter_eq_self.mpr]
  · refine congrArg (List.map Prod.fst) (List.filter_congr fun x hx => ?_)
    exact decide_eq_decide.mpr ⟨fun hb => hb.1, hbest x hx⟩
  · intro e he
    obtain ⟨x, hx, rfl⟩ := List.mem_map.mp he
    obtain ⟨hx, hb⟩ := List.mem_filter.mp hx
    refine decide_eq_true fun hin => h.elsewhere ?_
    rw [← hin]
    exact h.uplink _ _ (hasRoute_of_mem hx) (of_decide_eq_true hb).1

lemma visit_length (s : LpmScan) (dest : Ipv4Address) (x : EntryPtr × ℕ) :
    (s.visit dest x).entries.length ≤ s.entries.length + 1 := by
  rw [LpmScan.visit]
  dsimp only
  split_ifs <;> simp

lemma candidates_length (r : WcmpStaticRouting) (dest : Ipv4Address) (iif : ℕ) :
    (r.candidates dest iif).length ≤ r.networkRoutes.length := by
  have hscan : ∀ l : List (EntryPtr × ℕ),
      (l.foldl (LpmScan.visit dest) ⟨0, 0xffffffff, []⟩).entries.length ≤ l.length := by
    intro l
    induction l using List.reverseRecOn with
    | nil => exact le_rfl
    | append_singleton l x ih =>
      rw [List.foldl_append, List.length_append]
      exact (visit_length _ dest x).trans (Nat.succ_le_succ ih)
  exact (List.length_filter_le _ _).trans (hscan _)

lemma Offers.total_lt (h : r.Offers dest iif U) {bound : ℕ}
    (hlen : r.networkRoutes.length * bound < 2 ^ 32)
    (hw : ∀ i, U i → r.weights.getWeight i (r.level dest) ≤ bound) :
    total (r.contenders dest iif) < 2 ^ 32 := by
  have hsum : total (r.contenders dest iif) ≤ (r.contenders dest iif).length * bound := by
    apply total_le
    rintro ⟨e, w⟩ hx
    obtain ⟨hc, -, rfl⟩ := WcmpWeights.mem_upWeights.mp hx
    exact hw _ (h.sound e hc)
  have hcount : (r.contenders dest iif).length ≤ r.networkRoutes.length := by
    rw [contenders, WcmpWeights.upWeights, List.length_map]
    exact (List.length_filter_le _ _).trans (candidates_length r dest iif)
  exact (hsum.trans (Nat.mul_le_mul_right bound hcount)).trans_lt hlen

theorem Offers.lookup (h : r.Offers dest iif U) {bound : ℕ}
    (hlen : r.networkRoutes.length * bound < 2 ^ 32)
    (hw : ∀ i, U i → r.weights.getWeight i (r.level dest) ≤ bound) (hU : ∃ i, U i) (hash : ℕ) :
    ((∀ i, U i → r.weights.isIfUp i = false ∨ r.weights.getWeight i (r.level dest) = 0) ∧
      (r.lookupWcmp false dest hash iif).1 = .error (.abort "!sum")) ∨
    ∃ e : EntryPtr, U e.getInterface ∧ r.weights.isIfUp e.getInterface = true ∧
      0 < r.weights.getWeight e.getInterface (r.level dest) ∧
      (r.lookupWcmp false dest hash iif).1 = .ok (some e.route) := by
  obtain ⟨i, hi⟩ := hU
  obtain ⟨e₀, he₀, -⟩ := h.complete i hi
  have hne : r.candidates dest iif ≠ [] := List.ne_nil_of_mem he₀
  have hlt := h.total_lt hlen hw
  rw [lookupWcmp_miss (by simp) hne]
  rcases Nat.eq_zero_or_pos (total (r.contenders dest iif)) with hzero | hpos
  · left
    rw [WcmpWeights.answer_zero hzero]
    refine ⟨fun i hi => ?_, rfl⟩
    obtain ⟨e, he, rfl⟩ := h.complete i hi
    cases hup : r.weights.isIfUp e.getInterface with
    | false => exact Or.inl rfl
    | true =>
      right
      exact total_eq_zero.mp hzero (e, _) (WcmpWeights.mem_upWeights.mpr ⟨he, hup, rfl⟩)
  · right
    obtain ⟨e, w, ha, hmem, hw0⟩ := WcmpWeights.answer_some hlt hpos hash
    obtain ⟨hc, hup, rfl⟩ := WcmpWeights.mem_upWeights.mp hmem
    refine ⟨e, h.sound e hc, hup, hw0, ?_⟩
    rw [ha]
    rfl

theorem Offers.lookup_hits (h : r.Offers dest iif U) {bound i : ℕ}
    (hlen : r.networkRoutes.length * bound < 2 ^ 32)
    (hw : ∀ i, U i → r.weights.getWeight i (r.level dest) ≤ bound) (hi : U i)
    (hup : r.weights.isIfUp i = true) (hpos : 0 < r.weights.getWeight i (r.level dest)) :
    ∃ hash, ∃ e : EntryPtr, e.getInterface = i ∧
      (r.lookupWcmp false dest hash iif).1 = .ok (some e.route) := by
  obtain ⟨e, he, rfl⟩ := h.complete i hi
  have hmem : (e, r.weights.getWeight e.getInterface (r.level dest)) ∈ r.contenders dest iif :=
    WcmpWeights.mem_upWeights.mpr ⟨he, hup, rfl⟩
  obtain ⟨hash, hans⟩ := WcmpWeights.answer_hits (h.total_lt hlen hw) hmem hpos
  refine ⟨hash, e, rfl, ?_⟩
  rw [lookupWcmp_miss (by simp) (List.ne_nil_of_mem he), hans]
  rfl

end WcmpStaticRouting

end SwarmSim.Wcmp
