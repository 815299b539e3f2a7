import SwarmSim.Wcmp.StaticRouting

namespace SwarmSim.Wcmp

open Machine Ns3

variable {p : Ipv4RoutingTableEntry → Bool} {l : List (EntryPtr × ℕ)}

def RouteOf (i : ℕ) (a : Ipv4InterfaceAddress) (e : Ipv4RoutingTableEntry) : Prop :=
  e.interface = i ∧ e.dest = a.localAddress.combineMask a.mask ∧ e.destNetworkMask = a.mask

instance (i : ℕ) (a : Ipv4InterfaceAddress) : DecidablePred (RouteOf i a) :=
  fun _ => inferInstanceAs (Decidable (_ ∧ _ ∧ _))

lemma boundTo_iff (i : ℕ) (a : Ipv4InterfaceAddress) (e : Ipv4RoutingTableEntry) :
    boundTo i a e = true ↔ RouteOf i a e ∧ e.isNetwork = true := by
  simp only [boundTo, RouteOf, Bool.and_eq_true, decide_eq_true_eq]
  tauto

lemma removalLoop_none (h : ∀ x ∈ l, p x.1.entry = false) : removalLoop p l = (.ok (), l) := by
  induction l with
  | nil => rfl
  | cons x l ih =>
    have hx : ¬ p x.1.entry = true := by simp [h x List.mem_cons_self]
    rw [removalLoop, if_neg hx, ih fun y hy => h y (List.mem_cons_of_mem x hy)]

lemma removalLoop_ok (h : (removalLoop p l).1 = .ok ()) : ∀ x ∈ l, p x.1.entry = false := by
  induction l with
  | nil => simp
  | cons x l ih =>
    rw [removalLoop] at h
    split at h
    · cases h
    · rename_i hx
      intro y hy
      rcases List.mem_cons.mp hy with rfl | hy
      · simpa using hx
      · exact ih h y hy

namespace WcmpStaticRouting

lemma notifyRemoveAddress_unchanged (r : WcmpStaticRouting) {i : ℕ} {isUp : Bool}
    {a : Ipv4InterfaceAddress} (h : (r.notifyRemoveAddress i isUp a).1 = .ok ()) :
    (r.notifyRemoveAddress i isUp a).2 = r := by
  cases isUp with
  | false => rfl
  | true =>
    have hnone := removalLoop_ok (l := r.networkRoutes) (p := boundTo i a) h
    rw [notifyRemoveAddress]
    simp only [Bool.not_true, Bool.false_eq_true, if_false, removalLoop_none hnone]

/-- A call that ends well has removed nothing: it is right only where nothing is to be removed. -/
theorem notifyRemoveAddress_removes_iff (r : WcmpStaticRouting) (i : ℕ) (isUp : Bool)
    (a : Ipv4InterfaceAddress) :
    (r.notifyRemoveAddress i isUp a).1 = .ok () ∧
        (r.notifyRemoveAddress i isUp a).2.networkRoutes =
          r.networkRoutes.filter (fun x => ¬ RouteOf i a x.1.entry) ↔
      ∀ x ∈ r.networkRoutes, ¬ RouteOf i a x.1.entry := by
  constructor
  · rintro ⟨hok, htable⟩
    rw [notifyRemoveAddress_unchanged r hok, eq_comm, List.filter_eq_self] at htable
    simpa using htable
  · intro hnone
    have hfilter : r.networkRoutes.filter (fun x => ¬ RouteOf i a x.1.entry) = r.networkRoutes := by
      rw [List.filter_eq_self]
      simpa using hnone
    have hok : (r.notifyRemoveAddress i isUp a).1 = .ok () := by
      cases isUp with
      | false => rfl
      | true =>
        have hloop : ∀ x ∈ r.networkRoutes, boundTo i a x.1.entry = false := by
          intro x hx
          rw [← Bool.not_eq_true, boundTo_iff]
          exact fun hb => hnone x hx hb.1
        rw [notifyRemoveAddress]
        simp only [Bool.not_true, Bool.false_eq_true, if_false, removalLoop_none hloop]
    exact ⟨hok, by rw [notifyRemoveAddress_unchanged r hok, hfilter]⟩

def singleRoute : WcmpStaticRouting :=
  { WcmpStaticRouting.new 1 none with
    networkRoutes := [(⟨0, .createNetworkRouteTo (.ofOctets 10 1 1 0) (.ofPrefix 24) 1⟩, 5)] }

theorem notifyRemoveAddress_not_removes :
    ¬ ∀ (r : WcmpStaticRouting) (i : ℕ) (isUp : Bool) (a : Ipv4InterfaceAddress),
      (r.notifyRemoveAddress i isUp a).1 = .ok () ∧
        (r.notifyRemoveAddress i isUp a).2.networkRoutes =
          r.networkRoutes.filter (fun x => ¬ RouteOf i a x.1.entry) := by
  intro h
  have hok := (h singleRoute 1 true ⟨.ofOctets 10 1 1 2, .ofPrefix 24⟩).1
  revert hok
  decide

end WcmpStaticRouting

end SwarmSim.Wcmp
