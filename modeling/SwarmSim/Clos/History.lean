import SwarmSim.Clos.Footprint

namespace SwarmSim.Clos

open Machine Ns3 Wcmp

namespace TopologyDescriptor

variable (p : TopologyDescriptor) {S : Ipv4StaticRouting}

def commands (cs : List (Link × Bool)) : List Command := cs.map fun c => p.command c.1 c.2

def Names (systemId : Node → ℕ) (c : Link × Bool) : Prop :=
  p.HasLink c.1 ∧ systemId (p.srcEnd c.1).1 = systemId (p.dstEnd c.1).1

def after (cs : List (Link × Bool)) (v : Node) (s : NodeStack S) : NodeStack S :=
  cs.foldl (fun s c => p.effect c.1 c.2 v s) s

end TopologyDescriptor

def status (cs : List (Link × Bool)) : Link → Bool :=
  cs.foldl (fun up c => Function.update up c.1 c.2) fun _ => true

def lastCommanded (cs : List (Link × Bool)) (l : Link) : Option Bool :=
  (cs.filter fun c => c.1 = l).getLast?.map Prod.snd

lemma lastCommanded_append (cs : List (Link × Bool)) (c : Link × Bool) (l : Link) :
    lastCommanded (cs ++ [c]) l = if c.1 = l then some c.2 else lastCommanded cs l := by
  rw [lastCommanded, List.filter_append]
  by_cases h : c.1 = l
  · simp [h]
  · simp [h, lastCommanded]

lemma status_append (cs : List (Link × Bool)) (c : Link × Bool) (l : Link) :
    status (cs ++ [c]) l = if c.1 = l then c.2 else status cs l := by
  rw [status, List.foldl_append, List.foldl_cons, List.foldl_nil, Function.update_apply]
  by_cases h : l = c.1
  · rw [if_pos h, if_pos h.symm]
  · rw [if_neg h, if_neg (Ne.symm h)]
    rfl

lemma status_eq_false (cs : List (Link × Bool)) (l : Link) :
    status cs l = false ↔ lastCommanded cs l = some false := by
  induction cs using List.reverseRecOn with
  | nil => simp [status, lastCommanded]
  | append_singleton cs c ih =>
    rw [status_append, lastCommanded_append]
    by_cases h : c.1 = l
    · simp [h]
    · simpa [h] using ih

namespace TopologyDescriptor

variable {p : TopologyDescriptor} {S : Ipv4StaticRouting} {systemId : Node → ℕ} {nodes : Nodes S}
  {cs : List (Link × Bool)}

lemma after_append (cs : List (Link × Bool)) (c : Link × Bool) (v : Node) (s : NodeStack S) :
    p.after (cs ++ [c]) v s = p.effect c.1 c.2 v (p.after cs v s) := by
  rw [after, List.foldl_append]
  rfl

theorem run_commands (h : ∀ v, p.HasNode v → p.Shape v (nodes v))
    (hcs : ∀ c ∈ cs, p.Names systemId c) :
    p.run systemId (p.commands cs) nodes = .ok fun v => p.after cs v (nodes v) := by
  induction cs generalizing nodes with
  | nil => rfl
  | cons c cs ih =>
    obtain ⟨hl, hs⟩ := hcs c List.mem_cons_self
    rw [commands, List.map_cons, run, execute_link systemId c.2 hl hs h, Except.bind]
    apply ih
    · intro v hv
      exact (h v hv).effect c.1 c.2
    · intro c' hc'
      exact hcs c' (List.mem_cons_of_mem c hc')

end TopologyDescriptor

end SwarmSim.Clos
