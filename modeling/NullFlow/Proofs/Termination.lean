import NullFlow.Proofs.Convergence

namespace NullFlow.Scope

variable {s : Scope} {g : Graph} {sol : Solution}

theorem visits_le_of_count {k : Nat} (hin : ∀ n ∈ sol.trail, n < g.nodes.length)
    (hcount : ∀ n, sol.trail.count n ≤ k) :
    sol.visits ≤ k * (List.range g.nodes.length).countP sol.reached := by
  let nodes := ((List.range g.nodes.length).filter sol.reached).toFinset
  have hmem (n : Nat) (hn : n ∈ sol.trail) : n ∈ nodes := by
    simp only [nodes, List.mem_toFinset, List.mem_filter, List.mem_range]
    exact ⟨hin n hn, Solution.reached_iff.2 hn⟩
  calc sol.visits ≤ k * nodes.card := Dataflow.length_le_of_count hmem fun n _ => hcount n
    _ ≤ k * (List.range g.nodes.length).countP sol.reached := by
        rw [List.countP_eq_length_filter]
        exact Nat.mul_le_mul_left k (List.toFinset_card_le _)

/-- The loop ends with what `solve` gives, whatever the graph. Each node is visited at most once more
than there are rises in its slots, also while the loop still runs; a waiting node has a visit left. -/
theorem solve_terminates (hg : Graph.ofBody s.body = .ok g) :
    (∀ cause, (s.dataflow g).seeds = .error cause →
      (s.dataflow g).solve s.height = .error ⟨[], cause⟩) ∧
    (∀ facts, (s.dataflow g).seeds = .ok facts →
      (s.dataflow g).Ends (Dataflow.start facts) ((s.dataflow g).solve s.height) ∧
      ∀ state, (s.dataflow g).Reachable (Dataflow.start facts) state →
        (∀ n, state.trail.count n ≤ 2 * s.slots + 1) ∧
        ∀ n ∈ state.queue, state.trail.count n + 1 ≤ 2 * s.slots + 1) ∧
    ∀ sol, s.solve g = .ok sol →
      sol.visits ≤ (2 * s.slots + 1) * (List.range g.nodes.length).countP sol.reached := by
  have hl := dataflow_lawful hg
  refine ⟨fun cause hc => by simp [Dataflow.solve, hc], fun facts hf => ⟨?_, fun state hr => ?_⟩,
    fun sol h => ?_⟩
  · exact Dataflow.solve_ends hl hf s.slots_le_height
  · have hgd := Dataflow.reachable_guarded hl hr (Dataflow.start_guarded hl hf)
    refine ⟨fun n => (Nat.le_add_right _ _).trans (hgd.count_le hl n), fun n hn => ?_⟩
    have hwait : 0 < state.queue.count n := List.count_pos_iff.2 hn
    have hle := hgd.count_le hl n
    omega
  · have hgd := solve_guarded hg h
    exact visits_le_of_count (fun n hn => hgd.inside n (.inl hn))
      fun n => (Nat.le_add_right _ _).trans (hgd.count_le hl n)

theorem retry_terminates : Graph.ofBody retry.body = .ok retryGraph ∧
    retry.solve retryGraph = .ok retrySolution ∧ retrySolution.visits ≤
      (2 * retry.slots + 1) * (List.range retryGraph.nodes.length).countP retrySolution.reached :=
  ⟨rfl, rfl, (solve_terminates rfl).2.2 retrySolution rfl⟩

end NullFlow.Scope
