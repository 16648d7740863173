import NullFlow.Proofs.Enclosure

namespace NullFlow

instance : DecidableLE Frame := fun f g => inferInstanceAs (Decidable (g.merge f = .ok g))

namespace Scope

variable {s : Scope} {g : Graph} {sol : Solution} {bound : Nat → Frame}

/-- Frames for the reached nodes, of the shapes and depths of their facts, that lie above the seeds
and are closed under every edge out of a reached node. -/
structure PostFixpoint (s : Scope) (g : Graph) (sol : Solution) (bound : Nat → Frame) : Prop where
  alike : ∀ n ∈ sol.trail, ∀ fact ∈ sol.facts[n]?,
    (bound n).shape = fact.shape ∧ (bound n).depth = fact.depth
  free : ∀ n ∈ sol.trail, ∀ v ∈ (bound n).stack.drop (bound n).depth, v = .unused
  seeds : ∀ n ∈ sol.trail, ∀ node ∈ g.nodes[n]?, node = .entry ∨ node.thrown?.isSome →
    ∀ f ∈ (s.seed node).toOption, f ≤ bound n
  closed : ∀ n ∈ sol.trail, ∀ out ∈ ((s.dataflow g).transfer n (bound n)).toOption,
    ∀ t ∈ g.successors n, arrive (g.nodes.getD t .exit) out ≤ bound t

theorem unreached_le {f : Frame} (h : f.shape = s.shape) : s.unreached ≤ f := by
  have hle := f.blank_le
  simp only [Frame.shape, shape, Shape.mk.injEq] at h
  rw [h.1, h.2.1, h.2.2] at hle
  exact hle

namespace PostFixpoint

theorem trim (hg : Graph.ofBody s.body = .ok g) (h : s.Completed g sol)
    (hb : s.PostFixpoint g sol bound) {n : Nat} (hn : n ∈ sol.trail) :
    (bound n).Trim s.shape := by
  have hf := h.getElem?_factAt hg hn
  refine ⟨(hb.alike n hn _ hf).1.trans (h.factAt_live hg hn).shape, fun i hi => ?_⟩
  by_cases hlt : i < (bound n).stack.length
  · have hmem : (bound n).stack.get ⟨i, hlt⟩ ∈ (bound n).stack.drop (bound n).depth :=
      List.mem_drop_iff_getElem.2 ⟨i - (bound n).depth, by omega, by simp [Nat.add_sub_cancel' hi]⟩
    rw [List.getD_eq_getElem?_getD, List.getElem?_eq_getElem hlt]
    exact hb.free n hn _ hmem
  · rw [List.getD_eq_getElem?_getD, List.getElem?_eq_none (Nat.le_of_not_lt hlt), Option.getD_none]

/-- Where the frames of a post-fixpoint hold values in all live slots they execute just as the facts
do, since execution fails by depth alone. -/
theorem transfer_ok (hg : Graph.ofBody s.body = .ok g) (h : s.Completed g sol)
    (hb : s.PostFixpoint g sol bound) {n : Nat} (hn : n ∈ sol.trail)
    (hlive : (bound n).Live s.shape) :
    ∃ out out', (s.dataflow g).transfer n (s.factAt sol n) = .ok out ∧
      (s.dataflow g).transfer n (bound n) = .ok out' ∧ out'.depth = out.depth := by
  obtain ⟨fact, out, hfact, ht⟩ := h.reached_transfer hg hn
  have hd := (hb.alike n hn fact hfact).2
  rw [h.getElem?_factAt hg hn, Option.some.injEq] at hfact
  subst hfact
  obtain ⟨_, hx⟩ := dataflow_transfer.1 ht
  have hrel := (h.factAt_live hg hn).traced_used hlive hd.symm
  obtain ⟨⟨out', findings⟩, hx', hout⟩ :=
    ((Alike.refl .used s).matching.executeNode _ hrel).ok_left hx
  exact ⟨out, out', ht, dataflow_transfer.2 ⟨findings, hx'⟩, hout.depth.symm⟩

theorem enclosure (hg : Graph.ofBody s.body = .ok g) (h : s.Completed g sol)
    (hd : s.DepthConsistent g sol) (hb : s.PostFixpoint g sol bound) :
    s.Enclosure g sol.trail bound where
  entry := h.entry_reached hg
  entry_depth := (hb.alike _ (h.entry_reached hg) _ (h.entry_fact hg)).2
  trim n hn := hb.trim hg h hn
  seed n hn f hf := by
    have hlt : n < g.nodes.length := (h.guarded hg).inside n (.inl hn)
    have hnode := List.getElem?_eq_getElem hlt
    rw [getD_node hnode] at hf
    have hseeds := hb.seeds n hn _ hnode
    cases hkind : g.nodes.get ⟨n, hlt⟩ with
    | entry => exact hseeds (.inl hkind) f (toOption_eq_some.2 hf)
    | exit | block =>
        rw [show g.nodes[n] = _ from hkind] at hf
        cases hf
        exact unreached_le (hb.trim hg h hn).shape
    | exception handler receives =>
        refine hseeds (.inr ?_) f (toOption_eq_some.2 hf)
        rw [show g.nodes[n] = _ from hkind]
        cases receives <;> rfl
  thrown n hn values hv := by
    have hfact := h.getElem?_factAt hg hn
    have hproper := (h.guarded hg).proper n _ hfact
    rw [(hb.alike n hn _ hfact).2, ← hproper.2 values hv, hproper.1.take_length]
  closed n hn hlive := by
    obtain ⟨out, out', ht, ht', hdepth⟩ := hb.transfer_ok hg h hn hlive
    refine ⟨out', ht', fun t hs => ?_⟩
    have hfact := h.getElem?_factAt hg hn
    obtain ⟨hreached, fact', hfact', _⟩ := h.successor_fact hg hn hfact ht hs
    refine ⟨hreached, hb.closed n hn out' (toOption_eq_some.2 ht') t hs, fun hthrown => ?_⟩
    rw [hdepth, (hb.alike t hreached fact' hfact').2]
    exact hd n hn t hs hthrown _ hfact out (toOption_eq_some.2 ht) fact' hfact'

theorem fact_le (hg : Graph.ofBody s.body = .ok g) (h : s.Completed g sol)
    (hd : s.DepthConsistent g sol) (hb : s.PostFixpoint g sol bound) {n : Nat}
    (hn : n ∈ sol.trail) : s.factAt sol n ≤ bound n := by
  obtain ⟨_, hrel⟩ := h.fact_enclosed hg (Alike.refl .all s) (hb.enclosure hg h hd) hn
  have hle := hrel.view_le
  rwa [Frame.view_all, Frame.view_all] at hle

end PostFixpoint

section AnyOrder

variable {state : Dataflow.State Frame} {facts : List Frame}

theorem visit_any_order (hg : Graph.ofBody s.body = .ok g) (h : s.Completed g sol)
    (hd : s.DepthConsistent g sol) (hseeds : (s.dataflow g).seeds = .ok facts)
    (hr : (s.dataflow g).Reachable (Dataflow.start facts) state) {node : Nat}
    (hq : node ∈ state.queue) : ∃ next, (s.dataflow g).visit state node = .ok next := by
  have hc := (h.enclosure hg hd).confining (Alike.refl .all s) hg
  have hs := Dataflow.reachable_preserved hc.preserving hr
    (Dataflow.start_confined hc.preserving hseeds)
  obtain ⟨next, hv, _⟩ := Dataflow.visit_confined hc hs hq
  exact ⟨next, hv⟩

theorem facts_any_order (hg : Graph.ofBody s.body = .ok g) (h : s.Completed g sol)
    (hd : s.DepthConsistent g sol) (hseeds : (s.dataflow g).seeds = .ok facts)
    (hr : (s.dataflow g).Reachable (Dataflow.start facts) state) (hq : state.queue = []) :
    state.facts = sol.facts ∧ ∀ n, state.reached n = sol.reached n := by
  have hother : s.Completed g ⟨state.facts, state.trail, []⟩ := by
    refine ⟨facts, hseeds, ?_⟩
    rw [Solution.state, ← hq]
    exact hr
  obtain ⟨htrail, hview⟩ := hother.same_view hg (Alike.refl .all s) h hd
  constructor
  · apply List.ext_getElem?
    intro n
    have hn := hview n
    rwa [funext Frame.view_all, Option.map_id', Option.map_id'] at hn
  · intro n
    rw [Bool.eq_iff_iff, Dataflow.State.reached, List.contains_iff_mem, Solution.reached_iff]
    exact htrail n

end AnyOrder

/-- Whichever waiting node is visited next, the loop ends without an error and with the facts, the
reached nodes and the findings of the solution. Its facts lie below every post-fixpoint. -/
theorem solve_any_order (hg : Graph.ofBody s.body = .ok g) (h : s.solve g = .ok sol)
    (hd : s.DepthConsistent g sol) :
    (∃ facts, (s.dataflow g).seeds = .ok facts ∧
      Acc (fun next now => (s.dataflow g).Turn now next) (Dataflow.start facts) ∧
      ∀ state, (s.dataflow g).Reachable (Dataflow.start facts) state →
        (∀ node ∈ state.queue, ∃ next, (s.dataflow g).visit state node = .ok next) ∧
        (state.queue = [] → state.facts = sol.facts ∧ (∀ n, state.reached n = sol.reached n) ∧
          s.report g state = .ok sol.findings)) ∧
    ∀ bound, s.PostFixpoint g sol bound → ∀ n, sol.reached n →
      ∃ fact, sol.facts[n]? = some fact ∧ (bound n).merge fact = .ok (bound n) := by
  have hsol := solve_completed hg h
  have hl := dataflow_lawful hg
  obtain ⟨facts, hseeds, _⟩ := id hsol
  refine ⟨⟨facts, hseeds, ?_, fun state hr => ⟨fun node hq => ?_, fun hq => ?_⟩⟩, ?_⟩
  · exact Dataflow.turn_acc hl (Dataflow.start_guarded hl hseeds)
  · exact visit_any_order hg hsol hd hseeds hr hq
  · obtain ⟨hfacts, hreached⟩ := facts_any_order hg hsol hd hseeds hr hq
    refine ⟨hfacts, hreached, ?_⟩
    rw [← solve_report h]
    exact report_congr hfacts hreached
  · intro bound hb n hn
    rw [Solution.reached_iff] at hn
    exact ⟨_, hsol.getElem?_factAt hg hn, Frame.le_iff_merge.1 (hb.fact_le hg hsol hd hn)⟩

def retrySeeds : List Frame := [
  ⟨[.unused], 0, [.null], []⟩, ⟨[.unused], 0, [.unused], []⟩, ⟨[.unused], 0, [.unused], []⟩,
  ⟨[.unused], 0, [.unused], []⟩, ⟨[.unused], 0, [.unused], []⟩, ⟨[.unused], 0, [.unused], []⟩,
  ⟨[.unused], 0, [.unused], []⟩, ⟨[.nonNull], 1, [.null], []⟩]

def retryBackward : Dataflow.State Frame where
  facts := retrySolution.facts
  queue := []
  trail := [5, 1, 6, 4, 5, 1, 6, 4, 3, 7, 2, 0]

theorem retryBackward_reachable :
    (retry.dataflow retryGraph).Reachable (Dataflow.start retrySeeds) retryBackward := by
  refine .head ⟨0, by decide, rfl⟩ ?_
  refine .head ⟨2, by decide +kernel, rfl⟩ ?_
  refine .head ⟨7, by decide +kernel, rfl⟩ ?_
  refine .head ⟨3, by decide +kernel, rfl⟩ ?_
  refine .head ⟨4, by decide +kernel, rfl⟩ ?_
  refine .head ⟨6, by decide +kernel, rfl⟩ ?_
  refine .head ⟨1, by decide +kernel, rfl⟩ ?_
  refine .head ⟨5, by decide +kernel, rfl⟩ ?_
  refine .head ⟨4, by decide +kernel, rfl⟩ ?_
  refine .head ⟨6, by decide +kernel, rfl⟩ ?_
  refine .head ⟨1, by decide +kernel, rfl⟩ ?_
  exact .single ⟨5, by decide +kernel, rfl⟩

theorem retry_postFixpoint : retry.PostFixpoint retryGraph retrySolution
    fun n => (retry.factAt retrySolution n).view .used where
  alike := by decide +kernel
  free := by decide +kernel
  seeds := by decide +kernel
  closed := by decide +kernel

theorem retry_any_order : retry.DepthConsistent retryGraph retrySolution ∧
    retryBackward.trail ≠ retrySolution.trail ∧
    (retry.dataflow retryGraph).Reachable (Dataflow.start retrySeeds) retryBackward ∧
    retry.report retryGraph retryBackward = .ok retrySolution.findings ∧
    ∃ fact, retrySolution.facts[3]? = some fact ∧
      fact ≤ (retry.factAt retrySolution 3).view .used := by
  have hd : retry.DepthConsistent retryGraph retrySolution := by decide +kernel
  obtain ⟨⟨facts, hseeds, _, hruns⟩, hleast⟩ := solve_any_order (g := retryGraph) rfl rfl hd
  obtain rfl : facts = retrySeeds := Except.ok.inj (hseeds.symm.trans rfl)
  obtain ⟨_, _, hreport⟩ := (hruns _ retryBackward_reachable).2 rfl
  exact ⟨hd, by decide, retryBackward_reachable, hreport, hleast _ retry_postFixpoint 3 rfl⟩

end Scope

end NullFlow
