import NullFlow.Proofs.Convergence
import NullFlow.Proofs.Schedule

namespace NullFlow

namespace Dataflow

variable {F E : Type} [DecidableEq F] {p : Dataflow F E} {s s' : State F} {node : Nat}
  {Inside : Nat → Prop}

def State.Keeps (s : State F) (Inside : Nat → Prop) : Prop :=
  ∀ n, n ∈ s.trail ∨ n ∈ s.queue → Inside n

def Closed (p : Dataflow F E) (Inside : Nat → Prop) : Prop :=
  ∀ n, Inside n → ∀ t ∈ p.successors n, Inside t

omit [DecidableEq F] in
theorem State.Keeps.pick (hs : s.Keeps Inside) (hq : node ∈ s.queue) :
    (s.pick node).Keeps Inside := by
  intro n hn
  rcases hn with hn | hn
  · rcases List.mem_cons.1 hn with rfl | hn
    · exact hs n (.inr hq)
    · exact hs n (.inl hn)
  · exact hs n (.inr (List.mem_of_mem_erase hn))

theorem State.Keeps.send {out : F} (hs : s.Keeps Inside) (hnode : Inside node)
    (h : p.send out s node = .ok s') : s'.Keeps Inside := by
  intro n hn
  rcases send_met h hn with rfl | hn
  · exact hnode
  · exact hs n hn

theorem visit_keeps (hc : p.Closed Inside) (hs : s.Keeps Inside) (hq : node ∈ s.queue)
    (h : p.visit s node = .ok s') : s'.Keeps Inside := by
  cases hf : s.facts[node]? with
  | none =>
      simp only [visit, hf, Except.ok.injEq] at h
      subst h
      intro n hn
      exact hs n (hn.imp id List.mem_of_mem_erase)
  | some fact =>
      obtain ⟨out, _, hsend⟩ := visit_cases hf h
      refine foldlM_send (I := fun t => t.Keeps Inside) ?_ (hs.pick hq) hsend
      intro t t' u hu ht hsend
      exact ht.send (hc node (hs node (.inr hq)) u hu) hsend

theorem reachable_keeps (hc : p.Closed Inside) (hs : s.Keeps Inside) (hr : p.Reachable s s') :
    s'.Keeps Inside := by
  induction hr with
  | refl => exact hs
  | tail _ hturn ih =>
      obtain ⟨node, hq, hv⟩ := hturn
      exact visit_keeps hc ih hq hv

theorem iterate_reachable {fuel : Nat} (h : p.iterate fuel s = .ok s') : p.Reachable s s' := by
  induction fuel generalizing s with
  | zero =>
      cases h
      exact .refl
  | succ fuel ih =>
      unfold iterate at h
      cases hq : s.queue with
      | nil =>
          simp only [hq, Except.ok.injEq] at h
          exact h ▸ .refl
      | cons node rest =>
          simp only [hq] at h
          cases hv : p.visit s node with
          | error failure => simp [hv, bind, Except.bind] at h
          | ok mid =>
              simp only [hv, bind, Except.bind] at h
              exact .head ⟨node, hq ▸ List.mem_cons_self, hv⟩ (ih h)

/-- What the transfer does to nodes outside is never asked. -/
theorem iterate_congr (hc : p.Closed Inside) {transfer : Nat → F → Except E F}
    (ht : ∀ n, Inside n → transfer n = p.transfer n) (hs : s.Keeps Inside) (fuel : Nat) :
    ({ p with transfer } : Dataflow F E).iterate fuel s = p.iterate fuel s := by
  induction fuel generalizing s with
  | zero => rfl
  | succ fuel ih =>
      unfold iterate
      cases hq : s.queue with
      | nil => rfl
      | cons node rest =>
          have hmem : node ∈ s.queue := hq ▸ List.mem_cons_self
          have hvisit : ({ p with transfer } : Dataflow F E).visit s node = p.visit s node := by
            simp only [visit, ht node (hs node (.inr hmem))]
            rfl
          simp only [hvisit]
          cases hv : p.visit s node with
          | error failure => rfl
          | ok mid => exact ih (visit_keeps hc hs hmem hv)

omit [DecidableEq F] in
theorem start_keeps {facts : List F} (h : Inside 0) : (start facts).Keeps Inside := by
  intro n hn
  simp only [start, List.not_mem_nil, List.mem_singleton, false_or] at hn
  exact hn ▸ h

theorem solve_keeps (hc : p.Closed Inside) (h0 : Inside 0) {height : Nat}
    (h : p.solve height = .ok s) : s.Keeps Inside := by
  unfold solve at h
  split at h
  · cases h
  · exact reachable_keeps hc (start_keeps h0) (iterate_reachable h)

theorem solve_congr (hc : p.Closed Inside) (h0 : Inside 0) {transfer : Nat → F → Except E F}
    (ht : ∀ n, Inside n → transfer n = p.transfer n) (height : Nat) :
    ({ p with transfer } : Dataflow F E).solve height = p.solve height := by
  unfold solve
  have hseeds : ({ p with transfer } : Dataflow F E).seeds = p.seeds := rfl
  rw [hseeds]
  cases p.seeds with
  | error cause => rfl
  | ok facts => exact iterate_congr hc ht (start_keeps h0) _

end Dataflow

def Graph.Connected (g : Graph) (n : Nat) : Prop :=
  Relation.ReflTransGen (fun n t => t ∈ g.successors n) Graph.entry n

namespace Scope

variable {s : Scope} {g : Graph} {sol : Solution} {n : Nat}

theorem connected_closed (s : Scope) (g : Graph) : (s.dataflow g).Closed g.Connected :=
  fun _ hn _ ht => hn.tail ht

namespace Completed

theorem connected_of_reached (h : s.Completed g sol) (hn : n ∈ sol.trail) : g.Connected n := by
  obtain ⟨facts, _, hr⟩ := h
  have hstart : (Dataflow.start facts).Keeps g.Connected := Dataflow.start_keeps .refl
  exact Dataflow.reachable_keeps (s.connected_closed g) hstart hr n (.inl hn)

/-- A merge that changes nothing still makes the node wait that was never visited. -/
theorem reached_of_connected (hg : Graph.ofBody s.body = .ok g) (h : s.Completed g sol)
    (hn : g.Connected n) : n ∈ sol.trail := by
  induction hn with
  | refl => exact h.entry_reached hg
  | tail _ ht ih =>
      obtain ⟨fact, out, hf, hout⟩ := h.reached_transfer hg ih
      exact (h.successor_fact hg ih hf hout ht).1

theorem unreached_fact (hg : Graph.ofBody s.body = .ok g) (h : s.Completed g sol) {node : Node}
    (hnode : g.nodes[n]? = some node) (hn : n ∉ sol.trail) :
    ∃ f, s.seed node = .ok f ∧ sol.facts[n]? = some f := by
  obtain ⟨facts, hseeds, hr⟩ := h
  have hl := dataflow_lawful hg
  have hkept := Dataflow.reachable_unmet hl (Dataflow.start_guarded hl hseeds) hr n hn
    List.not_mem_nil
  have hlt : n < facts.length :=
    Dataflow.seeds_length hseeds ▸ (List.getElem?_eq_some_iff.1 hnode).1
  have hf := List.getElem?_eq_getElem hlt
  have hseed := Dataflow.seeds_getElem? hseeds hf
  simp only [dataflow, getD_node hnode] at hseed
  exact ⟨_, hseed, hkept.trans hf⟩

end Completed

section OtherBody

variable {body : MethodBody}

theorem popArguments_body (callee : String) (count : Nat) (f : Frame) :
    ({ s with body } : Scope).popArguments callee count f = s.popArguments callee count f := by
  induction count generalizing f with
  | zero => rfl
  | succ index ih => simp only [popArguments, ih]

theorem step_body (i : Instruction) (f : Frame) :
    ({ s with body } : Scope).step i f = s.step i f := by
  unfold step
  simp only [call, popArguments_body]
  rfl

theorem execute_body (index : Nat) (instructions : List Instruction) (f : Frame) :
    ({ s with body } : Scope).execute index instructions f = s.execute index instructions f := by
  induction instructions generalizing index f with
  | nil => rfl
  | cons i rest ih => simp only [execute, step_body, ih]

theorem executeNode_body {node : Node} (f : Frame)
    (h : ∀ b, node = .block b → b.instructions body = b.instructions s.body) :
    ({ s with body } : Scope).executeNode node f = s.executeNode node f := by
  cases node with
  | block b =>
      simp only [executeNode]
      rw [h b rfl, execute_body]
  | entry | exit | exception => rfl

/-- Another body with the frames of the method, and with its instructions wherever edges lead from
the entry. -/
structure Variant (s : Scope) (g : Graph) (body : MethodBody) : Prop where
  maxStack : body.maxStack = s.body.maxStack
  locals : body.locals.length = s.body.locals.length
  blocks : ∀ n b, g.Connected n → g.nodes[n]? = some (.block b) →
    b.instructions body = b.instructions s.body

theorem Variant.executeNode (h : s.Variant g body) (hn : g.Connected n) (f : Frame) :
    ({ s with body } : Scope).executeNode (g.nodes.getD n .exit) f =
      s.executeNode (g.nodes.getD n .exit) f := by
  refine executeNode_body f fun b hb => ?_
  cases hnode : g.nodes[n]? with
  | none =>
      rw [List.getD_eq_getElem?_getD, hnode] at hb
      cases hb
  | some node =>
      rw [getD_node hnode] at hb
      exact h.blocks n b hn (hb ▸ hnode)

theorem Variant.unreached (h : s.Variant g body) :
    ({ s with body } : Scope).unreached = s.unreached := by
  simp only [Scope.unreached, h.maxStack, h.locals]

theorem mapM_congr {α β ε : Type} {k k' : α → Except ε β} {l : List α}
    (h : ∀ a ∈ l, k a = k' a) : l.mapM k = l.mapM k' := by
  induction l with
  | nil => rfl
  | cons a l ih =>
      rw [List.mapM_cons, List.mapM_cons, h a List.mem_cons_self,
        ih fun b hb => h b (List.mem_cons_of_mem _ hb)]

theorem Variant.report (h : s.Variant g body) {state : Dataflow.State Frame}
    (hs : state.Keeps g.Connected) :
    ({ s with body } : Scope).report g state = s.report g state := by
  simp only [Scope.report, h.unreached]
  congr 1
  refine mapM_congr fun n hn => ?_
  have hmem : n ∈ state.trail := List.contains_iff_mem.1 (List.mem_filter.1 hn).2
  rw [h.executeNode (hs n (.inl hmem))]

theorem Variant.seed (h : s.Variant g body) (node : Node) :
    ({ s with body } : Scope).seed node = s.seed node := by
  have hentry : ({ s with body } : Scope).entry = s.entry := by
    simp only [entry, h.maxStack, h.locals]
    rfl
  cases node with
  | entry => simp only [Scope.seed, hentry]
  | exit | block => simp only [Scope.seed, h.unreached]
  | exception => simp only [Scope.seed, caught, hentry]

theorem Variant.solve (h : s.Variant g body) :
    ({ s with body } : Scope).solve g = s.solve g := by
  have hflow : ({ s with body } : Scope).dataflow g = { s.dataflow g with
      transfer := (({ s with body } : Scope).dataflow g).transfer } := by
    simp only [dataflow, h.seed]
  have hheight : ({ s with body } : Scope).height = s.height := by
    simp only [height, slots, h.maxStack, h.locals]
  have hloop : (({ s with body } : Scope).dataflow g).solve ({ s with body } : Scope).height =
      (s.dataflow g).solve s.height := by
    rw [hflow, hheight]
    refine Dataflow.solve_congr (s.connected_closed g) .refl (fun n hn => ?_) _
    funext f
    simp only [dataflow, h.executeNode hn]
  unfold Scope.solve
  rw [hloop]
  cases hstate : (s.dataflow g).solve s.height with
  | error failure => rfl
  | ok state =>
      have hkeeps := Dataflow.solve_keeps (s.connected_closed g) .refl hstate
      simp only [bind, Except.bind, h.report hkeeps]

end OtherBody

/-- A node is reached exactly when edges lead to it from the entry. The others end with the facts
they start from, and other instructions in their place leave the solution as it is. -/
theorem solve_connected (hg : Graph.ofBody s.body = .ok g) (h : s.solve g = .ok sol) :
    (∀ n, sol.reached n ↔ g.Connected n) ∧
    (∀ n node, g.nodes[n]? = some node → ¬ sol.reached n →
      ∃ f, s.seed node = .ok f ∧ sol.facts[n]? = some f) ∧
    ∀ body, s.Variant g body → ({ s with body } : Scope).solve g = .ok sol := by
  have hsol := solve_completed hg h
  refine ⟨fun n => ⟨fun hn => ?_, fun hn => ?_⟩, fun n node hnode hn => ?_, fun body hb => ?_⟩
  · exact hsol.connected_of_reached (Solution.reached_iff.1 hn)
  · exact Solution.reached_iff.2 (hsol.reached_of_connected hg hn)
  · exact hsol.unreached_fact hg hnode fun hmem => hn (Solution.reached_iff.2 hmem)
  · exact hb.solve.trans h

def detour : Scope where
  owner := "Sample.Widget"
  method := ⟨"Skip", ⟨"System.Void", true⟩, false, [], [], none⟩
  body := {
    maxStack := 1
    locals := [⟨"System.Object", false⟩]
    instructions := [
      ⟨0, .br, .target 3⟩, ⟨1, .ldnull, .none⟩, ⟨2, .throw, .none⟩, ⟨3, .ret, .none⟩,
      ⟨4, .stloc0, .none⟩, ⟨5, .leave, .target 3⟩]
    handlers := [⟨.catch, 1, 3, 4, 6, none⟩] }
  contracts := .empty

def detourGraph : Graph := Graph.assemble detour.body

def detourSolution : Solution where
  facts := [
    ⟨[.unused], 0, [.null], []⟩, ⟨[.unused], 0, [.null], []⟩, ⟨[.unused], 0, [.null], []⟩,
    ⟨[.unused], 0, [.unused], []⟩, ⟨[.unused], 0, [.null], []⟩, ⟨[.unused], 0, [.unused], []⟩,
    ⟨[.nonNull], 1, [.null], []⟩]
  trail := [1, 4, 2, 0]
  findings := []

def detourBroken : MethodBody :=
  { detour.body with instructions := detour.body.instructions.take 4 ++
      [⟨4, .pop, .none⟩, ⟨5, .pop, .none⟩] }

theorem detour_connected : Graph.ofBody detour.body = .ok detourGraph ∧
    detour.solve detourGraph = .ok detourSolution ∧
    detourGraph.Connected Graph.exit ∧ ¬ detourGraph.Connected 5 ∧
    Graph.exit ∈ detourGraph.successors 4 ∧ 4 ∈ detourGraph.successors 5 ∧
    detourSolution.facts[5]? = some detour.unreached ∧
    (∃ f, detour.caught = .ok f ∧ detourSolution.facts[6]? = some f) ∧
    ({ detour with body := detourBroken } : Scope).solve detourGraph = .ok detourSolution := by
  have hsolve : detour.solve detourGraph = .ok detourSolution := rfl
  obtain ⟨hreached, hfacts, hother⟩ := solve_connected (g := detourGraph) rfl hsolve
  have hexit : detourGraph.Connected Graph.exit := (hreached 1).1 rfl
  have hhandler : ¬ detourGraph.Connected 5 := fun hn => nomatch (hreached 5).2 hn
  obtain ⟨f, hf, hfact⟩ := hfacts 5 (.block ⟨4, 5⟩) rfl nofun
  obtain ⟨f', hf', hfact'⟩ := hfacts 6 (.exception 0 true) rfl nofun
  have hcaught : detour.caught = .ok f' := mapError_eq_ok (k := FlowError.caught).1 hf'
  refine ⟨rfl, hsolve, hexit, hhandler, by decide, by decide, ?_, ⟨f', hcaught, hfact'⟩,
    hother _ ⟨rfl, rfl, fun n b hn hb => ?_⟩⟩
  · exact hfact.trans (congrArg some (Except.ok.inj hf).symm)
  · have hmem := Solution.reached_iff.1 ((hreached n).2 hn)
    simp only [detourSolution, List.mem_cons, List.not_mem_nil, or_false] at hmem
    rcases hmem with rfl | rfl | rfl | rfl
    · cases hb
    · cases hb
      rfl
    · cases hb
      rfl
    · cases hb

end Scope

end NullFlow
