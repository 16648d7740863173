import Mathlib.Data.List.Forall2
import NullFlow.MethodCheck
import NullFlow.Proofs.ControlFlow
import NullFlow.Proofs.Convergence
import NullFlow.Proofs.KeyedSort

namespace NullFlow

theorem Block.instructions_getElem? {b : Block} {body : MethodBody} {k : Nat} {i : Instruction}
    (h : (b.instructions body)[k]? = some i) :
    b.Holds (b.first + k) ∧ body.instructions[b.first + k]? = some i := by
  rw [instructions, List.getElem?_take] at h
  split at h
  · rename_i hk
    rw [List.getElem?_drop] at h
    exact ⟨⟨Nat.le_add_right _ _, by omega⟩, h⟩
  · cases h

theorem Block.Holds.getElem? {b : Block} {body : MethodBody} {index : Nat} {i : Instruction}
    (hin : b.Holds index) (hi : body.instructions[index]? = some i) :
    (b.instructions body)[index - b.first]? = some i := by
  obtain ⟨hfirst, hlast⟩ := hin
  rw [instructions, List.getElem?_take_of_lt (by omega), List.getElem?_drop,
    Nat.add_sub_cancel' hfirst, hi]

def Node.indices : Node → List Nat
  | .block b => List.range' b.first (b.last + 1 - b.first)
  | _ => []

theorem Node.holds_of_mem_indices {node : Node} {index : Nat} (h : index ∈ node.indices) :
    ∃ b, node = .block b ∧ b.Holds index := by
  cases node with
  | entry | exit | exception => cases h
  | block b =>
      have hbounds := List.mem_range'_1.1 h
      exact ⟨b, rfl, hbounds.1, by omega⟩

theorem Graph.flatMap_indices {body : MethodBody} {g : Graph} (hg : ofBody body = .ok g) :
    (List.range g.nodes.length).flatMap (fun n => (g.nodes.getD n .exit).indices) =
      List.range body.instructions.length := by
  have hnodes : (List.range g.nodes.length).map (fun n => g.nodes.getD n .exit) = g.nodes := by
    apply List.ext_getElem
    · simp
    · intro n hn hlt
      simp [hlt]
  have htiles := body.blocks_tile.flatMap_range
  rw [Nat.sub_zero, ← List.range_eq_range'] at htiles
  rw [← List.flatMap_map, hnodes, eq_assemble hg]
  simp only [assemble, List.flatMap_append, List.flatMap_cons, List.flatMap_map, Node.indices,
    List.nil_append, htiles]
  simp

namespace Scope

variable {s : Scope} {g : Graph} {sol : Solution}

/-- What one execution of the instruction reports: where its block is reached, the block is run from
its fact; where it is not, nothing is. -/
inductive Reports (s : Scope) (g : Graph) (sol : Solution) (index : Nat) : List Finding → Prop
  | reached {n : Nat} {b : Block} {i : Instruction} {fact mid next : Frame} {issues : List Issue}
      (hnode : g.nodes[n]? = some (.block b)) (hin : b.Holds index) (hn : sol.reached n)
      (hfact : sol.facts[n]? = some fact) (hmid : s.before b (index - b.first) fact = .ok mid)
      (hi : s.body.instructions[index]? = some i) (hstep : s.step i mid = .ok (next, issues)) :
      Reports s g sol index (issues.map (Finding.mk i.offset))
  | unreached {n : Nat} {b : Block} (hnode : g.nodes[n]? = some (.block b)) (hin : b.Holds index)
      (hn : ¬ sol.reached n) : Reports s g sol index []

theorem Reports.unique (hg : Graph.ofBody s.body = .ok g) {index : Nat}
    {report report' : List Finding} (h : s.Reports g sol index report)
    (h' : s.Reports g sol index report') : report = report' := by
  obtain rfl := Graph.eq_assemble hg
  cases h with
  | reached hnode hin hn hfact hmid hi hstep =>
      cases h' with
      | reached hnode' hin' hn' hfact' hmid' hi' hstep' =>
          obtain rfl := Graph.holds_unique ⟨_, hnode, hin⟩ ⟨_, hnode', hin'⟩
          cases hnode.symm.trans hnode'
          cases hfact.symm.trans hfact'
          cases hmid.symm.trans hmid'
          cases hi.symm.trans hi'
          cases hstep.symm.trans hstep'
          rfl
      | unreached hnode' hin' hn' =>
          obtain rfl := Graph.holds_unique ⟨_, hnode, hin⟩ ⟨_, hnode', hin'⟩
          exact absurd hn hn'
  | unreached hnode hin hn =>
      cases h' with
      | reached hnode' hin' hn' hfact' hmid' hi' hstep' =>
          obtain rfl := Graph.holds_unique ⟨_, hnode, hin⟩ ⟨_, hnode', hin'⟩
          exact absurd hn' hn
      | unreached => rfl

def Collected (s : Scope) (g : Graph) (sol : Solution) (indices : List Nat)
    (findings : List Finding) : Prop :=
  ∃ reports, List.Forall₂ (s.Reports g sol) indices reports ∧ findings = reports.flatten

theorem Collected.append {indices indices' : List Nat} {findings findings' : List Finding}
    (h : s.Collected g sol indices findings) (h' : s.Collected g sol indices' findings') :
    s.Collected g sol (indices ++ indices') (findings ++ findings') := by
  obtain ⟨reports, hr, rfl⟩ := h
  obtain ⟨reports', hr', rfl⟩ := h'
  exact ⟨reports ++ reports', List.rel_append hr hr', List.flatten_append.symm⟩

/-- Executing instructions reports what each of them does in the frame the ones before it leave. -/
theorem execute_reports {index : Nat} {instructions : List Instruction} {f out : Frame}
    {findings : List Finding} (h : s.execute index instructions f = .ok (out, findings)) :
    ∃ reports, List.Forall₂ (fun k report => ∃ i mid next issues,
        instructions[k]? = some i ∧
        (s.execute index (instructions.take k) f).map (·.1) = .ok mid ∧
        s.step i mid = .ok (next, issues) ∧ report = issues.map (Finding.mk i.offset))
      (List.range instructions.length) reports ∧ findings = reports.flatten := by
  induction instructions generalizing index f findings with
  | nil =>
      cases h
      exact ⟨[], .nil, rfl⟩
  | cons i rest ih =>
      obtain ⟨mid, issues, findings', hstep, he, rfl⟩ := execute_cons.1 h
      obtain ⟨reports, hreports, rfl⟩ := ih he
      refine ⟨issues.map (Finding.mk i.offset) :: reports, ?_, rfl⟩
      rw [List.length_cons, List.range_succ_eq_map]
      refine .cons ⟨i, f, mid, issues, rfl, rfl, hstep, rfl⟩ (List.forall₂_map_left_iff.2 ?_)
      refine hreports.imp fun k report hk => ?_
      obtain ⟨j, _, next, issues', hj, hmap, hnext, hreport⟩ := hk
      obtain ⟨⟨mid', found⟩, hmid, rfl⟩ := map_eq_ok.1 hmap
      have htake := execute_cons.2 ⟨mid, issues, found, hstep, hmid, rfl⟩
      refine ⟨j, mid', next, issues', hj, ?_, hnext, hreport⟩
      rw [List.take_succ_cons, htake]
      rfl

theorem executeNode_collected {n : Nat} {node : Node} {fact out : Frame}
    {findings : List Finding} (hg : Graph.ofBody s.body = .ok g) (hnode : g.nodes[n]? = some node)
    (hn : sol.reached n) (hfact : sol.facts[n]? = some fact)
    (he : s.executeNode node fact = .ok (out, findings)) :
    s.Collected g sol node.indices findings := by
  cases node with
  | entry | exit | exception =>
      cases he
      exact ⟨[], .nil, rfl⟩
  | block b =>
      obtain ⟨reports, hreports, rfl⟩ := execute_reports he
      have hlength : (b.instructions s.body).length = b.last + 1 - b.first := by
        rw [Graph.eq_assemble hg] at hnode
        have := s.body.blocks_tile.bounds (Graph.mem_blocks_of_node hnode)
        simp only [Block.instructions, List.length_take, List.length_drop]
        omega
      refine ⟨reports, ?_, rfl⟩
      rw [Node.indices, List.range'_eq_map_range, List.forall₂_map_left_iff, ← hlength]
      refine hreports.imp fun k report hk => ?_
      obtain ⟨i, mid, next, issues, hi, hmid, hstep, rfl⟩ := hk
      obtain ⟨hin, hi⟩ := Block.instructions_getElem? hi
      refine .reached hnode hin hn hfact ?_ hi hstep
      rw [Nat.add_sub_cancel_left]
      exact hmid

theorem unreached_collected {n : Nat} {node : Node} (hnode : g.nodes[n]? = some node)
    (hn : ¬ sol.reached n) : s.Collected g sol node.indices [] := by
  refine ⟨node.indices.map fun _ => [], ?_, by simp⟩
  refine List.forall₂_map_right_iff.2 (List.forall₂_same.2 fun index hindex => ?_)
  obtain ⟨b, rfl, hin⟩ := Node.holds_of_mem_indices hindex
  exact .unreached hnode hin hn

theorem Completed.collected (hg : Graph.ofBody s.body = .ok g) (h : s.Completed g sol)
    {nodes : List Nat} (hnodes : ∀ n ∈ nodes, n < g.nodes.length) :
    ∃ reports, (nodes.filter sol.reached).mapM (fun n => do
        let (_, findings) ← s.executeNode (g.nodes.getD n .exit) (sol.facts.getD n s.unreached)
        return findings) = .ok reports ∧
      s.Collected g sol (nodes.flatMap fun n => (g.nodes.getD n .exit).indices)
        reports.flatten := by
  induction nodes with
  | nil => exact ⟨[], rfl, [], .nil, rfl⟩
  | cons n rest ih =>
      obtain ⟨hlt, hrest⟩ := List.forall_mem_cons.1 hnodes
      obtain ⟨reports, hmap, hcollected⟩ := ih hrest
      have hnode := List.getElem?_eq_getElem hlt
      rw [List.flatMap_cons, getD_node hnode]
      by_cases hn : sol.reached n
      -- The fact has not changed since the node was last visited, and that visit did not fail.
      · obtain ⟨fact, out, hfact, ht⟩ := h.reached_transfer hg (Solution.reached_iff.1 hn)
        obtain ⟨findings, he⟩ := dataflow_transfer.1 ht
        have hget : sol.facts.getD n s.unreached = fact := by
          rw [List.getD_eq_getElem?_getD, hfact, Option.getD_some]
        refine ⟨findings :: reports, ?_, ?_⟩
        · rw [List.filter_cons_of_pos hn, List.mapM_cons, hmap, hget, he]
          rfl
        · rw [getD_node hnode] at he
          exact (executeNode_collected hg hnode hn hfact he).append hcollected
      · refine ⟨reports, ?_, ?_⟩
        · rw [List.filter_cons_of_neg hn]
          exact hmap
        · exact (unreached_collected hnode hn).append hcollected

theorem Completed.report (hg : Graph.ofBody s.body = .ok g) (h : s.Completed g sol) :
    ∃ findings, s.report g sol.state = .ok findings ∧
      s.Collected g sol (List.range s.body.instructions.length) findings := by
  obtain ⟨reports, hmap, hcollected⟩ := h.collected hg fun n hn => List.mem_range.1 hn
  rw [Graph.flatMap_indices hg] at hcollected
  refine ⟨reports.flatten, ?_, hcollected⟩
  rw [Scope.report, show sol.state.reached = sol.reached from rfl, Solution.state, hmap]
  rfl

theorem check_result (h : s.solve g = .ok sol) (trace : Bool) :
    (s.check g trace).result = .ok (Finding.sort sol.findings) := by
  rw [check, h]

/-- The findings of a solution are those of one execution of each instruction, however often the
nodes were visited, and the check of the method puts them in order. -/
structure ReportsOnce (s : Scope) (g : Graph) (sol : Solution) : Prop where
  once : ∃ reports, List.Forall₂ (s.Reports g sol) (List.range s.body.instructions.length) reports ∧
    sol.findings = reports.flatten
  unique : ∀ index report report', s.Reports g sol index report → s.Reports g sol index report' →
    report = report'
  visits : ∀ trail, (∀ n, n ∈ trail ↔ sol.reached n) →
    s.report g ⟨sol.facts, [], trail⟩ = .ok sol.findings
  checked : ∀ trace, ∃ checked, (s.check g trace).result = .ok checked ∧
    (∀ f, f ∈ checked ↔ f ∈ sol.findings) ∧
    checked.Pairwise fun a b => a.offset < b.offset ∨ a.offset = b.offset ∧ a.message < b.message

theorem reportsOnce (hg : Graph.ofBody s.body = .ok g) (h : s.solve g = .ok sol) :
    s.ReportsOnce g sol where
  once := by
    obtain ⟨findings, hreport, hcollected⟩ := (solve_completed hg h).report hg
    rw [solve_report h, Except.ok.injEq] at hreport
    rw [← hreport] at hcollected
    exact hcollected
  unique _ _ _ hr hr' := hr.unique hg hr'
  visits trail ht := by
    rw [← solve_report h]
    apply report_congr
    · rfl
    · intro n
      rw [Bool.eq_iff_iff, Dataflow.State.reached, List.contains_iff_mem]
      exact ht n
  checked trace := by
    refine ⟨_, check_result h trace, fun f => Finding.mem_sort, ?_⟩
    rw [Finding.sort_eq]
    refine (Keyed.sort_sorted Finding.key sol.findings).imp fun hlt => ?_
    exact Prod.Lex.toLex_lt_toLex.1 hlt

theorem mem_findings (hg : Graph.ofBody s.body = .ok g) (h : s.solve g = .ok sol)
    {found : Finding} : found ∈ sol.findings ↔
      ∃ index report, s.Reports g sol index report ∧ found ∈ report := by
  obtain ⟨reports, hreports, hfindings⟩ := (reportsOnce hg h).once
  have hlen : s.body.instructions.length = reports.length := by simpa using hreports.length_eq
  rw [hfindings, List.mem_flatten]
  constructor
  · rintro ⟨report, hmem, hfound⟩
    obtain ⟨k, hk, rfl⟩ := List.getElem_of_mem hmem
    exact ⟨_, _, hreports.get (by simpa [hlen] using hk) hk, hfound⟩
  · rintro ⟨index, report, hreport, hfound⟩
    have hlt : index < s.body.instructions.length := by
      cases hreport with
      | reached _ _ _ _ _ hi _ => exact (List.getElem?_eq_some_iff.1 hi).1
      | unreached => cases hfound
    have hsame := hreports.get (by simpa using hlt) (hlen ▸ hlt)
    simp only [List.get_eq_getElem, List.getElem_range] at hsame
    refine ⟨_, List.getElem_mem (hlen ▸ hlt), ?_⟩
    rwa [hsame.unique hg hreport]

theorem reached_reports (hg : Graph.ofBody s.body = .ok g) (h : s.solve g = .ok sol) {n k : Nat}
    {b : Block} {i : Instruction} (hb : g.nodes[n]? = some (.block b)) (hin : b.Holds k)
    (hn : sol.reached n) (hi : s.body.instructions[k]? = some i) :
    ∃ fact mid next issues, sol.facts[n]? = some fact ∧
      s.before b (k - b.first) fact = .ok mid ∧ s.step i mid = .ok (next, issues) ∧
      s.Reports g sol k (issues.map (Finding.mk i.offset)) := by
  have hn' := Solution.reached_iff.1 hn
  obtain ⟨fact, _, hf, _⟩ := reached_transfer hg h hn'
  obtain ⟨mid, next, issues, hmid, hstep⟩ := reached_step hg h hn' hb hf (hin.getElem? hi)
  exact ⟨fact, mid, next, issues, hf, hmid, hstep, .reached hb hin hn hf hmid hi hstep⟩

theorem Reports.silent (hg : Graph.ofBody s.body = .ok g) (h : s.solve g = .ok sol) {k offset : Nat}
    (hsilent : s.Reports g sol k [])
    (halone : ∀ j x, s.body.instructions[j]? = some x → x.offset = offset → j = k) :
    ∀ found ∈ sol.findings, found.offset ≠ offset := by
  intro found hfound hoffset
  obtain ⟨j, report, hj, hmem⟩ := (mem_findings hg h).1 hfound
  have hsame : j = k := by
    cases hj with
    | reached _ _ _ _ _ hx _ =>
        obtain ⟨_, _, rfl⟩ := List.mem_map.1 hmem
        exact halone j _ hx hoffset
    | unreached => cases hmem
  subst hsame
  rw [hj.unique hg hsilent] at hmem
  cases hmem

/-- When the loop ends without an error, so does the whole analysis. -/
theorem solve_reports (hg : Graph.ofBody s.body = .ok g) {state : Dataflow.State Frame}
    (h : (s.dataflow g).solve s.height = .ok state) :
    ∃ findings, s.solve g = .ok ⟨state.facts, state.trail, findings⟩ ∧
      s.ReportsOnce g ⟨state.facts, state.trail, findings⟩ := by
  obtain ⟨findings, hreport, _⟩ := (loop_completed hg h []).report hg
  have hstate : s.report g state = .ok findings :=
    (report_congr rfl fun n => rfl).trans hreport
  have hsolve : s.solve g = .ok ⟨state.facts, state.trail, findings⟩ :=
    solve_eq_ok.2 ⟨state, h, rfl, rfl, hstate⟩
  exact ⟨findings, hsolve, reportsOnce hg hsolve⟩

def textCall : MethodRef :=
  ⟨"System.Object", "ToString", true, [], ⟨"System.String", false⟩, false⟩

def spin : Scope where
  owner := "Sample.Widget"
  method := ⟨"Spin", ⟨"System.Void", true⟩, false, [], [], none⟩
  body := {
    maxStack := 1
    locals := [⟨"System.Object", false⟩]
    instructions := [
      ⟨0, .ldnull, .none⟩, ⟨1, .callvirt, .method textCall⟩, ⟨2, .stloc0, .none⟩,
      ⟨3, .br, .target 0⟩,
      ⟨4, .ldnull, .none⟩, ⟨5, .callvirt, .method textCall⟩, ⟨6, .pop, .none⟩, ⟨7, .ret, .none⟩]
    handlers := [] }
  contracts := .empty

def spinGraph : Graph := Graph.assemble spin.body

def spinState : Dataflow.State Frame where
  facts := [
    ⟨[.unused], 0, [.null], []⟩, ⟨[.unused], 0, [.unused], []⟩, ⟨[.unused], 0, [.unknown], []⟩,
    ⟨[.unused], 0, [.unused], []⟩]
  queue := []
  trail := [2, 2, 0]

theorem spin_reports : Graph.ofBody spin.body = .ok spinGraph ∧
    (spin.dataflow spinGraph).solve spin.height = .ok spinState ∧
    spin.solve spinGraph =
      .ok ⟨spinState.facts, spinState.trail, [⟨1, .nullReceiver (.method "ToString")⟩]⟩ ∧
    spin.ReportsOnce spinGraph
      ⟨spinState.facts, spinState.trail, [⟨1, .nullReceiver (.method "ToString")⟩]⟩ := by
  have hloop : (spin.dataflow spinGraph).solve spin.height = .ok spinState := rfl
  obtain ⟨findings, hsolve, honce⟩ := solve_reports (g := spinGraph) rfl hloop
  obtain rfl : [⟨1, .nullReceiver (.method "ToString")⟩] = findings := by
    have hfound : spin.solve spinGraph =
        .ok ⟨spinState.facts, spinState.trail, [⟨1, .nullReceiver (.method "ToString")⟩]⟩ := rfl
    exact congrArg Solution.findings (Except.ok.inj (hfound.symm.trans hsolve))
  exact ⟨rfl, hloop, hsolve, honce⟩

end Scope

end NullFlow
