import Mathlib.Data.List.Sort
import NullFlow.Proofs.DanglingReferences
import NullFlow.Proofs.MethodFlow
import NullFlow.Proofs.StepEffect

namespace NullFlow

namespace MethodBody

variable {body : MethodBody}

/-- Control runs through the instructions, from the first to the last, and returns there. -/
structure Straight (body : MethodBody) : Prop where
  handlers : body.handlers = []
  unbranched : ∀ x ∈ body.instructions, x.operand.branchTargets = []
  ends : ∃ front last, body.instructions = front ++ [last] ∧
    (∀ x ∈ front, x.opcode.splitsBlock = false) ∧ last.opcode.flow = .ret

namespace Straight

theorem length_pos (h : body.Straight) : 0 < body.instructions.length := by
  obtain ⟨front, last, hsplit, _⟩ := h.ends
  simp [hsplit]

theorem exists_last (h : body.Straight) :
    ∃ last, body.instructions[body.instructions.length - 1]? = some last ∧
      last.opcode.flow = .ret ∧ last.operand.branchTargets = [] := by
  obtain ⟨front, last, hsplit, _, hlast⟩ := h.ends
  refine ⟨last, by simp [hsplit], hlast, h.unbranched last ?_⟩
  simp [hsplit]

theorem not_splits (h : body.Straight) {k : Nat} (hk : k + 1 < body.instructions.length) :
    ¬ body.Splits k := by
  rintro ⟨x, hx, hsplits⟩
  obtain ⟨front, last, hsplit, hfront, _⟩ := h.ends
  rw [hsplit, List.length_append, List.length_singleton] at hk
  rw [hsplit, List.getElem?_append_left (by omega)] at hx
  have hplain := hfront x (List.mem_of_getElem? hx)
  rw [hplain] at hsplits
  cases hsplits

theorem leaders (h : body.Straight) : body.leaders = [0] := by
  have hsorted : body.leaders.Pairwise (· < ·) := List.pairwise_lt_range.filter _
  refine hsorted.eq_of_mem_iff (List.pairwise_singleton _ 0) fun k => ?_
  rw [mem_leaders, List.mem_singleton]
  constructor
  · rintro ⟨hlt, hstarts⟩
    cases k with
    | zero => rfl
    | succ k =>
        rcases startsBlock_succ_iff.1 hstarts with hsplits | ⟨x, hx, t, ht, _⟩ | ⟨handler, hh, _⟩
        · exact absurd hsplits (h.not_splits hlt)
        · simp [h.unbranched x hx] at ht
        · simp [h.handlers] at hh
  · rintro rfl
    exact ⟨h.length_pos, rfl⟩

end Straight

end MethodBody

namespace Graph

variable {body : MethodBody}

def line (b : Block) : Graph where
  nodes := [.entry, .exit, .block b]
  edges := [⟨entry, firstBlock, .entry⟩, ⟨firstBlock, exit, .ret⟩]

theorem ofBody_straight (h : body.Straight) :
    ofBody body = .ok (line ⟨0, body.instructions.length - 1⟩) := by
  obtain ⟨g, hg⟩ : ∃ g, ofBody body = .ok g := by
    refine ofBody_isOk_iff.2 (MethodBody.forall_mem_references.2 ⟨?_, ?_⟩)
    · intro x hx
      simp [h.unbranched x hx]
    · simp [h.handlers]
  obtain ⟨last, hlast, hret, htargets⟩ := h.exists_last
  have hpos := h.length_pos
  have hblocks : body.blocks = [⟨0, body.instructions.length - 1⟩] := by
    rw [MethodBody.blocks, h.leaders]
    rfl
  have hentries : body.handlerEntries = [] := by
    rw [MethodBody.handlerEntries, h.handlers]
    rfl
  have hnode : nodeOf [⟨0, body.instructions.length - 1⟩] 0 = firstBlock := by
    simp [nodeOf]
  have hflow : blockEdges body [⟨0, body.instructions.length - 1⟩] firstBlock
      ⟨0, body.instructions.length - 1⟩ = [⟨firstBlock, exit, .ret⟩] := by
    simp [blockEdges, onwardEdges, hlast, hret, htargets, Opcode.endsFlow, Nat.sub_add_cancel hpos]
  have hne : body.instructions.isEmpty = false := by simpa using List.ne_nil_of_length_pos hpos
  rw [hg, eq_assemble hg]
  simp only [assemble, hblocks, hentries, hne, hnode, List.zipIdx_cons, List.zipIdx_nil,
    List.flatMap_cons, List.flatMap_nil, Nat.add_zero, hflow]
  rfl

end Graph

namespace Dataflow

variable {F E : Type} [DecidableEq F] {p : Dataflow F E} {s : State F} {n t : Nat}
  {fact out old merged : F}

theorem Ends.unique {result result' : Except (Failure E) (State F)} (h : p.Ends s result)
    (h' : p.Ends s result') : result = result' := by
  induction h with
  | done hq =>
      cases h' with
      | done => rfl
      | failed hq' | turn hq' => cases hq.symm.trans hq'
  | failed hq hv =>
      cases h' with
      | done hq' => cases hq.symm.trans hq'
      | failed hq' hv' =>
          cases hq.symm.trans hq'
          cases hv.symm.trans hv'
          rfl
      | turn hq' hv' =>
          cases hq.symm.trans hq'
          cases hv.symm.trans hv'
  | turn hq hv _ ih =>
      cases h' with
      | done hq' => cases hq.symm.trans hq'
      | failed hq' hv' =>
          cases hq.symm.trans hq'
          cases hv.symm.trans hv'
      | turn hq' hv' hs' =>
          cases hq.symm.trans hq'
          cases hv.symm.trans hv'
          exact ih hs'

/-- The visit of a node that waits alone and leads to one that was never met. -/
theorem visit_onward (hq : s.queue = [n]) (hf : s.facts[n]? = some fact)
    (htransfer : p.transfer n fact = .ok out) (hs : p.successors n = [t])
    (hnew : t ∉ n :: s.trail) (hold : s.facts[t]? = some old)
    (hm : p.merge old (p.enter t out) = .ok merged) :
    p.visit s n = .ok ⟨s.facts.set t merged, [t], n :: s.trail⟩ := by
  simp only [List.mem_cons, not_or] at hnew
  simp [visit, hf, htransfer, hs, send, hold, hm, hq, State.reached, hnew, bind, Except.bind, pure,
    Except.pure]

theorem visit_failed {cause : E} (hf : s.facts[n]? = some fact)
    (htransfer : p.transfer n fact = .error cause) : p.visit s n = .error ⟨s.trail, cause⟩ := by
  simp only [visit, hf, htransfer]

theorem visit_last (hq : s.queue = [n]) (hf : s.facts[n]? = some fact)
    (htransfer : p.transfer n fact = .ok out) (hs : p.successors n = []) :
    p.visit s n = .ok ⟨s.facts, [], n :: s.trail⟩ := by
  simp [visit, hf, htransfer, hs, hq, pure, Except.pure]

end Dataflow

theorem Slots.zipWith_merge_unused (l : List Nullity) :
    List.zipWith Nullity.merge (List.replicate l.length .unused) l = l := by
  induction l with
  | nil => rfl
  | cons a l ih =>
      rw [List.length_cons, List.replicate_succ, List.zipWith_cons_cons, ih]
      rfl

namespace Scope

variable {s : Scope} {b : Block} {f out : Frame} {findings : List Finding}

theorem unreached_merge (h : f.shape = s.shape) : s.unreached.merge f = .ok f := by
  refine Frame.merge_eq_ok_iff.2 ⟨s.unreached_tidy.shape.trans h.symm, ?_⟩
  simp only [Frame.shape, shape, Shape.mk.injEq] at h
  obtain ⟨hstack, hlocals, hargs⟩ := h
  simp only [Frame.join, unreached, Frame.blank, Frame.withSlots, ← hstack, ← hlocals, ← hargs,
    Slots.zipWith_merge_unused, Nat.zero_max]

theorem execute_cons_error {index : Nat} {i : Instruction} {rest : List Instruction}
    {e : FlowError} : s.execute index (i :: rest) f = .error e ↔
      (∃ cause, s.step i f = .error cause ∧ e = .step index i cause) ∨
      ∃ mid issues, s.step i f = .ok (mid, issues) ∧ s.execute (index + 1) rest mid = .error e := by
  rw [execute]
  cases s.step i f with
  | error cause => simp [eq_comm]
  | ok r =>
      obtain ⟨mid, issues⟩ := r
      cases hrest : s.execute (index + 1) rest mid with
      | error cause => simp [hrest, bind, Except.bind]
      | ok result => simp [hrest, bind, Except.bind, pure, Except.pure]

/-- An execution fails at the first instruction that fails in the frame which those before it leave. -/
theorem execute_eq_error_iff {index : Nat} {instructions : List Instruction} {e : FlowError} :
    s.execute index instructions f = .error e ↔ ∃ k i mid found cause,
      instructions[k]? = some i ∧ s.execute index (instructions.take k) f = .ok (mid, found) ∧
      s.step i mid = .error cause ∧ e = .step (index + k) i cause := by
  induction instructions generalizing index f with
  | nil => simp [execute]
  | cons i rest ih =>
      rw [execute_cons_error]
      constructor
      · rintro (⟨cause, hstep, rfl⟩ | ⟨mid, issues, hstep, hrest⟩)
        · exact ⟨0, i, f, [], cause, rfl, rfl, hstep, rfl⟩
        · obtain ⟨k, j, mid', found, cause, hj, htake, hfails, he⟩ := ih.1 hrest
          have htake' := execute_cons.2 ⟨mid, issues, found, hstep, htake, rfl⟩
          exact ⟨k + 1, j, mid', _, cause, hj, htake', hfails, Nat.add_right_comm index 1 k ▸ he⟩
      · rintro ⟨k, j, mid, found, cause, hj, htake, hfails, rfl⟩
        cases k with
        | zero =>
            obtain rfl : i = j := Option.some.inj hj
            cases htake
            exact .inl ⟨cause, hfails, rfl⟩
        | succ k =>
            obtain ⟨mid', issues, found', hstep, htake, _⟩ := execute_cons.1 htake
            refine .inr ⟨mid', issues, hstep, ih.2 ⟨k, j, mid, found', cause, hj, htake, hfails, ?_⟩⟩
            rw [Nat.add_right_comm]
            rfl

def atBlock (s : Scope) : Dataflow.State Frame :=
  ⟨[s.entry, s.unreached, s.entry], [Graph.firstBlock], [Graph.entry]⟩

def atExit (s : Scope) (out : Frame) : Dataflow.State Frame :=
  ⟨[s.entry, out, s.entry], [Graph.exit], [Graph.firstBlock, Graph.entry]⟩

theorem seeds_line (s : Scope) (b : Block) :
    (s.dataflow (.line b)).seeds = .ok [s.entry, s.unreached, s.unreached] := rfl

theorem visit_line_entry (s : Scope) (b : Block) :
    (s.dataflow (.line b)).visit (Dataflow.start [s.entry, s.unreached, s.unreached]) Graph.entry =
      .ok s.atBlock := by
  have htransfer : (s.dataflow (.line b)).transfer Graph.entry s.entry = .ok s.entry := rfl
  have hnew : Graph.firstBlock ∉ [Graph.entry] := by decide
  have hmerge : (s.dataflow (.line b)).merge s.unreached s.entry = .ok s.entry :=
    dataflow_merge.2 (unreached_merge s.entry_live.shape)
  exact Dataflow.visit_onward rfl rfl htransfer rfl hnew rfl hmerge

theorem visit_line_block
    (hrun : s.execute b.first (b.instructions s.body) s.entry = .ok (out, findings)) :
    (s.dataflow (.line b)).visit s.atBlock Graph.firstBlock = .ok (s.atExit out) := by
  have htransfer : (s.dataflow (.line b)).transfer Graph.firstBlock s.entry = .ok out :=
    dataflow_transfer.2 ⟨findings, hrun⟩
  have hnode : s.executeNode (.block b) s.entry = .ok (out, findings) := hrun
  have hlive : out.Live s.shape := executeNode_live s.entry_live hnode
  have hnew : Graph.exit ∉ [Graph.firstBlock, Graph.entry] := by decide
  have hmerge : (s.dataflow (.line b)).merge s.unreached out = .ok out :=
    dataflow_merge.2 (unreached_merge hlive.shape)
  exact Dataflow.visit_onward rfl rfl htransfer rfl hnew rfl hmerge

theorem line_ends_ok
    (hrun : s.execute b.first (b.instructions s.body) s.entry = .ok (out, findings)) :
    (s.dataflow (.line b)).Ends (Dataflow.start [s.entry, s.unreached, s.unreached])
      (.ok ⟨[s.entry, out, s.entry], [], [Graph.exit, Graph.firstBlock, Graph.entry]⟩) := by
  have hexit : (s.dataflow (.line b)).visit (s.atExit out) Graph.exit =
      .ok ⟨[s.entry, out, s.entry], [], [Graph.exit, Graph.firstBlock, Graph.entry]⟩ :=
    Dataflow.visit_last rfl rfl rfl rfl
  exact .turn rfl (visit_line_entry s b) (.turn rfl (visit_line_block hrun)
    (.turn rfl hexit (.done rfl)))

theorem line_ends_error {cause : FlowError}
    (hrun : s.execute b.first (b.instructions s.body) s.entry = .error cause) :
    (s.dataflow (.line b)).Ends (Dataflow.start [s.entry, s.unreached, s.unreached])
      (.error ⟨[Graph.entry], cause⟩) := by
  have htransfer : (s.dataflow (.line b)).transfer Graph.firstBlock s.entry = .error cause := by
    change (s.execute b.first (b.instructions s.body) s.entry).map (·.1) = .error cause
    rw [hrun]
    rfl
  have hblock : (s.dataflow (.line b)).visit s.atBlock Graph.firstBlock =
      .error ⟨[Graph.entry], cause⟩ := Dataflow.visit_failed rfl htransfer
  exact .turn rfl (visit_line_entry s b) (.failed rfl hblock)

theorem report_line (hrun : s.execute b.first (b.instructions s.body) s.entry = .ok (out, findings)) :
    s.report (.line b)
      ⟨[s.entry, out, s.entry], [], [Graph.exit, Graph.firstBlock, Graph.entry]⟩ = .ok findings := by
  have hnodes : (List.range (Graph.line b).nodes.length).filter
      (Dataflow.State.reached ⟨[s.entry, out, s.entry], [],
        [Graph.exit, Graph.firstBlock, Graph.entry]⟩) = [0, 1, 2] := rfl
  have hblock : s.executeNode ((Graph.line b).nodes.getD 2 .exit)
      ([s.entry, out, s.entry].getD 2 s.unreached) = .ok (out, findings) := hrun
  simp only [report, hnodes, List.mapM_cons, List.mapM_nil, hblock]
  exact congrArg Except.ok (List.append_nil findings)

section Line

variable (hg : Graph.ofBody s.body = .ok (.line b))

include hg

theorem solve_line_ok
    (hrun : s.execute b.first (b.instructions s.body) s.entry = .ok (out, findings)) :
    s.solve (.line b) = .ok ⟨[s.entry, out, s.entry],
      [Graph.exit, Graph.firstBlock, Graph.entry], findings⟩ := by
  have hends := Dataflow.solve_ends (dataflow_lawful hg) (seeds_line s b) s.slots_le_height
  -- a loop comes to one end only, so it is the one that the three visits lead to
  have hloop := hends.unique (line_ends_ok hrun)
  exact solve_eq_ok.2 ⟨_, hloop, rfl, rfl, report_line hrun⟩

theorem solve_line_error {cause : FlowError}
    (hrun : s.execute b.first (b.instructions s.body) s.entry = .error cause) :
    s.solve (.line b) = .error ⟨[Graph.entry], cause⟩ := by
  have hends := Dataflow.solve_ends (dataflow_lawful hg) (seeds_line s b) s.slots_le_height
  rw [solve, hends.unique (line_ends_error hrun)]
  rfl

end Line

/-- The graph is a line, and solving it comes to executing the instructions in order from the state in
which the method starts: with the same end, the same reports and the same first error. -/
structure Interpreted (s : Scope) (g : Graph) : Prop where
  nodes : g.nodes = [.entry, .exit, .block ⟨0, s.body.instructions.length - 1⟩]
  edges : g.edges = [⟨Graph.entry, 2, .entry⟩, ⟨2, Graph.exit, .ret⟩]
  joinPoints : g.joinPoints = 0
  solved_iff : (∃ sol, s.solve g = .ok sol) ↔
    ∃ out findings, s.execute 0 s.body.instructions s.entry = .ok (out, findings)
  solved : ∀ sol, s.solve g = .ok sol → sol.visits = 3 ∧ ∃ out,
    s.execute 0 s.body.instructions s.entry = .ok (out, sol.findings) ∧
    sol.facts[Graph.exit]? = some out
  failed : ∀ failure, s.solve g = .error failure →
    s.execute 0 s.body.instructions s.entry = .error failure.cause ∧ ∃ k i mid found cause,
      s.body.instructions[k]? = some i ∧
      s.execute 0 (s.body.instructions.take k) s.entry = .ok (mid, found) ∧
      s.step i mid = .error cause ∧ failure.cause = .step k i cause

theorem straight_interpreted (h : s.body.Straight) :
    ∃ g, Graph.ofBody s.body = .ok g ∧ s.Interpreted g := by
  have hg := Graph.ofBody_straight h
  have hwhole : (Block.mk 0 (s.body.instructions.length - 1)).instructions s.body =
      s.body.instructions := by
    simp [Block.instructions, Nat.sub_add_cancel h.length_pos]
  cases hrun : s.execute 0 s.body.instructions s.entry with
  | error cause =>
      have hsolve := solve_line_error hg (by rw [hwhole]; exact hrun)
      refine ⟨_, hg, rfl, rfl, rfl, ?_, ?_, ?_⟩
      · simp [hsolve, hrun]
      · simp [hsolve]
      · intro failure hfailure
        cases hsolve.symm.trans hfailure
        exact ⟨hrun, by simpa using execute_eq_error_iff.1 hrun⟩
  | ok result =>
      obtain ⟨out, findings⟩ := result
      have hsolve := solve_line_ok hg (by rw [hwhole]; exact hrun)
      refine ⟨_, hg, rfl, rfl, rfl, ?_, ?_, ?_⟩
      · simp [hsolve, hrun]
      · intro sol hsol
        cases hsolve.symm.trans hsol
        exact ⟨rfl, out, hrun, rfl⟩
      · simp [hsolve]

def glance : Scope where
  owner := "Sample.Widget"
  method := ⟨"Glance", ⟨"System.String", false⟩, true, [], [], none⟩
  body := {
    maxStack := 1
    locals := []
    instructions := [⟨0, .ldnull, .none⟩,
      ⟨1, .ldfld, .field ⟨"Sample.Widget", "label", ⟨"System.String", false⟩, false⟩⟩,
      ⟨6, .ret, .none⟩]
    handlers := [] }
  contracts := .empty

theorem glance_interpreted : glance.body.Straight ∧ ∃ g sol, Graph.ofBody glance.body = .ok g ∧
    glance.solve g = .ok sol ∧ sol.visits = 3 ∧ sol.findings = [⟨1, .nullReceiver (.field "label")⟩] ∧
    sol.facts[Graph.exit]? = some ⟨[.unused], 0, [], [.nonNull]⟩ := by
  have hstraight : glance.body.Straight :=
    ⟨rfl, by decide, [_, _], ⟨6, .ret, .none⟩, rfl, by decide, rfl⟩
  obtain ⟨g, hg, hinterpreted⟩ := straight_interpreted hstraight
  obtain ⟨sol, hsol⟩ := hinterpreted.solved_iff.2 ⟨_, _, rfl⟩
  obtain ⟨hvisits, out, hrun, hexit⟩ := hinterpreted.solved sol hsol
  obtain ⟨rfl, hfindings⟩ := Prod.mk.inj (Except.ok.inj hrun)
  exact ⟨hstraight, g, sol, hg, hsol, hvisits, hfindings.symm, hexit⟩

end Scope

end NullFlow
