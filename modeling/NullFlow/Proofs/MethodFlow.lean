import NullFlow.Proofs.GraphEdges
import NullFlow.Proofs.StepRelation
import NullFlow.Proofs.WorklistBound

namespace NullFlow

def Node.thrown? : Node → Option (List Nullity)
  | .exception _ true => some [.nonNull]
  | .exception _ false => some []
  | _ => none

namespace Frame

variable {sh : Shape} {f g : Frame} {v : Nullity}

theorem Live.push (h : f.Live sh) (hv : v ≠ .unused) (hp : f.push v = .ok g) : g.Live sh := by
  obtain ⟨_, hp', hrel⟩ := ((live_iff_rel.1 h).push ⟨rfl, hv⟩).ok_left hp
  obtain rfl := Except.ok.inj (hp.symm.trans hp')
  exact live_iff_rel.2 hrel

theorem push_take (hp : f.push v = .ok g) :
    g.stack.take g.depth = f.stack.take f.depth ++ [v] := by
  unfold Frame.push at hp
  split at hp
  · rename_i hlt
    cases hp
    simp [List.take_add_one, hlt, List.take_set_of_le]
  · cases hp

theorem Live.clearStack (h : f.Live sh) : f.clearStack.Live sh :=
  live_iff_rel.2 (live_iff_rel.1 h).clearStack

theorem join_clearStack_stack (h : f.stack.length = g.stack.length) :
    (f.join g.clearStack).stack = f.stack := by
  refine (Slots.zipWith_merge_eq_left_iff (by simp [Frame.clearStack, h])).2 ?_
  refine Slots.below_of_getD (by simp [Frame.clearStack, h]) fun i => ?_
  have hu : g.clearStack.stack.getD i .unused = .unused := by
    grind [Frame.clearStack]
  rw [hu]
  exact Nullity.unused_le _

theorem join_clearStack_depth : (f.join g.clearStack).depth = f.depth := Nat.max_zero _

end Frame

namespace Scope

variable {s : Scope} {g : Graph}

def shape (s : Scope) : Shape := ⟨s.body.maxStack, s.body.locals.length, s.method.argCount⟩

/-- What holds of the fact of every node, visited or not. -/
def Proper (s : Scope) (g : Graph) (n : Nat) (f : Frame) : Prop :=
  f.Tidy s.shape ∧
    ∀ values, (g.nodes.getD n .exit).thrown? = some values → f.stack.take f.depth = values

theorem withSlots_tidy {locals args : List Nullity} (hl : locals.length = s.body.locals.length)
    (ha : args.length = s.method.argCount) :
    (Frame.withSlots s.body.maxStack locals args).Tidy s.shape := by
  refine ⟨by simp [Frame.withSlots, Frame.shape, shape, hl, ha], Nat.zero_le _, fun i hi => ?_⟩
  simp only [shape] at hi
  simp [Frame.withSlots, hi]

theorem unreached_tidy (s : Scope) : s.unreached.Tidy s.shape :=
  withSlots_tidy (by simp) (by simp)

theorem entry_live (s : Scope) : s.entry.Live s.shape := by
  refine ⟨withSlots_tidy (by simp) ?_, ?_, ?_⟩
  · cases hthis : s.method.hasThis <;>
      simp [entryArgs, MethodDef.argCount, hthis]
  · simp [entry, Frame.withSlots, List.mem_replicate]
  · simp only [entry, Frame.withSlots, entryArgs, List.mem_append, List.mem_map, not_or]
    constructor
    · split <;> simp
    · rintro ⟨index, _, h⟩
      split at h <;> cases h

theorem entry_receiver (h : s.method.hasThis) : s.entry.args[0]? = some .nonNull := by
  simp [entry, Frame.withSlots, entryArgs, h]

theorem entry_parameter {index : Nat} (h : index < s.method.parameters.length) :
    s.entry.args[index + s.method.hasThis.toNat]? =
      some (if s.contracts.parameter s.fullName index then .nonNull else .unknown) := by
  cases hthis : s.method.hasThis <;> simp [entry, Frame.withSlots, entryArgs, hthis, h]

theorem seed_proper {node : Node} {f : Frame} (h : s.seed node = .ok f) : f.Tidy s.shape ∧
    ∀ values, node.thrown? = some values → f.stack.take f.depth = values := by
  cases node with
  | entry =>
      cases h
      exact ⟨s.entry_live.toTidy, by simp [Node.thrown?]⟩
  | exit | block =>
      cases h
      exact ⟨s.unreached_tidy, by simp [Node.thrown?]⟩
  | exception handler receives =>
      cases receives with
      | false =>
          cases h
          refine ⟨s.entry_live.toTidy, fun values hv => ?_⟩
          exact Option.some.inj hv
      | true =>
          have hp : s.entry.push .nonNull = .ok f := mapError_eq_ok.1 h
          refine ⟨(s.entry_live.push (by decide) hp).toTidy, fun values hv => ?_⟩
          obtain rfl := Option.some.inj hv
          rw [Frame.push_take hp]
          rfl

theorem arrive_live {node : Node} {f : Frame} (h : f.Live s.shape) :
    (arrive node f).Live s.shape := by
  cases node with
  | exception => exact h.clearStack
  | entry | exit | block => exact h

theorem dataflow_merge {f f' m : Frame} :
    (s.dataflow g).merge f f' = .ok m ↔ f.merge f' = .ok m :=
  mapError_eq_ok

theorem dataflow_transfer {n : Nat} {f out : Frame} :
    (s.dataflow g).transfer n f = .ok out ↔
      ∃ findings, s.executeNode (g.nodes.getD n .exit) f = .ok (out, findings) := by
  simp only [dataflow, map_eq_ok, Prod.exists]
  constructor
  · rintro ⟨_, findings, he, rfl⟩
    exact ⟨findings, he⟩
  · rintro ⟨findings, he⟩
    exact ⟨out, findings, he, rfl⟩

theorem merge_proper {n : Nat} {f out m : Frame} (hf : s.Proper g n f) (hout : out.Live s.shape)
    (hm : f.merge (arrive (g.nodes.getD n .exit) out) = .ok m) :
    s.Proper g n m ∧ m.Live s.shape := by
  obtain ⟨_, rfl⟩ := Frame.merge_eq_ok_iff.1 hm
  have harrive : (arrive (g.nodes.getD n .exit) out).Live s.shape := arrive_live hout
  have hlive := hf.1.join_live harrive
  refine ⟨⟨hlive.toTidy, fun values hv => ?_⟩, hlive⟩
  have hold := hf.2 values hv
  cases hnode : g.nodes.getD n .exit with
  | exception handler receives =>
      have hlen : f.stack.length = out.stack.length :=
        congrArg Shape.stack (hf.1.shape.trans hout.shape.symm)
      simp only [arrive]
      rw [Frame.join_clearStack_stack hlen, Frame.join_clearStack_depth]
      exact hold
  | entry | exit | block =>
      rw [hnode] at hv
      cases hv

theorem dataflow_joining (s : Scope) (g : Graph) : (s.dataflow g).Joining where
  self _ := dataflow_merge.2 (Frame.le_iff_merge.1 le_rfl)
  absorbs hm := dataflow_merge.2 (Frame.le_of_merge_right (dataflow_merge.1 hm))
  keeps hm hx := dataflow_merge.2 ((Frame.le_iff_merge.2 (dataflow_merge.1 hx)).trans
    (Frame.le_of_merge_left (dataflow_merge.1 hm)))

theorem getD_node {n : Nat} {node : Node} (hn : g.nodes[n]? = some node) :
    g.nodes.getD n .exit = node := by
  rw [List.getD_eq_getElem?_getD, hn, Option.getD_some]

theorem dataflow_seed_entry (hg : Graph.ofBody s.body = .ok g) {f : Frame}
    (h : (s.dataflow g).seed Graph.entry = .ok f) : f = s.entry := by
  simp only [dataflow, getD_node (Graph.entry_node hg)] at h
  exact (Except.ok.inj h).symm

theorem dataflow_lawful (hg : Graph.ofBody s.body = .ok g) :
    (s.dataflow g).Lawful (s.Proper g) (Frame.Live s.shape) Frame.rank (2 * s.slots) where
  nonempty := (List.getElem?_eq_some_iff.1 (Graph.entry_node hg)).1
  closed _ _ ht := (Graph.successor_inner hg ht).2
  seed h := seed_proper h
  first h := dataflow_seed_entry hg h ▸ s.entry_live
  transfer hf ht := by
    obtain ⟨findings, he⟩ := dataflow_transfer.1 ht
    exact executeNode_live hf he
  merge hf hout hm := merge_proper hf hout (dataflow_merge.1 hm)
  rises hf hout hm hne := by
    obtain ⟨_, rfl⟩ := Frame.merge_eq_ok_iff.1 (dataflow_merge.1 hm)
    exact hf.1.rank_lt_join (arrive_live hout).toTidy hne
  bounded {_ f} hf := by
    have hle := f.rank_le
    rwa [hf.1.shape] at hle

theorem slots_le_height (s : Scope) : 2 * s.slots ≤ s.height := Nat.le_add_right _ _

end Scope

def Solution.state (sol : Solution) : Dataflow.State Frame := ⟨sol.facts, [], sol.trail⟩

theorem Solution.reached_iff {sol : Solution} {n : Nat} : sol.reached n ↔ n ∈ sol.trail := by
  simp [Solution.reached]

namespace Scope

variable {s : Scope} {g : Graph} {sol : Solution}

/-- The loop can end with the solution when its waiting nodes are visited in some order. -/
def Completed (s : Scope) (g : Graph) (sol : Solution) : Prop :=
  ∃ facts, (s.dataflow g).seeds = .ok facts ∧
    (s.dataflow g).Reachable (Dataflow.start facts) sol.state

namespace Completed

theorem guarded (hg : Graph.ofBody s.body = .ok g) (h : s.Completed g sol) :
    (s.dataflow g).Guarded (s.Proper g) (Frame.Live s.shape) Frame.rank sol.state := by
  obtain ⟨facts, hseeds, hr⟩ := h
  have hl := dataflow_lawful hg
  exact Dataflow.reachable_guarded hl hr (Dataflow.start_guarded hl hseeds)

theorem settled (hg : Graph.ofBody s.body = .ok g) (h : s.Completed g sol) {n : Nat}
    (hn : n ∈ sol.trail) : (s.dataflow g).Settled sol.state n := by
  obtain ⟨facts, hseeds, hr⟩ := h
  have hl := dataflow_lawful hg
  have hstart : (s.dataflow g).Converging (Dataflow.start facts) :=
    ⟨Dataflow.seeds_length hseeds, fun m hm => absurd hm List.not_mem_nil⟩
  have hend := Dataflow.reachable_converging (s.dataflow_joining g) hl
    (Dataflow.start_guarded hl hseeds) hr hstart
  exact hend.2 n hn List.not_mem_nil

end Completed

theorem solve_eq_ok : s.solve g = .ok sol ↔ ∃ state, (s.dataflow g).solve s.height = .ok state ∧
    state.facts = sol.facts ∧ state.trail = sol.trail ∧ s.report g state = .ok sol.findings := by
  rw [solve, bind_eq_ok]
  refine exists_congr fun state => and_congr_right fun _ => ?_
  cases hr : s.report g state with
  | error cause => simp [throw, throwThe, MonadExceptOf.throw]
  | ok findings =>
      simp only [pure_eq_ok, Except.ok.injEq]
      constructor
      · rintro rfl
        exact ⟨rfl, rfl, rfl⟩
      · rintro ⟨hf, ht, hfindings⟩
        rw [hf, ht, hfindings]

theorem report_congr {state state' : Dataflow.State Frame} (hf : state.facts = state'.facts)
    (hr : ∀ n, state.reached n = state'.reached n) : s.report g state = s.report g state' := by
  simp only [report, hf, funext hr]

theorem solve_report (h : s.solve g = .ok sol) : s.report g sol.state = .ok sol.findings := by
  obtain ⟨state, _, hf, ht, hreport⟩ := solve_eq_ok.1 h
  rw [← hreport]
  apply report_congr
  · exact hf.symm
  · intro n
    rw [Dataflow.State.reached, Dataflow.State.reached, ht]
    rfl

theorem loop_completed (hg : Graph.ofBody s.body = .ok g) {state : Dataflow.State Frame}
    (h : (s.dataflow g).solve s.height = .ok state) (findings : List Finding) :
    s.Completed g ⟨state.facts, state.trail, findings⟩ := by
  cases hseeds : (s.dataflow g).seeds with
  | error cause => simp [Dataflow.solve, hseeds] at h
  | ok facts =>
      have hends := Dataflow.solve_ends (dataflow_lawful hg) hseeds s.slots_le_height
      obtain ⟨hr, hq⟩ := hends.reachable h
      refine ⟨facts, hseeds, ?_⟩
      rw [Solution.state, ← hq]
      exact hr

theorem solve_completed (hg : Graph.ofBody s.body = .ok g) (h : s.solve g = .ok sol) :
    s.Completed g sol := by
  obtain ⟨state, hs, hf, ht, _⟩ := solve_eq_ok.1 h
  have hend := loop_completed hg hs sol.findings
  rw [hf, ht] at hend
  exact hend

theorem solve_guarded (hg : Graph.ofBody s.body = .ok g) (h : s.solve g = .ok sol) :
    (s.dataflow g).Guarded (s.Proper g) (Frame.Live s.shape) Frame.rank sol.state :=
  (solve_completed hg h).guarded hg

end Scope

end NullFlow
