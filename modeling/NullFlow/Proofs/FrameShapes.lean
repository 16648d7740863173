import NullFlow.Proofs.FrameOperations
import NullFlow.Proofs.LoopStages
import NullFlow.Proofs.Reporting
import NullFlow.Proofs.StraightLine

namespace NullFlow

theorem bind_ne_error {ε α β : Type} {x : Except ε α} {k : α → Except ε β} {e : ε} :
    x >>= k ≠ .error e ↔ x ≠ .error e ∧ ∀ a, x = .ok a → k a ≠ .error e := by
  cases x <;> simp [bind, Except.bind]

theorem map_eq_error {ε α β : Type} {x : Except ε α} {k : α → β} {e : ε} :
    x.map k = .error e ↔ x = .error e := by
  cases x <;> simp [Except.map]

theorem onFrame_ne_error {α : Type} {x : Except FrameError α} {e : FrameError} :
    onFrame x ≠ .error (.frame e) ↔ x ≠ .error e := by
  cases x <;> simp [onFrame]

theorem mapM_error {ε α β : Type} {k : α → Except ε β} {l : List α} {e : ε}
    (h : l.mapM k = .error e) : ∃ a ∈ l, k a = .error e := by
  induction l with
  | nil => cases h
  | cons a l ih =>
      rw [List.mapM_cons] at h
      cases ha : k a with
      | error e' =>
          simp only [ha, bind, Except.bind, Except.error.injEq] at h
          exact ⟨a, List.mem_cons_self, h ▸ ha⟩
      | ok b =>
          cases hl : l.mapM k with
          | error e' =>
              simp only [ha, hl, bind, Except.bind, Except.error.injEq] at h
              obtain ⟨c, hc, he⟩ := ih (h ▸ hl)
              exact ⟨c, List.mem_cons_of_mem a hc, he⟩
          | ok bs => simp [ha, hl, bind, Except.bind, pure, Except.pure] at h

namespace Frame

variable {f : Frame} {v : Nullity}

@[simp]
theorem push_ne_incompatible : f.push v ≠ .error .incompatibleMerge := by
  unfold push
  split <;> simp

@[simp]
theorem peek_ne_incompatible {offset : Nat} : f.peek offset ≠ .error .incompatibleMerge := by
  unfold peek
  split <;> simp

@[simp]
theorem pop_ne_incompatible : f.pop ≠ .error .incompatibleMerge := by
  simp [pop, bind_ne_error, pure, Except.pure]

@[simp]
theorem popN_ne_incompatible {count : Nat} : f.popN count ≠ .error .incompatibleMerge := by
  unfold popN
  split <;> simp

@[simp]
theorem getLocal_ne_incompatible {index : Nat} : f.getLocal index ≠ .error .incompatibleMerge := by
  unfold getLocal readSlot
  split <;> simp

@[simp]
theorem getArg_ne_incompatible {index : Nat} : f.getArg index ≠ .error .incompatibleMerge := by
  unfold getArg readSlot
  split <;> simp

@[simp]
theorem setLocal_ne_incompatible {index : Nat} :
    f.setLocal index v ≠ .error .incompatibleMerge := by
  unfold setLocal writeSlot
  split <;> simp [bind, Except.bind, pure, Except.pure]

@[simp]
theorem setArg_ne_incompatible {index : Nat} : f.setArg index v ≠ .error .incompatibleMerge := by
  unfold setArg writeSlot
  split <;> simp [bind, Except.bind, pure, Except.pure]

end Frame

theorem StepError.frameError?_eq_some {cause : StepError} {e : FrameError} :
    cause.frameError? = some e ↔ cause = .frame e := by
  cases cause <;> simp [frameError?]

namespace Instruction

variable {i : Instruction} {e : FrameError}

@[simp]
theorem slot_ne_frame : i.slot ≠ .error (.frame e) := by
  unfold slot
  split <;> try split
  all_goals simp

@[simp]
theorem chosenSlot_ne_frame {choice : SlotChoice} : i.chosenSlot choice ≠ .error (.frame e) := by
  cases choice <;> simp [chosenSlot]

@[simp]
theorem methodRef_ne_frame : i.methodRef ≠ .error (.frame e) := by
  unfold methodRef
  split <;> simp

@[simp]
theorem fieldRef_ne_frame : i.fieldRef ≠ .error (.frame e) := by
  unfold fieldRef
  split <;> simp

end Instruction

namespace Scope

variable {s : Scope} {i : Instruction} {f : Frame}

theorem popArguments_ne_incompatible {callee : String} {count : Nat} :
    s.popArguments callee count f ≠ .error .incompatibleMerge := by
  induction count generalizing f with
  | zero => simp [popArguments]
  | succ index ih => simp [popArguments, bind_ne_error, ih, pure, Except.pure]

theorem call_ne_incompatible {indirect : Bool} :
    s.call i indirect f ≠ .error (.frame .incompatibleMerge) := by
  have hpointer : popPointer indirect f ≠ .error .incompatibleMerge := by
    cases indirect <;> simp [popPointer]
  have hreceiver (callee : MethodRef) (f : Frame) :
      popReceiver callee i.operand f ≠ .error .incompatibleMerge := by
    unfold popReceiver
    split <;> simp [bind_ne_error, pure, Except.pure]
  have hresult (callee : MethodRef) (f : Frame) :
      s.pushResult callee f ≠ .error .incompatibleMerge := by
    unfold pushResult
    split <;> simp
  simp [call, bind_ne_error, onFrame_ne_error, hpointer, popArguments_ne_incompatible, hreceiver,
    hresult, pure, Except.pure]

theorem step_ne_incompatible : s.step i f ≠ .error (.frame .incompatibleMerge) := by
  unfold step
  cases i.opcode.effect with
  | call indirect => exact call_ne_incompatible
  | ret =>
      dsimp only
      split <;> simp [bind_ne_error, onFrame_ne_error, pure, Except.pure]
  | _ => simp [bind_ne_error, onFrame_ne_error, pure, Except.pure]

variable {g : Graph} {stage : Dataflow.Stage Frame}

def Passes (s : Scope) (g : Graph) (stage : Dataflow.Stage Frame) : Prop :=
  ∃ facts, (s.dataflow g).seeds = .ok facts ∧
    (s.dataflow g).Leads (.waiting (Dataflow.start facts)) stage

/-- The frames that there are while the method is solved. -/
inductive Occurs (s : Scope) (g : Graph) : Frame → Prop
  | seed {n : Nat} {node : Node} {f : Frame} (hn : g.nodes[n]? = some node)
      (hf : s.seed node = .ok f) : Occurs s g f
  | fact {stage : Dataflow.Stage Frame} {n : Nat} {f : Frame} (h : s.Passes g stage)
      (hf : stage.state.facts[n]? = some f) : Occurs s g f
  | before {stage : Dataflow.Stage Frame} {n k : Nat} {b : Block} {fact f : Frame}
      (h : s.Passes g stage) (hn : n ∈ stage.state.trail ∨ n ∈ stage.state.queue)
      (hb : g.nodes[n]? = some (.block b)) (hf : stage.state.facts[n]? = some fact)
      (hk : s.before b k fact = .ok f) : Occurs s g f
  | leaving {out : Frame} {targets : List Nat} {state : Dataflow.State Frame}
      (h : s.Passes g (.sending out targets state)) : Occurs s g out
  | arriving {out : Frame} {targets : List Nat} {state : Dataflow.State Frame} {t : Nat}
      (h : s.Passes g (.sending out targets state)) (ht : t ∈ targets) :
      Occurs s g (arrive (g.nodes.getD t .exit) out)
  -- An instruction is several operations, and there are frames between them.
  | operation {f f' : Frame} {a : Option Nullity} (h : Occurs s g f) (op : Frame.Operation)
      (hop : ∀ other, op ≠ .merge other) (hrun : op.run f = .ok (a, f')) : Occurs s g f'

theorem Passes.guarded (hg : Graph.ofBody s.body = .ok g) (h : s.Passes g stage) :
    stage.Guarded (s.dataflow g) (s.Proper g) (Frame.Live s.shape) Frame.rank := by
  obtain ⟨facts, hseeds, hlead⟩ := h
  have hl := dataflow_lawful hg
  exact hlead.guarded hl (Dataflow.start_guarded hl hseeds)

theorem Passes.connected (h : s.Passes g stage) : stage.Keeps g.Connected := by
  obtain ⟨facts, _, hlead⟩ := h
  have hstart : (Dataflow.start facts).Keeps g.Connected := Dataflow.start_keeps .refl
  exact hlead.keeps (s.connected_closed g) hstart

theorem Occurs.kept (hg : Graph.ofBody s.body = .ok g) (h : s.Occurs g f) : f.Kept s.shape := by
  induction h with
  | seed _ hf => exact (seed_proper hf).1.kept
  | fact h hf => exact ((h.guarded hg).state.proper _ _ hf).1.kept
  | before h hn _ hf hk =>
      exact (before_live ((h.guarded hg).state.used _ _ hn hf) hk).toTidy.kept
  | leaving h => exact (h.guarded hg).2.1.toTidy.kept
  | arriving h _ => exact (arrive_live (h.guarded hg).2.1).toTidy.kept
  | operation _ op hop hrun ih =>
      exact Frame.kept_iff_rel.2 ((Frame.Operation.run_rel (Frame.kept_iff_rel.1 ih) hop).self hrun)

theorem Passes.merges (hg : Graph.ofBody s.body = .ok g) {out : Frame} {t : Nat} {rest : List Nat}
    {state : Dataflow.State Frame} (h : s.Passes g (.sending out (t :: rest) state)) :
    ∃ fact merged, state.facts[t]? = some fact ∧
      fact.merge (arrive (g.nodes.getD t .exit) out) = .ok merged := by
  obtain ⟨hstate, hout, hinside⟩ := h.guarded hg
  have hlt : t < state.facts.length := hstate.length ▸ hinside t List.mem_cons_self
  have hf := List.getElem?_eq_getElem hlt
  have harrive : (arrive (g.nodes.getD t .exit) out).Live s.shape := arrive_live hout
  exact ⟨_, _, hf, Frame.merge_of_shape ((hstate.proper t _ hf).1.shape.trans harrive.shape.symm)⟩

/-- How solving the method stops: there is no room for an exception that a handler receives, or an
instruction of a node fails that edges lead to from the entry. -/
inductive Stops (s : Scope) (g : Graph) : Dataflow.Failure FlowError → Prop
  | caught {n handler : Nat} (hn : g.nodes[n]? = some (.exception handler true))
      (hmax : s.body.maxStack = 0) : Stops s g ⟨[], .caught (.stackOverflow 0)⟩
  | instruction {state : Dataflow.State Frame} {n k : Nat} {b : Block} {i : Instruction}
      {fact mid : Frame} {cause : StepError} (h : s.Passes g (.waiting state))
      (hn : g.Connected n) (hb : g.nodes[n]? = some (.block b))
      (hf : state.facts[n]? = some fact) (hi : (b.instructions s.body)[k]? = some i)
      (hmid : s.before b k fact = .ok mid) (hstep : s.step i mid = .error cause) :
      Stops s g ⟨state.trail, .step (b.first + k) i cause⟩

theorem seed_error {node : Node} {e : FlowError} (h : s.seed node = .error e) :
    ∃ handler, node = .exception handler true ∧ s.body.maxStack = 0 ∧
      e = .caught (.stackOverflow 0) := by
  cases node with
  | entry | exit | block => cases h
  | exception handler receives =>
      cases receives with
      | false => cases h
      | true =>
          refine ⟨handler, rfl, ?_⟩
          by_cases hroom : 0 < s.body.maxStack
          · simp [seed, caught, Frame.push, entry, Frame.withSlots, hroom, Except.mapError] at h
          · have hmax := Nat.eq_zero_of_not_pos hroom
            simp only [seed, caught, Frame.push, entry, Frame.withSlots, List.length_replicate,
              hmax, Nat.lt_irrefl, if_true, if_false, Except.mapError, Except.error.injEq] at h
            exact ⟨hmax, h.symm⟩

theorem seeds_stops {cause : FlowError} (h : (s.dataflow g).seeds = .error cause) :
    s.Stops g ⟨[], cause⟩ := by
  obtain ⟨n, hn, he⟩ := mapM_error h
  have hnode := List.getElem?_eq_getElem (List.mem_range.1 hn : n < g.nodes.length)
  simp only [dataflow, getD_node hnode] at he
  obtain ⟨handler, hcatch, hmax, rfl⟩ := seed_error he
  exact .caught (hcatch ▸ hnode) hmax

theorem transfer_stops {state : Dataflow.State Frame} {n : Nat} {rest : List Nat} {fact : Frame}
    {cause : FlowError} (h : s.Passes g (.waiting state)) (hq : state.queue = n :: rest)
    (hf : state.facts[n]? = some fact) (ht : (s.dataflow g).transfer n fact = .error cause) :
    s.Stops g ⟨state.trail, cause⟩ := by
  have hn : g.Connected n := h.connected n (.inr (hq ▸ List.mem_cons_self))
  have hexecute : s.executeNode (g.nodes.getD n .exit) fact = .error cause := map_eq_error.1 ht
  cases hnode : g.nodes[n]? with
  | none =>
      rw [List.getD_eq_getElem?_getD, hnode] at hexecute
      cases hexecute
  | some node =>
      rw [getD_node hnode] at hexecute
      cases node with
      | entry | exit | exception => cases hexecute
      | block b =>
          obtain ⟨k, i, mid, found, cause, hi, hrun, hstep, rfl⟩ := execute_eq_error_iff.1 hexecute
          have hmid : s.before b k fact = .ok mid := map_eq_ok.2 ⟨_, hrun, rfl⟩
          exact .instruction h hn hnode hf hi hmid hstep

/-- The loop alone can fail: executing a node once more for its findings does what its last visit
did. -/
theorem loop_error (hg : Graph.ofBody s.body = .ok g) {failure : Dataflow.Failure FlowError}
    (h : s.solve g = .error failure) : (s.dataflow g).solve s.height = .error failure := by
  cases hloop : (s.dataflow g).solve s.height with
  | error failure' => simpa [solve, hloop, bind, Except.bind] using h
  | ok state =>
      obtain ⟨findings, hreport, _⟩ := (loop_completed hg hloop []).report hg
      have hstate : s.report g state = .ok findings :=
        (report_congr rfl fun n => rfl).trans hreport
      have hsolve : s.solve g = .ok ⟨state.facts, state.trail, findings⟩ :=
        solve_eq_ok.2 ⟨state, hloop, rfl, rfl, hstate⟩
      cases h.symm.trans hsolve

theorem solve_stops (hg : Graph.ofBody s.body = .ok g) {failure : Dataflow.Failure FlowError}
    (h : s.solve g = .error failure) : s.Stops g failure := by
  have hloop := loop_error hg h
  cases hseeds : (s.dataflow g).seeds with
  | error cause =>
      simp only [Dataflow.solve, hseeds, Except.error.injEq] at hloop
      exact hloop ▸ seeds_stops hseeds
  | ok facts =>
      have hends := Dataflow.solve_ends (dataflow_lawful hg) hseeds s.slots_le_height
      obtain ⟨stage, hlead, hfail⟩ := hends.fails hloop
      have hpass : s.Passes g stage := ⟨facts, hseeds, hlead⟩
      cases hfail with
      | transfer hq hf ht => exact transfer_stops hpass hq hf ht
      | merge hf hm =>
          obtain ⟨fact, merged, hf', hm'⟩ := hpass.merges hg
          obtain rfl := Option.some.inj (hf.symm.trans hf')
          cases hm.symm.trans (dataflow_merge.2 hm')

theorem solve_passes (hg : Graph.ofBody s.body = .ok g) {sol : Solution} (h : s.solve g = .ok sol) :
    s.Passes g (.waiting sol.state) := by
  obtain ⟨state, hloop, hfacts, htrail, _⟩ := solve_eq_ok.1 h
  cases hseeds : (s.dataflow g).seeds with
  | error cause => simp [Dataflow.solve, hseeds] at hloop
  | ok facts =>
      have hends := Dataflow.solve_ends (dataflow_lawful hg) hseeds s.slots_le_height
      obtain ⟨-, hq⟩ := hends.reachable hloop
      have hstate : sol.state = state := by
        rw [Solution.state, ← hfacts, ← htrail, ← hq]
      exact ⟨facts, hseeds, hstate ▸ hends.leads hloop⟩

theorem Stops.compatible {failure : Dataflow.Failure FlowError} (h : s.Stops g failure) :
    failure.cause.frameError? ≠ some .incompatibleMerge := by
  cases h with
  | caught => simp [FlowError.frameError?]
  | instruction _ _ _ _ _ _ hstep =>
      intro he
      exact step_ne_incompatible (StepError.frameError?_eq_some.1 he ▸ hstep)

/-- All frames have the shape of the method, every merge that comes up is possible, and what stops
the analysis is something else. -/
structure OneShape (s : Scope) (g : Graph) : Prop where
  frames : ∀ f, s.Occurs g f → f.stack.length = s.body.maxStack ∧
    f.locals.length = s.body.locals.length ∧ f.args.length = s.method.argCount
  merges : ∀ out t rest state, s.Passes g (.sending out (t :: rest) state) →
    ∃ fact merged, state.facts[t]? = some fact ∧
      fact.merge (arrive (g.nodes.getD t .exit) out) = .ok merged
  solved : ∀ sol, s.solve g = .ok sol → s.Passes g (.waiting sol.state)
  failed : ∀ failure, s.solve g = .error failure →
    s.Stops g failure ∧ failure.cause.frameError? ≠ some .incompatibleMerge

theorem solve_oneShape (hg : Graph.ofBody s.body = .ok g) : s.OneShape g where
  frames f hf := by
    simpa [Frame.shape, shape] using (hf.kept hg).shape
  merges _ _ _ _ h := h.merges hg
  solved _ h := solve_passes hg h
  failed failure h := by
    have hstops := solve_stops hg h
    exact ⟨hstops, hstops.compatible⟩

def greedy : Scope where
  owner := "Sample.Widget"
  method := ⟨"Drain", ⟨"System.Void", true⟩, true, [⟨"value", ⟨"System.Object", false⟩, []⟩], [],
    none⟩
  body := {
    maxStack := 1
    locals := [⟨"System.Object", false⟩]
    instructions := [
      ⟨0, .ldarg1, .none⟩, ⟨1, .brfalse, .target 4⟩, ⟨2, .ldarg1, .none⟩, ⟨3, .stloc0, .none⟩,
      ⟨4, .leave, .target 7⟩, ⟨5, .pop, .none⟩, ⟨6, .pop, .none⟩, ⟨7, .ret, .none⟩]
    handlers := [⟨.catch, 0, 5, 5, 7, none⟩] }
  contracts := .empty

def greedyGraph : Graph := Graph.assemble greedy.body

def greedyFailure : Dataflow.Failure FlowError :=
  ⟨[6, 7, 4, 3, 2, 0], .step 6 ⟨6, .pop, .none⟩ (.frame (.stackUnderflow 1 0))⟩

theorem greedy_oneShape : Graph.ofBody greedy.body = .ok greedyGraph ∧
    greedy.solve greedyGraph = .error greedyFailure ∧ greedy.Stops greedyGraph greedyFailure ∧
    ∃ f, greedy.Occurs greedyGraph f ∧ f.depth = 1 ∧ f.stack.length = 1 ∧ f.locals.length = 1 ∧
      f.args.length = 2 := by
  obtain ⟨hframes, -, -, hfailed⟩ := solve_oneShape (s := greedy) (g := greedyGraph) rfl
  have hcaught : greedy.Occurs greedyGraph ⟨[.nonNull], 1, [.null], [.nonNull, .unknown]⟩ :=
    .seed (n := 7) rfl rfl
  exact ⟨rfl, rfl, (hfailed _ rfl).1, _, hcaught, rfl, hframes _ hcaught⟩

end Scope

end NullFlow
