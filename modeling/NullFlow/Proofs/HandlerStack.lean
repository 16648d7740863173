import NullFlow.Proofs.FrameView
import NullFlow.Proofs.PathSoundness

namespace NullFlow

namespace Frame

variable {sh : Shape} {f g : Frame} {values : List Nullity}

def Stacks (f : Frame) (values : List Nullity) : Prop :=
  f.depth = values.length ∧
    f.stack = values ++ List.replicate (f.stack.length - values.length) .unused

theorem Tidy.stacks (h : f.Tidy sh) : f.Stacks (f.stack.take f.depth) := by
  refine ⟨h.take_length.symm, ?_⟩
  rw [h.take_length, ← h.trim.drop_eq, List.take_append_drop]

theorem Stacks.below (hf : f.Stacks [] ∨ f.Stacks values) (hg : g.Stacks values)
    (hlen : f.stack.length = g.stack.length) :
    f.depth ≤ g.depth ∧ Slots.Below f.stack g.stack := by
  obtain ⟨hd, hst⟩ := hg
  rcases hf with ⟨hd', hst'⟩ | ⟨hd', hst'⟩
  · refine ⟨hd' ▸ Nat.zero_le _, Slots.below_of_getD hlen fun i => ?_⟩
    have hu : f.stack.getD i .unused = .unused := by
      rw [hst']
      grind
    rw [hu]
    exact Nullity.unused_le _
  · refine ⟨(hd'.trans hd.symm).le, ?_⟩
    have hsame : f.stack = g.stack := by rw [hst', hst, hlen]
    rw [hsame]
    exact List.forall₂_same.2 fun _ _ => le_rfl

theorem Stacks.join (hf : f.Stacks [] ∨ f.Stacks values) (hg : g.Stacks values)
    (hlen : f.stack.length = g.stack.length) : (f.join g).Stacks values := by
  obtain ⟨hd, hst⟩ := Stacks.below hf hg hlen
  have hdepth : (f.join g).depth = g.depth := Nat.max_eq_right hd
  have hstack : (f.join g).stack = g.stack := by
    rw [← Slots.zipWith_merge_eq_left_iff hlen.symm] at hst
    exact (List.zipWith_comm_of_comm sup_comm).trans hst
  rw [Stacks, hdepth, hstack]
  exact hg

end Frame

/-- What a handler finds on the stack: the exception, if it receives it. -/
def thrownStack (receives : Bool) : List Nullity := if receives then [.nonNull] else []

theorem Node.thrown?_exception (index : Nat) (receives : Bool) :
    (exception index receives).thrown? = some (thrownStack receives) := by
  cases receives <;> rfl

/-- A block that only exceptions lead to, all of which it receives or none. -/
def Graph.Catches (g : Graph) (receives : Bool) (t : Nat) : Prop :=
  (∃ b, g.nodes[t]? = some (.block b)) ∧
    ∀ n ∈ g.predecessors t, ∃ index, g.nodes[n]? = some (.exception index receives)

/-- A handler never inherits the stack of what it protects. -/
structure Solution.HandlerStacks (sol : Solution) (g : Graph) : Prop where
  exceptions : ∀ (n index : Nat) (receives : Bool), g.nodes[n]? = some (.exception index receives) →
    ∃ fact, sol.facts[n]? = some fact ∧ fact.Stacks (thrownStack receives)
  handlers : ∀ (receives : Bool) (t : Nat), g.Catches receives t → sol.reached t →
    ∃ fact, sol.facts[t]? = some fact ∧ fact.Stacks (thrownStack receives)

namespace Scope

variable {s : Scope} {g : Graph} {sol : Solution} {n t index : Nat} {receives : Bool}

theorem Proper.stacks {f : Frame} (h : s.Proper g n f)
    (hn : g.nodes[n]? = some (.exception index receives)) : f.Stacks (thrownStack receives) := by
  have hthrown := Node.thrown?_exception index receives
  rw [← getD_node hn] at hthrown
  rw [← h.2 _ hthrown]
  exact h.1.stacks

theorem unreached_stacks (s : Scope) : s.unreached.Stacks [] := by
  simp [Frame.Stacks, unreached, Frame.blank, Frame.withSlots]

/-- A block that only exceptions lead to finds on the stack what they leave there, once it is
reached. Its fact has an empty stack before. -/
theorem dataflow_catches (hg : Graph.ofBody s.body = .ok g) :
    (s.dataflow g).Preserving
      (fun t f => s.Proper g t f ∧ ∀ receives, g.Catches receives t →
        f.Stacks [] ∨ f.Stacks (thrownStack receives))
      (fun t f => s.Proper g t f ∧ f.Live s.shape ∧
        ∀ receives, g.Catches receives t → f.Stacks (thrownStack receives)) where
  seed {t f} hf := by
    refine ⟨(dataflow_lawful hg).seed hf, fun receives hc => .inl ?_⟩
    obtain ⟨⟨b, hb⟩, _⟩ := hc
    simp only [dataflow, getD_node hb, seed, Except.ok.injEq] at hf
    exact hf ▸ s.unreached_stacks
  first hf := by
    have hl := dataflow_lawful hg
    refine ⟨hl.seed hf, hl.first hf, fun receives hc => ?_⟩
    obtain ⟨⟨b, hb⟩, _⟩ := hc
    cases hb.symm.trans (Graph.entry_node hg)
  within h := ⟨h.1, fun receives hc => .inr (h.2.2 receives hc)⟩
  visit {n f out} hmet ht t hs fact m hfact hm := by
    have hl := dataflow_lawful hg
    obtain ⟨hproper, hlive, _⟩ := hmet
    obtain ⟨hproper', hlive'⟩ := hl.merge hfact.1 (hl.transfer hlive ht) hm
    refine ⟨hproper', hlive', fun receives hc => ?_⟩
    -- The node left is an exception node, which hands on the fact it has.
    obtain ⟨⟨b, hb⟩, hpred⟩ := id hc
    obtain ⟨index, hn⟩ := hpred n (Graph.mem_predecessors.2 (Graph.mem_successors.1 hs))
    obtain ⟨findings, he⟩ := dataflow_transfer.1 ht
    rw [getD_node hn] at he
    cases he
    have hm' := dataflow_merge.1 hm
    simp only [dataflow, getD_node hb, arrive] at hm'
    obtain ⟨hshape, rfl⟩ := Frame.merge_eq_ok_iff.1 hm'
    exact Frame.Stacks.join (hfact.2 receives hc) (hproper.stacks hn)
      (congrArg Shape.stack hshape)

theorem solve_handlerStacks (hg : Graph.ofBody s.body = .ok g) (h : s.solve g = .ok sol) :
    sol.HandlerStacks g where
  exceptions n index receives hn := by
    obtain ⟨fact, _, hf, _⟩ := fact_above_seed hg h hn
    exact ⟨fact, hf, ((solve_guarded hg h).proper n fact hf).stacks hn⟩
  handlers receives t hc ht := by
    obtain ⟨fact, hf, hmet⟩ := reached_met hg h (dataflow_catches hg) ht
    exact ⟨fact, hf, hmet.2.2 receives hc⟩

def attempt : Scope where
  owner := "Sample.Widget"
  method := ⟨"Run", ⟨"System.Void", true⟩, false,
    [⟨"value", ⟨"System.Object", false⟩, []⟩], [], none⟩
  body := {
    maxStack := 2
    locals := [⟨"System.Object", false⟩]
    instructions := [
      ⟨0, .ldarg0, .none⟩, ⟨1, .ldarg0, .none⟩, ⟨2, .brfalse, .target 5⟩, ⟨3, .ldnull, .none⟩,
      ⟨4, .br, .target 6⟩, ⟨5, .ldnull, .none⟩, ⟨6, .pop, .none⟩, ⟨7, .pop, .none⟩,
      ⟨8, .leave, .target 14⟩,
      ⟨9, .stloc0, .none⟩, ⟨10, .ldloc0, .none⟩,
      ⟨11, .callvirt,
        .method ⟨"System.Object", "ToString", true, [], ⟨"System.String", false⟩, false⟩⟩,
      ⟨12, .leave, .target 14⟩,
      ⟨13, .endfinally, .none⟩, ⟨14, .ret, .none⟩]
    handlers := [⟨.catch, 0, 9, 9, 13, none⟩, ⟨.finally, 0, 13, 13, 14, none⟩] }
  contracts := .empty

def attemptGraph : Graph := Graph.assemble attempt.body

def attemptSolution : Solution where
  facts := [
    ⟨[.unused, .unused], 0, [.null], [.unknown]⟩, ⟨[.unused, .unused], 0, [.unknown], [.unknown]⟩,
    ⟨[.unused, .unused], 0, [.null], [.unknown]⟩, ⟨[.unknown, .unused], 1, [.null], [.unknown]⟩,
    ⟨[.unknown, .unused], 1, [.null], [.unknown]⟩, ⟨[.unknown, .null], 2, [.null], [.unknown]⟩,
    ⟨[.nonNull, .unused], 1, [.null], [.unknown]⟩, ⟨[.unused, .unused], 0, [.unknown], [.unknown]⟩,
    ⟨[.unused, .unused], 0, [.unknown], [.unknown]⟩, ⟨[.nonNull, .unused], 1, [.null], [.unknown]⟩,
    ⟨[.unused, .unused], 0, [.unknown], [.unknown]⟩]
  trail := [7, 1, 10, 8, 7, 6, 5, 10, 9, 4, 3, 2, 0]
  findings := []

theorem attempt_handlerStacks : Graph.ofBody attempt.body = .ok attemptGraph ∧
    attempt.solve attemptGraph = .ok attemptSolution ∧
    attemptGraph.Catches true 6 ∧ attemptSolution.reached 6 ∧
    attemptGraph.Catches false 7 ∧ attemptSolution.reached 7 ∧
    attemptSolution.HandlerStacks attemptGraph := by
  have hcatch : ∀ n ∈ attemptGraph.predecessors 6,
      ∃ index, attemptGraph.nodes[n]? = some (.exception index true) :=
    List.forall_mem_singleton.2 ⟨0, rfl⟩
  have hclean : ∀ n ∈ attemptGraph.predecessors 7,
      ∃ index, attemptGraph.nodes[n]? = some (.exception index false) :=
    List.forall_mem_singleton.2 ⟨1, rfl⟩
  exact ⟨rfl, rfl, ⟨⟨_, rfl⟩, hcatch⟩, rfl, ⟨⟨_, rfl⟩, hclean⟩, rfl,
    solve_handlerStacks (s := attempt) rfl rfl⟩

end Scope

end NullFlow
