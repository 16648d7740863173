import NullFlow.Proofs.MethodFlow
import NullFlow.Proofs.Schedule
import NullFlow.Proofs.StepEffect

namespace NullFlow.Scope

variable {s : Scope} {g : Graph} {sol : Solution}

namespace Completed

theorem entry_reached (hg : Graph.ofBody s.body = .ok g) (h : s.Completed g sol) :
    Graph.entry ∈ sol.trail := by
  obtain ⟨facts, hseeds, hr⟩ := h
  have hl := dataflow_lawful hg
  have hmet := Dataflow.reachable_met hl (Dataflow.start_guarded hl hseeds) hr
    (.inr List.mem_cons_self)
  exact hmet.resolve_right List.not_mem_nil

/-- No edge leads back to the entry, whose fact is therefore never merged with another. -/
theorem entry_fact (hg : Graph.ofBody s.body = .ok g) (h : s.Completed g sol) :
    sol.facts[Graph.entry]? = some s.entry := by
  obtain ⟨facts, hseeds, hr⟩ := h
  have hl := dataflow_lawful hg
  have hsource (m : Nat) : Graph.entry ∉ (s.dataflow g).successors m :=
    fun ht => absurd (Graph.successor_inner hg ht).1 (Nat.lt_irrefl _)
  have hfact := Dataflow.reachable_source hl (Dataflow.start_guarded hl hseeds) hr hsource
  have hlt : Graph.entry < facts.length := Dataflow.seeds_length hseeds ▸ hl.nonempty
  have hseed := Dataflow.seeds_getElem? hseeds (List.getElem?_eq_getElem hlt)
  rw [show sol.facts[Graph.entry]? = facts[Graph.entry]? from hfact,
    List.getElem?_eq_getElem hlt, dataflow_seed_entry hg hseed]

theorem fact_above_seed (hg : Graph.ofBody s.body = .ok g) (h : s.Completed g sol) {n : Nat}
    {node : Node} (hn : g.nodes[n]? = some node) :
    ∃ fact seed, sol.facts[n]? = some fact ∧ s.seed node = .ok seed ∧ seed ≤ fact := by
  obtain ⟨facts, hseeds, hr⟩ := h
  have hl := dataflow_lawful hg
  have hlt : n < facts.length :=
    Dataflow.seeds_length hseeds ▸ (List.getElem?_eq_some_iff.1 hn).1
  have hf := List.getElem?_eq_getElem hlt
  have hseed := Dataflow.seeds_getElem? hseeds hf
  simp only [dataflow, getD_node hn] at hseed
  obtain ⟨fact, hfact, hm⟩ := Dataflow.reachable_includes (s.dataflow_joining g) hl
    (Dataflow.start_guarded hl hseeds) hr ⟨_, hf, (s.dataflow_joining g).self _⟩
  exact ⟨fact, _, hfact, hseed, dataflow_merge.1 hm⟩

/-- What leaves a reached node is part of the fact of each successor, which is reached too. -/
theorem successor_fact (hg : Graph.ofBody s.body = .ok g) (h : s.Completed g sol) {n t : Nat}
    {fact out : Frame} (hn : n ∈ sol.trail) (hf : sol.facts[n]? = some fact)
    (ht : (s.dataflow g).transfer n fact = .ok out) (hs : t ∈ g.successors n) :
    t ∈ sol.trail ∧ ∃ fact', sol.facts[t]? = some fact' ∧
      arrive (g.nodes.getD t .exit) out ≤ fact' := by
  obtain ⟨fact₁, out₁, hf₁, ht₁, hd⟩ := h.settled hg hn
  obtain rfl : fact = fact₁ := Option.some.inj (hf.symm.trans hf₁)
  obtain rfl : out = out₁ := Except.ok.inj (ht.symm.trans ht₁)
  obtain ⟨hmet, fact', hf', hm⟩ := hd t hs
  exact ⟨hmet.resolve_right List.not_mem_nil, fact', hf', dataflow_merge.1 hm⟩

theorem reached_transfer (hg : Graph.ofBody s.body = .ok g) (h : s.Completed g sol) {n : Nat}
    (hn : n ∈ sol.trail) : ∃ fact out, sol.facts[n]? = some fact ∧
      (s.dataflow g).transfer n fact = .ok out := by
  obtain ⟨fact, out, hf, ht, _⟩ := h.settled hg hn
  exact ⟨fact, out, hf, ht⟩

theorem confined {Within Met : Nat → Frame → Prop}
    (hp : (s.dataflow g).Preserving Within Met) (h : s.Completed g sol) :
    Dataflow.Confined Within Met sol.state := by
  obtain ⟨facts, hseeds, hr⟩ := h
  exact Dataflow.reachable_preserved hp hr (Dataflow.start_confined hp hseeds)

end Completed

theorem entry_reached (hg : Graph.ofBody s.body = .ok g) (h : s.solve g = .ok sol) :
    Graph.entry ∈ sol.trail :=
  (solve_completed hg h).entry_reached hg

theorem entry_fact (hg : Graph.ofBody s.body = .ok g) (h : s.solve g = .ok sol) :
    sol.facts[Graph.entry]? = some s.entry :=
  (solve_completed hg h).entry_fact hg

theorem fact_above_seed (hg : Graph.ofBody s.body = .ok g) (h : s.solve g = .ok sol) {n : Nat}
    {node : Node} (hn : g.nodes[n]? = some node) :
    ∃ fact seed, sol.facts[n]? = some fact ∧ s.seed node = .ok seed ∧ seed ≤ fact :=
  (solve_completed hg h).fact_above_seed hg hn

theorem successor_fact (hg : Graph.ofBody s.body = .ok g) (h : s.solve g = .ok sol) {n t : Nat}
    {fact out : Frame} (hn : n ∈ sol.trail) (hf : sol.facts[n]? = some fact)
    (ht : (s.dataflow g).transfer n fact = .ok out) (hs : t ∈ g.successors n) :
    t ∈ sol.trail ∧ ∃ fact', sol.facts[t]? = some fact' ∧
      arrive (g.nodes.getD t .exit) out ≤ fact' :=
  (solve_completed hg h).successor_fact hg hn hf ht hs

theorem reached_transfer (hg : Graph.ofBody s.body = .ok g) (h : s.solve g = .ok sol) {n : Nat}
    (hn : n ∈ sol.trail) : ∃ fact out, sol.facts[n]? = some fact ∧
      (s.dataflow g).transfer n fact = .ok out :=
  (solve_completed hg h).reached_transfer hg hn

theorem reached_met {Within Met : Nat → Frame → Prop} (hg : Graph.ofBody s.body = .ok g)
    (h : s.solve g = .ok sol) (hp : (s.dataflow g).Preserving Within Met) {n : Nat}
    (hn : sol.reached n) : ∃ fact, sol.facts[n]? = some fact ∧ Met n fact := by
  have hn := Solution.reached_iff.1 hn
  obtain ⟨fact, _, hf, _⟩ := reached_transfer hg h hn
  exact ⟨fact, hf, ((solve_completed hg h).confined hp).met n fact (.inl hn) hf⟩

theorem reached_before (hg : Graph.ofBody s.body = .ok g) (h : s.solve g = .ok sol) {n : Nat}
    {b : Block} {fact : Frame} (hn : n ∈ sol.trail) (hb : g.nodes[n]? = some (.block b))
    (hf : sol.facts[n]? = some fact) (k : Nat) :
    ∃ mid out index findings, s.before b k fact = .ok mid ∧
      s.execute index ((b.instructions s.body).drop k) mid = .ok (out, findings) := by
  obtain ⟨fact₁, out, hf₁, ht⟩ := reached_transfer hg h hn
  obtain rfl : fact = fact₁ := Option.some.inj (hf.symm.trans hf₁)
  obtain ⟨findings, he⟩ := dataflow_transfer.1 ht
  rw [getD_node hb] at he
  obtain ⟨mid, index, findings', hmid, hrest⟩ := before_ok he k
  exact ⟨mid, out, index, findings', hmid, hrest⟩

theorem reached_step (hg : Graph.ofBody s.body = .ok g) (h : s.solve g = .ok sol) {n k : Nat}
    {b : Block} {fact : Frame} {i : Instruction} (hn : n ∈ sol.trail)
    (hb : g.nodes[n]? = some (.block b)) (hf : sol.facts[n]? = some fact)
    (hi : (b.instructions s.body)[k]? = some i) :
    ∃ mid next issues, s.before b k fact = .ok mid ∧ s.step i mid = .ok (next, issues) := by
  obtain ⟨mid, _, _, _, hmid, hrest⟩ := reached_before hg h hn hb hf k
  have hdrop : (b.instructions s.body).drop k = i :: (b.instructions s.body).drop (k + 1) := by
    obtain ⟨hlt, rfl⟩ := List.getElem?_eq_some_iff.1 hi
    exact List.drop_eq_getElem_cons hlt
  rw [hdrop] at hrest
  obtain ⟨next, issues, _, hstep, _⟩ := execute_cons.1 hrest
  exact ⟨mid, next, issues, hmid, hstep⟩

/-- What leaves a reached node is contained in the fact of each successor, the entry's fact is the
state when the method starts, and no exception node falls below its seed. -/
structure Fixpoint (s : Scope) (g : Graph) (sol : Solution) : Prop where
  entry_reached : sol.reached Graph.entry
  entry_fact : sol.facts[Graph.entry]? = some s.entry
  edges : ∀ n, sol.reached n → ∃ fact out, sol.facts[n]? = some fact ∧
    (s.dataflow g).transfer n fact = .ok out ∧
    ∀ t ∈ g.successors n, sol.reached t ∧ ∃ fact', sol.facts[t]? = some fact' ∧
      fact'.merge (arrive (g.nodes.getD t .exit) out) = .ok fact'
  seeds : ∀ (n handler : Nat) (receives : Bool),
    g.nodes[n]? = some (.exception handler receives) →
    ∃ fact seed, sol.facts[n]? = some fact ∧ s.seed (.exception handler receives) = .ok seed ∧
      fact.merge seed = .ok fact

theorem solve_fixpoint (hg : Graph.ofBody s.body = .ok g) (h : s.solve g = .ok sol) :
    s.Fixpoint g sol where
  entry_reached := Solution.reached_iff.2 (entry_reached hg h)
  entry_fact := entry_fact hg h
  edges n hn := by
    obtain ⟨fact, out, hf, ht⟩ := reached_transfer hg h (Solution.reached_iff.1 hn)
    refine ⟨fact, out, hf, ht, fun t hs => ?_⟩
    obtain ⟨hreached, hfact⟩ := successor_fact hg h (Solution.reached_iff.1 hn) hf ht hs
    exact ⟨Solution.reached_iff.2 hreached, hfact⟩
  seeds _ _ _ hx := fact_above_seed hg h hx

/-- A method that fills a local, makes a call and clears the local in a protected region, uses it in
the handler, and fills it again in a loop behind. -/
def retry : Scope where
  owner := "Sample.Widget"
  method := ⟨"Run", ⟨"System.Void", true⟩, false, [], [], none⟩
  body := {
    maxStack := 1
    locals := [⟨"System.Object", false⟩]
    instructions := [
      ⟨0, .ldstr, .string "a"⟩, ⟨1, .stloc0, .none⟩,
      ⟨2, .call, .method ⟨"Sample.Widget", "Work", false, [], ⟨"System.Void", true⟩, false⟩⟩,
      ⟨3, .ldnull, .none⟩, ⟨4, .stloc0, .none⟩, ⟨5, .leave, .target 10⟩,
      ⟨6, .pop, .none⟩, ⟨7, .ldloc0, .none⟩,
      ⟨8, .callvirt,
        .method ⟨"System.Object", "ToString", true, [], ⟨"System.String", false⟩, false⟩⟩,
      ⟨9, .leave, .target 10⟩,
      ⟨10, .ldloc0, .none⟩, ⟨11, .brtrue, .target 15⟩, ⟨12, .ldstr, .string "b"⟩,
      ⟨13, .stloc0, .none⟩, ⟨14, .br, .target 10⟩,
      ⟨15, .ret, .none⟩]
    handlers := [⟨.catch, 0, 6, 6, 10, none⟩] }
  contracts := .empty

def retryGraph : Graph := Graph.assemble retry.body

def retrySolution : Solution where
  facts := [
    ⟨[.unused], 0, [.null], []⟩, ⟨[.unused], 0, [.unknown], []⟩, ⟨[.unused], 0, [.null], []⟩,
    ⟨[.nonNull], 1, [.null], []⟩, ⟨[.unused], 0, [.unknown], []⟩, ⟨[.unused], 0, [.unknown], []⟩,
    ⟨[.unused], 0, [.unknown], []⟩, ⟨[.nonNull], 1, [.null], []⟩]
  trail := [1, 6, 5, 1, 4, 3, 6, 5, 7, 4, 2, 0]
  findings := [⟨8, .nullReceiver (.method "ToString")⟩]

theorem retry_fixpoint : Graph.ofBody retry.body = .ok retryGraph ∧
    retry.solve retryGraph = .ok retrySolution ∧ retry.Fixpoint retryGraph retrySolution :=
  ⟨rfl, rfl, solve_fixpoint (g := retryGraph) rfl rfl⟩

end NullFlow.Scope
