import NullFlow.Proofs.Convergence

namespace NullFlow

/-- A path through a node hands its frame on: where an exception is thrown the stack is lost, and a
handler that receives it finds it there. -/
def Node.land (node : Node) (f : Frame) : Except FlowError Frame :=
  match node with
  | .exception _ true => (f.clearStack.push .nonNull).mapError .caught
  | .exception _ false => .ok f.clearStack
  | _ => .ok f

inductive Graph.Path (g : Graph) : Nat → List Nat → Nat → Prop
  | here (n : Nat) : Path g n [] n
  | step {n t m : Nat} {path : List Nat} (edge : g.Linked n t) (rest : Path g t path m) :
      Path g n (t :: path) m

namespace Scope

def follow (s : Scope) (g : Graph) : Nat → List Nat → Frame → Except FlowError Frame
  | _, [], f => .ok f
  | n, t :: rest, f => do
    let (out, _) ← s.executeNode (g.nodes.getD n .exit) f
    follow s g t rest (← (g.nodes.getD t .exit).land out)

/-- What leaves a reached node is as deep as the fact of each successor that no exception enters. -/
def DepthConsistent (s : Scope) (g : Graph) (sol : Solution) : Prop :=
  ∀ n ∈ sol.trail, ∀ t ∈ g.successors n, (g.nodes.getD t .exit).thrown? = none →
    ∀ fact ∈ sol.facts[n]?, ∀ out ∈ ((s.dataflow g).transfer n fact).toOption,
      ∀ fact' ∈ sol.facts[t]?, out.depth = fact'.depth

instance (s : Scope) (g : Graph) (sol : Solution) : Decidable (s.DepthConsistent g sol) :=
  inferInstanceAs (Decidable (∀ n ∈ sol.trail, ∀ t ∈ g.successors n, _))

end Scope

namespace Frame

variable {sh : Shape} {f g : Frame}

theorem Tidy.take_length (h : f.Tidy sh) : (f.stack.take f.depth).length = f.depth := by
  have hlen : f.stack.length = sh.stack := congrArg Shape.stack h.shape
  rw [List.length_take, hlen, Nat.min_eq_left h.fits]

theorem Live.traced_of_take (hf : f.Live sh) (hg : g.Tidy sh)
    (hst : f.stack.take f.depth = g.stack.take g.depth) (hl : Slots.Below f.locals g.locals)
    (ha : Slots.Below f.args g.args) : Rel sh Nullity.Traced f g := by
  have hd : f.depth = g.depth := by
    rw [← hf.take_length, hst, hg.take_length]
  have hlen : f.stack.length = g.stack.length :=
    congrArg Shape.stack (hf.shape.trans hg.shape.symm)
  refine hf.traced hg hd (le_iff.2 ⟨hd.le, Slots.below_of_getD hlen fun i => ?_, hl, ha⟩)
  by_cases hi : i < f.depth
  · have hget := congrArg (List.getD · i .unused) hst
    simp only [List.getD_eq_getElem?_getD, List.getElem?_take, hi, hd ▸ hi, if_true] at hget ⊢
    exact hget.le
  · rw [hf.free (Nat.le_of_not_lt hi)]
    exact Nullity.unused_le _

theorem Live.push_ok (h : f.Live sh) {v : Nullity} (hv : v ≠ .unused) (hd : f.depth < sh.stack) :
    ∃ g, f.push v = .ok g ∧ g.Live sh := by
  have hlen : f.stack.length = sh.stack := congrArg Shape.stack h.shape
  have hp : f.push v = .ok { f with stack := f.stack.set f.depth v, depth := f.depth + 1 } :=
    if_pos (hlen ▸ hd)
  exact ⟨_, hp, h.push hv hp⟩

end Frame

variable {sh : Shape} {f : Frame}

theorem Node.land_thrown {node : Node} {values : List Nullity} (hv : node.thrown? = some values)
    (hfits : values.length ≤ sh.stack) (hf : f.Live sh) :
    ∃ f', node.land f = .ok f' ∧ f'.Live sh ∧ f'.stack.take f'.depth = values ∧
      f'.slots = f.slots := by
  cases node with
  | entry | exit | block => cases hv
  | exception handler receives =>
      cases receives with
      | false =>
          cases hv
          exact ⟨f.clearStack, rfl, hf.clearStack, rfl, rfl⟩
      | true =>
          cases hv
          obtain ⟨f', hp, hlive⟩ := hf.clearStack.push_ok (v := .nonNull) (by decide) hfits
          refine ⟨f', mapError_eq_ok.2 hp, hlive, ?_, (Frame.push_slots hp :)⟩
          rw [Frame.push_take hp]
          rfl

theorem Node.land_plain {node : Node} (h : node.thrown? = none) (f : Frame) :
    node.land f = .ok f ∧ Scope.arrive node f = f := by
  cases node with
  | entry | exit | block => exact ⟨rfl, rfl⟩
  | exception handler receives => cases receives <;> cases h

namespace Scope

variable {s : Scope} {g : Graph} {sol : Solution}

/-- A path has come to a reached node with a frame that the fact of the node covers. -/
def Tracked (s : Scope) (sol : Solution) (n : Nat) (f : Frame) : Prop :=
  n ∈ sol.trail ∧ ∃ fact, sol.facts[n]? = some fact ∧ f.Rel s.shape Nullity.Traced fact

theorem entry_tracked (hg : Graph.ofBody s.body = .ok g) (h : s.solve g = .ok sol) :
    s.Tracked sol Graph.entry s.entry :=
  ⟨entry_reached hg h, s.entry, entry_fact hg h,
    s.entry_live.traced s.entry_live.toTidy rfl le_rfl⟩

theorem executeNode_traced (hg : Graph.ofBody s.body = .ok g) (h : s.solve g = .ok sol) {n : Nat}
    {f fact : Frame} (hn : n ∈ sol.trail) (hfact : sol.facts[n]? = some fact)
    (hrel : f.Rel s.shape Nullity.Traced fact) :
    ∃ out findings out' findings',
      s.executeNode (g.nodes.getD n .exit) fact = .ok (out, findings) ∧
      s.executeNode (g.nodes.getD n .exit) f = .ok (out', findings') ∧
      out'.Rel s.shape Nullity.Traced out := by
  obtain ⟨fact₁, out, hfact₁, ht⟩ := reached_transfer hg h hn
  obtain rfl : fact = fact₁ := Option.some.inj (hfact.symm.trans hfact₁)
  obtain ⟨findings, he⟩ := dataflow_transfer.1 ht
  obtain ⟨⟨out', findings'⟩, he', hrel'⟩ := (s.matching_traced.executeNode _ hrel).ok_right he
  exact ⟨out, findings, out', findings', he, he', hrel'⟩

/-- The depth of the fact of an exception node is known, and so is what its stack holds. Elsewhere
the depth is what consistency says. -/
theorem land_traced (hg : Graph.ofBody s.body = .ok g) (h : s.solve g = .ok sol)
    (hd : s.DepthConsistent g sol) {n t : Nat} {fact out f : Frame} (hn : n ∈ sol.trail)
    (hf : sol.facts[n]? = some fact) (ht : (s.dataflow g).transfer n fact = .ok out)
    (hs : t ∈ g.successors n) (hrel : f.Rel s.shape Nullity.Traced out) :
    ∃ f', (g.nodes.getD t .exit).land f = .ok f' ∧ s.Tracked sol t f' := by
  obtain ⟨hreached, fact', hf', hle⟩ := successor_fact hg h hn hf ht hs
  have hproper := (solve_guarded hg h).proper t fact' hf'
  have hlive : f.Live s.shape := hrel.live_left fun _ _ hab => hab.1
  cases hthrown : (g.nodes.getD t .exit).thrown? with
  | none =>
      obtain ⟨hland, _⟩ := Node.land_plain hthrown f
      have hdepth : out.depth = fact'.depth :=
        hd n hn t hs hthrown fact hf out (by rw [ht]; rfl) fact' hf'
      have hbelow : f ≤ fact' := by
        rw [(Node.land_plain hthrown out).2] at hle
        exact hrel.le.trans hle
      exact ⟨f, hland, hreached, fact', hf',
        hlive.traced hproper.1 (hrel.depth.trans hdepth) hbelow⟩
  | some values =>
      have htake := hproper.2 values hthrown
      have hfits : values.length ≤ s.shape.stack := by
        rw [← htake, hproper.1.take_length]
        exact hproper.1.fits
      obtain ⟨f', hland, hlive', htake', hslots⟩ := Node.land_thrown hthrown hfits hlive
      have hbelow (kind : SlotKind) : Slots.Below (f'.slots kind) (fact'.slots kind) := by
        have hle' := Frame.slots_below hle kind
        rw [arrive_slots] at hle'
        rw [hslots]
        exact (Frame.slots_below hrel.le kind).trans hle'
      exact ⟨f', hland, hreached, fact', hf', hlive'.traced_of_take hproper.1
        (htake'.trans htake.symm) (hbelow .localVar) (hbelow .argument)⟩

theorem tracked_step (hg : Graph.ofBody s.body = .ok g) (h : s.solve g = .ok sol)
    (hd : s.DepthConsistent g sol) {n t : Nat} {f : Frame} (hf : s.Tracked sol n f)
    (hedge : g.Linked n t) : ∃ out findings f',
      s.executeNode (g.nodes.getD n .exit) f = .ok (out, findings) ∧
      (g.nodes.getD t .exit).land out = .ok f' ∧ s.Tracked sol t f' := by
  obtain ⟨hn, fact, hfact, hrel⟩ := hf
  obtain ⟨out, findings, out', findings', he, he', hrel'⟩ := executeNode_traced hg h hn hfact hrel
  have ht := dataflow_transfer.2 ⟨findings, he⟩
  obtain ⟨f', hland, htracked⟩ :=
    land_traced hg h hd hn hfact ht (Graph.mem_successors.2 hedge) hrel'
  exact ⟨out', findings', f', he', hland, htracked⟩

theorem tracked_follow (hg : Graph.ofBody s.body = .ok g) (h : s.solve g = .ok sol)
    (hd : s.DepthConsistent g sol) {n m : Nat} {path : List Nat} (hpath : g.Path n path m)
    {f : Frame} (hf : s.Tracked sol n f) :
    ∃ f', s.follow g n path f = .ok f' ∧ s.Tracked sol m f' := by
  induction hpath generalizing f with
  | here n => exact ⟨f, rfl, hf⟩
  | step edge rest ih =>
      obtain ⟨out, findings, f₁, he, hland, hf₁⟩ := tracked_step hg h hd hf edge
      obtain ⟨f', hfollow, hf'⟩ := ih hf₁
      refine ⟨f', ?_, hf'⟩
      simp only [follow, he, hland, bind, Except.bind]
      exact hfollow

theorem before_traced {b : Block} {k : Nat} {f fact mid : Frame}
    (hrel : f.Rel s.shape Nullity.Traced fact) (hb : s.before b k fact = .ok mid) :
    ∃ mid', s.before b k f = .ok mid' ∧ mid'.Rel s.shape Nullity.Traced mid := by
  obtain ⟨⟨_, findings⟩, he, rfl⟩ := map_eq_ok.1 hb
  obtain ⟨⟨mid', findings'⟩, he', hrel'⟩ :=
    (s.matching_traced.execute b.first _ hrel).ok_right he
  exact ⟨mid', map_eq_ok.2 ⟨_, he', rfl⟩, hrel'⟩

theorem block_traced (hg : Graph.ofBody s.body = .ok g) (h : s.solve g = .ok sol) {n k : Nat}
    {b : Block} {i : Instruction} {f fact : Frame} (hn : n ∈ sol.trail)
    (hfact : sol.facts[n]? = some fact) (hrel : f.Rel s.shape Nullity.Traced fact)
    (hb : g.nodes[n]? = some (.block b)) (hi : (b.instructions s.body)[k]? = some i) :
    ∃ mid mid', s.before b k fact = .ok mid ∧ s.before b k f = .ok mid' ∧
      mid'.Rel s.shape Nullity.Traced mid ∧ ∃ r, s.step i mid = .ok r := by
  obtain ⟨mid, next, issues, hmid, hstep⟩ := reached_step hg h hn hb hfact hi
  obtain ⟨mid', hmid', hrel'⟩ := before_traced hrel hmid
  exact ⟨mid, mid', hmid, hmid', hrel', _, hstep⟩

/-- Whatever path leads to a node, following it does not fail and ends with a frame as deep as the
fact of the node and below it. A receiver that the solution holds to be null is null on the path. -/
theorem follow_below_fact (hg : Graph.ofBody s.body = .ok g) (h : s.solve g = .ok sol)
    (hd : s.DepthConsistent g sol) {path : List Nat} {m : Nat}
    (hpath : g.Path Graph.entry path m) :
    ∃ f fact, s.follow g Graph.entry path s.entry = .ok f ∧ sol.reached m ∧
      sol.facts[m]? = some fact ∧ f.depth = fact.depth ∧ fact.merge f = .ok fact ∧
      (∃ r, s.executeNode (g.nodes.getD m .exit) f = .ok r) ∧
      ∀ (b : Block) (k : Nat) (i : Instruction), g.nodes[m]? = some (.block b) →
        (b.instructions s.body)[k]? = some i →
        ∃ mid mid' next next' issues issues', s.before b k fact = .ok mid ∧
          s.before b k f = .ok mid' ∧ mid.merge mid' = .ok mid ∧
          s.step i mid = .ok (next, issues) ∧ s.step i mid' = .ok (next', issues') ∧
          (i.receiver? mid = some .null → i.receiver? mid' = some .null) ∧
          ∀ member, .nullReceiver member ∈ issues → .nullReceiver member ∈ issues' := by
  obtain ⟨f, hfollow, hm, fact, hfact, hrel⟩ := tracked_follow hg h hd hpath (entry_tracked hg h)
  refine ⟨f, fact, hfollow, Solution.reached_iff.2 hm, hfact, hrel.depth,
    Frame.le_iff_merge.1 hrel.le, ?_, ?_⟩
  · obtain ⟨_, _, _, _, _, he', _⟩ := executeNode_traced hg h hm hfact hrel
    exact ⟨_, he'⟩
  · intro b k i hb hi
    obtain ⟨mid, mid', hmid, hmid', hrel', ⟨next, issues⟩, hstep⟩ :=
      block_traced hg h hm hfact hrel hb hi
    obtain ⟨⟨next', issues'⟩, hstep', _, hreport⟩ :=
      (s.matching_traced.step i hrel').ok_right hstep
    refine ⟨mid, mid', next, next', issues, issues', hmid, hmid', Frame.le_iff_merge.1 hrel'.le,
      hstep, hstep', ?_, hreport⟩
    intro hnull
    obtain ⟨member, hmem⟩ := (step_effect hstep).2.2 hnull
    exact (step_effect hstep').2.1 ⟨member, hreport member hmem⟩

theorem retry_follow_below_fact : retry.DepthConsistent retryGraph retrySolution ∧
    (∃ f fact, retry.follow retryGraph Graph.entry [2, 7, 3, 4, 5, 4, 5, 4] retry.entry = .ok f ∧
      retrySolution.facts[4]? = some fact ∧ f.depth = fact.depth ∧ fact.merge f = .ok fact) ∧
    ∃ f mid i, retry.follow retryGraph Graph.entry [2, 7, 3] retry.entry = .ok f ∧
      retry.before ⟨6, 9⟩ 2 f = .ok mid ∧ retry.body.instructions[8]? = some i ∧
      i.receiver? mid = some .null := by
  have hd : retry.DepthConsistent retryGraph retrySolution := by decide +kernel
  have hround : retryGraph.Path 4 [5, 4, 5, 4] 4 :=
    .step (by decide +kernel) (.step (by decide +kernel)
      (.step (by decide +kernel) (.step (by decide +kernel) (.here 4))))
  have hloop : retryGraph.Path Graph.entry [2, 7, 3, 4, 5, 4, 5, 4] 4 :=
    .step (by decide +kernel) (.step (by decide +kernel)
      (.step (by decide +kernel) (.step (by decide +kernel) hround)))
  have hhandler : retryGraph.Path Graph.entry [2, 7, 3] 3 :=
    .step (by decide +kernel) (.step (by decide +kernel) (.step (by decide +kernel) (.here 3)))
  obtain ⟨f, fact, hfollow, _, hfact, hdepth, hle, _⟩ := follow_below_fact rfl rfl hd hloop
  refine ⟨hd, ⟨f, fact, hfollow, hfact, hdepth, hle⟩, ?_⟩
  obtain ⟨f, fact, hfollow, _, hfact, _, _, _, hblock⟩ := follow_below_fact rfl rfl hd hhandler
  obtain ⟨mid, mid', _, _, _, _, hmid, hmid', _, _, _, hnull, _⟩ := hblock ⟨6, 9⟩ 2 _ rfl rfl
  cases hfact
  cases hmid
  exact ⟨f, mid', _, hfollow, hmid', rfl, hnull rfl⟩

end Scope

end NullFlow
