import NullFlow.Proofs.FrameView
import NullFlow.Proofs.PathSoundness
import NullFlow.Proofs.Schedule

namespace NullFlow

theorem map_mapError {ε ε' α β : Type} (x : Except ε α) (k : ε → ε') (f : α → β) :
    (x.mapError k).map f = (x.map f).mapError k := by
  cases x <;> rfl

namespace Scope

variable {φ : Nullity.View} {s s' : Scope} {g : Graph} {sol sol' : Solution}

/-- Two scopes of one method that put the same values on its stack, as far as the view sees. -/
structure Alike (φ : Nullity.View) (s s' : Scope) : Prop where
  method : s.method = s'.method
  body : s.body = s'.body
  fieldValue : ∀ ref, φ (s.fieldValue ref) = φ (s'.fieldValue ref)
  callResult : ∀ callee, φ (s.callResult callee) = φ (s'.callResult callee)
  entry : s.entry.view φ = s'.entry.view φ

namespace Alike

theorem refl (φ : Nullity.View) (s : Scope) : s.Alike φ s :=
  ⟨rfl, rfl, fun _ => rfl, fun _ => rfl, rfl⟩

theorem symm (ha : s.Alike φ s') : s'.Alike φ s :=
  ⟨ha.method.symm, ha.body.symm, fun ref => (ha.fieldValue ref).symm,
    fun callee => (ha.callResult callee).symm, ha.entry.symm⟩

theorem shape_eq (ha : s.Alike φ s') : s.shape = s'.shape := by
  simp only [shape, ha.method, ha.body]

theorem matching (ha : s.Alike φ s') : s.Matching s' φ.Traced (fun _ _ => True) where
  method := ha.method
  body := ha.body
  same _ hv := ⟨hv, le_rfl⟩
  fieldValue ref := ⟨s.fieldValue_ne_unused ref, (ha.fieldValue ref).le⟩
  callResult callee := ⟨s.callResult_ne_unused callee, (ha.callResult callee).le⟩
  nil := trivial
  append _ _ := trivial
  receiver _ _ _ _ := trivial
  argument _ _ _ _ _ := trivial
  fieldStore _ _ _ _ := trivial
  result _ := trivial

theorem seed_agree (ha : s.Alike φ s') (node : Node) :
    Agree (fun f f' => f.view φ = f'.view φ) (s.seed node) (s'.seed node) := by
  cases node with
  | entry => exact .ok ha.entry
  | exit | block =>
      refine .ok ?_
      simp only [unreached, ha.method, ha.body]
  | exception handler receives =>
      cases receives with
      | false => exact .ok ha.entry
      | true =>
          apply Agree.of_map_eq
          simp only [seed, caught, if_true, map_mapError]
          rw [← Frame.push_view, ← Frame.push_view, ha.entry]

theorem seeds_agree (ha : s.Alike φ s') (g : Graph) :
    Agree (fun facts facts' => facts.map (Frame.view φ) = facts'.map (Frame.view φ))
      (s.dataflow g).seeds (s'.dataflow g).seeds := by
  refine (Agree.mapM fun n _ => ha.seed_agree (g.nodes.getD n .exit)).imp fun facts facts' h => ?_
  induction h with
  | nil => rfl
  | cons hd _ ih => rw [List.map_cons, List.map_cons, hd, ih]

end Alike

/-- Frames for some nodes that lie above the seeds and are closed under the edges out of these
nodes. The depth of what is sent along an edge is that of the frame it is sent to, unless an
exception is thrown. -/
structure Enclosure (s : Scope) (g : Graph) (nodes : List Nat) (bound : Nat → Frame) : Prop where
  entry : Graph.entry ∈ nodes
  entry_depth : (bound Graph.entry).depth = 0
  trim : ∀ n ∈ nodes, (bound n).Trim s.shape
  seed : ∀ n ∈ nodes, ∀ f, s.seed (g.nodes.getD n .exit) = .ok f → f ≤ bound n
  thrown : ∀ n ∈ nodes, ∀ values, (g.nodes.getD n .exit).thrown? = some values →
    (bound n).depth = values.length
  closed : ∀ n ∈ nodes, (bound n).Live s.shape → ∃ out,
    (s.dataflow g).transfer n (bound n) = .ok out ∧ ∀ t ∈ g.successors n, t ∈ nodes ∧
      arrive (g.nodes.getD t .exit) out ≤ bound t ∧
      ((g.nodes.getD t .exit).thrown? = none → out.depth = (bound t).depth)

def Inside (φ : Nullity.View) (s : Scope) (g : Graph) (nodes : List Nat) (bound : Nat → Frame)
    (n : Nat) (f : Frame) : Prop :=
  s.Proper g n f ∧ (n ∈ nodes → f.view φ ≤ (bound n).view φ)

def Enclosed (φ : Nullity.View) (s : Scope) (g : Graph) (nodes : List Nat) (bound : Nat → Frame)
    (n : Nat) (f : Frame) : Prop :=
  s.Proper g n f ∧ n ∈ nodes ∧ f.Rel s.shape φ.Traced (bound n)

variable {nodes : List Nat} {bound : Nat → Frame}

theorem arrive_rel {sh : Shape} {r : Nullity → Nullity → Prop} {f f' : Frame}
    (h : f.Rel sh r f') (node : Node) : (arrive node f).Rel sh r (arrive node f') := by
  cases node with
  | exception => exact h.clearStack
  | entry | exit | block => exact h

namespace Enclosure

theorem seed_inside (he : s'.Enclosure g nodes bound) (ha : s.Alike φ s') {n : Nat} {f : Frame}
    (h : s.seed (g.nodes.getD n .exit) = .ok f) : s.Inside φ g nodes bound n f := by
  refine ⟨seed_proper h, fun hn => ?_⟩
  obtain ⟨f', hf', hview⟩ := (ha.seed_agree _).ok_left h
  rw [hview]
  exact Frame.view_mono (he.seed n hn f' hf')

/-- What is merged into a fact on the way out of an enclosed node leaves it enclosed. The depth is
known beforehand where an exception is thrown, and elsewhere both frames bring it along. -/
theorem merge_enclosed (he : s'.Enclosure g nodes bound) (ha : s.Alike φ s') {t : Nat}
    {f out out' : Frame} (hf : s.Inside φ g nodes bound t f) (ht : t ∈ nodes)
    (hrel : out.Rel s.shape φ.Traced out') (hle : arrive (g.nodes.getD t .exit) out' ≤ bound t)
    (hdepth : (g.nodes.getD t .exit).thrown? = none → out'.depth = (bound t).depth) :
    ∃ m, f.merge (arrive (g.nodes.getD t .exit) out) = .ok m ∧ s.Enclosed φ g nodes bound t m := by
  have hlive := hrel.traced_left
  have harrive := arrive_rel hrel (g.nodes.getD t .exit)
  have hm : f.merge (arrive (g.nodes.getD t .exit) out) =
      .ok (f.join (arrive (g.nodes.getD t .exit) out)) :=
    Frame.merge_eq_ok_iff.2 ⟨hf.1.1.shape.trans harrive.left.symm, rfl⟩
  obtain ⟨hproper, hlive'⟩ := merge_proper hf.1 hlive hm
  have hview : (f.join (arrive (g.nodes.getD t .exit) out)).view φ ≤ (bound t).view φ := by
    rw [Frame.view_join]
    exact Frame.join_le (hf.2 ht) (harrive.view_le.trans (Frame.view_mono hle))
  have hd : (f.join (arrive (g.nodes.getD t .exit) out)).depth = (bound t).depth := by
    cases hthrown : (g.nodes.getD t .exit).thrown? with
    | none =>
        have hfle : f.depth ≤ (bound t).depth := (Frame.le_iff.1 (hf.2 ht)).1
        have hout := hrel.depth.trans (hdepth hthrown)
        rw [(Node.land_plain hthrown out).2]
        simp only [Frame.join]
        omega
    | some values =>
        rw [he.thrown t ht values hthrown, ← hproper.2 values hthrown]
        exact hproper.1.take_length.symm
  refine ⟨_, hm, hproper, ht, hlive'.traced_view ?_ hd hview⟩
  rw [ha.shape_eq]
  exact he.trim t ht

theorem confining (he : s'.Enclosure g nodes bound) (ha : s.Alike φ s')
    (hg : Graph.ofBody s.body = .ok g) :
    (s.dataflow g).Confining (s.Inside φ g nodes bound) (s.Enclosed φ g nodes bound) where
  seed h := he.seed_inside ha h
  first {f} h := by
    have hin := he.seed_inside ha h
    refine ⟨hin.1, he.entry, ?_⟩
    obtain rfl := dataflow_seed_entry hg h
    refine s.entry_live.traced_view ?_ he.entry_depth.symm (hin.2 he.entry)
    rw [ha.shape_eq]
    exact he.trim _ he.entry
  within h := ⟨h.1, fun _ => h.2.2.view_le⟩
  visit {n f} h := by
    obtain ⟨_, hn, hrel⟩ := h
    have hlive := hrel.traced_right
    rw [ha.shape_eq] at hlive
    obtain ⟨out', ht', hclosed⟩ := he.closed n hn hlive
    obtain ⟨findings', hx'⟩ := dataflow_transfer.1 ht'
    obtain ⟨⟨out, findings⟩, hx, hout⟩ := (ha.matching.executeNode _ hrel).ok_right hx'
    refine ⟨out, dataflow_transfer.2 ⟨findings, hx⟩, fun t ht fact hfact => ?_⟩
    obtain ⟨htn, hle, hdepth⟩ := hclosed t ht
    obtain ⟨m, hm, hmet⟩ := he.merge_enclosed ha hfact htn hout hle hdepth
    exact ⟨m, dataflow_merge.2 hm, hmet⟩

end Enclosure

def factAt (s : Scope) (sol : Solution) (n : Nat) : Frame := sol.facts.getD n s.unreached

namespace Completed

theorem getElem?_factAt (hg : Graph.ofBody s.body = .ok g) (h : s.Completed g sol) {n : Nat}
    (hn : n ∈ sol.trail) : sol.facts[n]? = some (s.factAt sol n) := by
  have hguarded := h.guarded hg
  have hlt : n < sol.facts.length := hguarded.length ▸ hguarded.inside n (.inl hn)
  rw [factAt, List.getD_eq_getElem?_getD, List.getElem?_eq_getElem hlt, Option.getD_some]

theorem factAt_live (hg : Graph.ofBody s.body = .ok g) (h : s.Completed g sol) {n : Nat}
    (hn : n ∈ sol.trail) : (s.factAt sol n).Live s.shape :=
  (h.guarded hg).used n _ (.inl hn) (h.getElem?_factAt hg hn)

theorem enclosure (hg : Graph.ofBody s.body = .ok g) (h : s.Completed g sol)
    (hd : s.DepthConsistent g sol) : s.Enclosure g sol.trail (s.factAt sol) where
  entry := h.entry_reached hg
  entry_depth := by
    have hf := h.getElem?_factAt hg (h.entry_reached hg)
    rw [h.entry_fact hg, Option.some.injEq] at hf
    rw [← hf]
    rfl
  trim n hn := (h.factAt_live hg hn).trim
  seed n hn f hf := by
    have hlt : n < g.nodes.length := (h.guarded hg).inside n (.inl hn)
    have hnode := List.getElem?_eq_getElem hlt
    obtain ⟨fact, seed, hfact, hseed, hle⟩ := h.fact_above_seed hg hnode
    rw [h.getElem?_factAt hg hn, Option.some.injEq] at hfact
    rw [getD_node hnode, hseed, Except.ok.injEq] at hf
    rw [hfact, ← hf]
    exact hle
  thrown n hn values hv := by
    have hproper := (h.guarded hg).proper n _ (h.getElem?_factAt hg hn)
    rw [← hproper.2 values hv, hproper.1.take_length]
  closed n hn _ := by
    obtain ⟨fact, out, hfact, ht⟩ := h.reached_transfer hg hn
    have hfact' := hfact
    rw [h.getElem?_factAt hg hn, Option.some.injEq] at hfact'
    subst hfact'
    refine ⟨out, ht, fun t hs => ?_⟩
    obtain ⟨hreached, fact', hf', hle⟩ := h.successor_fact hg hn hfact ht hs
    have hf := hf'
    rw [h.getElem?_factAt hg hreached, Option.some.injEq] at hf
    subst hf
    refine ⟨hreached, hle, fun hthrown => ?_⟩
    exact hd n hn t hs hthrown _ hfact out (toOption_eq_some.2 ht) _ hf'

theorem fact_enclosed (hg : Graph.ofBody s.body = .ok g) (h : s.Completed g sol)
    (ha : s.Alike φ s') (he : s'.Enclosure g nodes bound) {n : Nat} (hn : n ∈ sol.trail) :
    n ∈ nodes ∧ (s.factAt sol n).Rel s.shape φ.Traced (bound n) := by
  have hend := h.confined (he.confining ha hg).preserving
  exact (hend.met n _ (.inl hn) (h.getElem?_factAt hg hn)).2

theorem depthConsistent (hg : Graph.ofBody s.body = .ok g) (h : s.Completed g sol)
    (ha : s.Alike φ s') (he : s'.Enclosure g nodes bound) : s.DepthConsistent g sol := by
  intro n hn t ht hthrown fact hf out hout fact' hf'
  rw [Option.mem_def, toOption_eq_some] at hout
  have hreached := (h.successor_fact hg hn hf hout ht).1
  rw [Option.mem_def, h.getElem?_factAt hg hn, Option.some.injEq] at hf
  rw [Option.mem_def, h.getElem?_factAt hg hreached, Option.some.injEq] at hf'
  subst hf
  subst hf'
  obtain ⟨hmem, hrel⟩ := h.fact_enclosed hg ha he hn
  obtain ⟨_, hrel'⟩ := h.fact_enclosed hg ha he hreached
  obtain ⟨bounded, hb, hclosed⟩ := he.closed n hmem (ha.shape_eq ▸ hrel.traced_right)
  obtain ⟨findings, hx⟩ := dataflow_transfer.1 hout
  obtain ⟨_, hx'⟩ := dataflow_transfer.1 hb
  obtain ⟨_, hx'', hout'⟩ := (ha.matching.executeNode _ hrel).ok_left hx
  obtain rfl := Except.ok.inj (hx'.symm.trans hx'')
  exact hout'.depth.trans (((hclosed t ht).2.2 hthrown).trans hrel'.depth.symm)

/-- Two runs that have ended, one of them consistent in its depths, have met the same nodes with
facts that the view does not tell apart. -/
theorem same_view (hg : Graph.ofBody s.body = .ok g) (ha : s.Alike φ s')
    (h : s.Completed g sol) (h' : s'.Completed g sol') (hd : s'.DepthConsistent g sol') :
    (∀ n, n ∈ sol.trail ↔ n ∈ sol'.trail) ∧
      ∀ n : Nat, sol.facts[n]?.map (Frame.view φ) = sol'.facts[n]?.map (Frame.view φ) := by
  have hg' : Graph.ofBody s'.body = .ok g := ha.body ▸ hg
  have he' := h'.enclosure hg' hd
  have he := h.enclosure hg (h.depthConsistent hg ha he')
  have htrail (n : Nat) : n ∈ sol.trail ↔ n ∈ sol'.trail :=
    ⟨fun hn => (h.fact_enclosed hg ha he' hn).1, fun hn => (h'.fact_enclosed hg' ha.symm he hn).1⟩
  refine ⟨htrail, fun n => ?_⟩
  by_cases hn : n ∈ sol.trail
  · have hn' := (htrail n).1 hn
    have hle := (h.fact_enclosed hg ha he' hn).2.view_le
    have hle' := (h'.fact_enclosed hg' ha.symm he hn').2.view_le
    rw [h.getElem?_factAt hg hn, h'.getElem?_factAt hg' hn', Option.map_some, Option.map_some,
      le_antisymm hle hle']
  -- What was never reached still has its seed.
  · obtain ⟨facts, hseeds, hr⟩ := h
    obtain ⟨facts', hseeds', hr'⟩ := h'
    have hl := dataflow_lawful hg
    have hl' := dataflow_lawful hg'
    have hold := Dataflow.reachable_unmet hl (Dataflow.start_guarded hl hseeds) hr n hn
      List.not_mem_nil
    have hold' := Dataflow.reachable_unmet hl' (Dataflow.start_guarded hl' hseeds') hr' n
      (fun hn' => hn ((htrail n).2 hn')) List.not_mem_nil
    simp only [Solution.state, Dataflow.start] at hold hold'
    rw [hold, hold']
    obtain ⟨_, hf, hseed⟩ := (ha.seeds_agree g).ok_left hseeds
    obtain rfl := Except.ok.inj (hf.symm.trans hseeds')
    rw [← List.getElem?_map, ← List.getElem?_map, hseed]

theorem loop_ends (hg : Graph.ofBody s.body = .ok g) (ha : s.Alike φ s')
    (h' : s'.Completed g sol') (hd : s'.DepthConsistent g sol') :
    ∃ facts trail, (s.dataflow g).solve s.height = .ok ⟨facts, [], trail⟩ ∧
      ∀ findings, s.Completed g ⟨facts, trail, findings⟩ := by
  obtain ⟨_, hseeds', _⟩ := id h'
  obtain ⟨seeds, hseeds, _⟩ := (ha.seeds_agree g).ok_right hseeds'
  have hc := (h'.enclosure (ha.body ▸ hg) hd).confining ha hg
  have hends := Dataflow.solve_ends (dataflow_lawful hg) hseeds s.slots_le_height
  obtain ⟨⟨facts, queue, trail⟩, hok⟩ :=
    hends.ok_of_confined hc (Dataflow.start_confined hc.preserving hseeds)
  obtain ⟨hr, hq⟩ := hends.reachable hok
  simp only at hq
  subst hq
  exact ⟨facts, trail, hok, fun _ => ⟨seeds, hseeds, hr⟩⟩

end Completed

end Scope

end NullFlow
