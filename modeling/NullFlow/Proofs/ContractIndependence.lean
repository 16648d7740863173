import NullFlow.Proofs.Enclosure

namespace NullFlow

def Issue.onNull : Issue → Bool
  | .nullReceiver _ => true
  | _ => false

/-- The finding reads as the use of an object that is certainly null. -/
def Finding.AccessesNull (f : Finding) : Prop :=
  ∃ member, f.message = "accessing " ++ member ++ " from null object"

theorem Finding.accessesNull_iff {f : Finding} : f.AccessesNull ↔ f.issue.onNull := by
  unfold AccessesNull message
  cases f.issue with
  | nullReceiver member => exact ⟨fun _ => rfl, fun _ => ⟨member.text, rfl⟩⟩
  | nullInto sink | maybeNullInto sink =>
      -- The other messages start with another letter.
      refine ⟨?_, fun h => nomatch h⟩
      rintro ⟨member, h⟩
      have hhead := congrArg (fun text : String => text.toList.head?) h
      cases sink <;> simp [Issue.message] at hhead

instance (f : Finding) : Decidable f.AccessesNull :=
  decidable_of_iff _ Finding.accessesNull_iff.symm

theorem Finding.filter_accessesNull (l : List Finding) :
    l.filter (fun f => decide f.AccessesNull) = l.filter fun f => f.issue.onNull := by
  refine List.filter_congr fun f _ => ?_
  rw [Bool.eq_iff_iff, decide_eq_true_iff, accessesNull_iff]

/-- Null stands in the same slots of both frames. -/
def Frame.SameNulls (f f' : Frame) : Prop := ∀ i : Nat,
  (f.stack[i]? = some .null ↔ f'.stack[i]? = some .null) ∧
  (f.locals[i]? = some .null ↔ f'.locals[i]? = some .null) ∧
  (f.args[i]? = some .null ↔ f'.args[i]? = some .null)

theorem Slots.null_iff_of_nulls {l l' : List Nullity}
    (h : l.map Nullity.View.nulls = l'.map Nullity.View.nulls) (i : Nat) :
    l[i]? = some .null ↔ l'[i]? = some .null := by
  have hnull (l : List Nullity) :
      l[i]? = some .null ↔ (l.map Nullity.View.nulls)[i]? = some .null := by
    rw [List.getElem?_map, Option.map_eq_some_iff]
    constructor
    · intro hi
      exact ⟨_, hi, rfl⟩
    · rintro ⟨v, hi, hv⟩
      rw [hi, Nullity.View.nulls_eq_null.1 hv]
  rw [hnull l, hnull l', h]

theorem Frame.sameNulls_of_view {f f' : Frame} (h : f.view .nulls = f'.view .nulls) :
    f.SameNulls f' := fun i =>
  ⟨Slots.null_iff_of_nulls (congrArg Frame.stack h) i,
    Slots.null_iff_of_nulls (congrArg Frame.locals h) i,
    Slots.null_iff_of_nulls (congrArg Frame.args h) i⟩

namespace Scope

variable {s s' : Scope} {g : Graph} {sol sol' : Solution}

theorem alike_nulls (s : Scope) (c : Contracts) : Alike .nulls { s with contracts := c } s where
  method := rfl
  body := rfl
  fieldValue ref := by
    unfold fieldValue
    split <;> split <;> rfl
  callResult callee := by
    unfold callResult
    split <;> split <;> rfl
  entry := by
    have hargs (s : Scope) : s.entryArgs.map Nullity.View.nulls =
        List.replicate s.method.argCount .unknown := by
      refine List.eq_replicate_iff.2 ⟨?_, fun v hv => ?_⟩
      · rw [List.length_map]
        exact congrArg Shape.args s.entry_live.shape
      · simp only [entryArgs, List.map_append, List.mem_append, List.mem_map] at hv
        rcases hv with ⟨w, hw, rfl⟩ | ⟨w, ⟨index, _, rfl⟩, rfl⟩
        · split at hw
          · rw [List.mem_singleton.1 hw]
            rfl
          · cases hw
        · split <;> rfl
    simp only [entry, Frame.withSlots, Frame.view, hargs]

theorem filter_onNull_flow (sink : Sink) (v : Nullity) (declared : Bool) :
    (if declared then Issue.ofFlow sink v else []).filter Issue.onNull = [] := by
  cases declared <;> cases v <;> rfl

theorem Alike.reporting (ha : s.Alike .nulls s') : s.Matching s'
    (fun a b => Nullity.View.nulls.Traced a b ∧ Nullity.View.nulls.Traced b a)
    (fun a b => a.filter Issue.onNull = b.filter Issue.onNull) where
  method := ha.method
  body := ha.body
  same v hv := ⟨ha.matching.same v hv, ha.matching.same v hv⟩
  fieldValue ref := ⟨ha.matching.fieldValue ref, ha.symm.matching.fieldValue ref⟩
  callResult callee := ⟨ha.matching.callResult callee, ha.symm.matching.callResult callee⟩
  nil := rfl
  append h h' := by rw [List.filter_append, List.filter_append, h, h']
  receiver operand {v w} h := by
    have hsee : Nullity.View.nulls v = Nullity.View.nulls w := le_antisymm h.1.2 h.2.2
    have hnull : v = .null ↔ w = .null := by
      rw [← Nullity.View.nulls_eq_null, hsee, Nullity.View.nulls_eq_null]
    simp only [Issue.ofReceiver, hnull]
  argument _ _ _ _ _ := by rw [filter_onNull_flow, filter_onNull_flow]
  fieldStore _ _ _ _ := by rw [fieldStore, fieldStore, filter_onNull_flow, filter_onNull_flow]
  result _ := by rw [filter_onNull_flow, filter_onNull_flow]

def SameAccesses (l l' : List Finding) : Prop :=
  l.filter (fun f => decide f.AccessesNull) = l'.filter fun f => decide f.AccessesNull

theorem sameAccesses_flatten {l l' : List (List Finding)} (h : List.Forall₂ SameAccesses l l') :
    SameAccesses l.flatten l'.flatten := by
  induction h with
  | nil => rfl
  | cons hd _ ih =>
      rw [SameAccesses] at hd ih ⊢
      rw [List.flatten_cons, List.flatten_cons, List.filter_append, List.filter_append, hd, ih]

theorem reporting_accesses : Matching.Reporting
    (fun a b => a.filter Issue.onNull = b.filter Issue.onNull) SameAccesses where
  nil := rfl
  append offset {a b l l'} hq hl := by
    have hmap (a : List Issue) :
        (a.map (Finding.mk offset)).filter (fun f => decide f.AccessesNull) =
          (a.filter Issue.onNull).map (Finding.mk offset) := by
      rw [Finding.filter_accessesNull]
      exact List.filter_map
    rw [SameAccesses] at hl ⊢
    rw [List.filter_append, List.filter_append, hl, hmap, hmap, hq]

theorem executeNode_accesses (hg : Graph.ofBody s.body = .ok g) (ha : s.Alike .nulls s')
    (h : s.Completed g sol) (h' : s'.Completed g sol') (hd : s'.DepthConsistent g sol') {n : Nat}
    (hn : n ∈ sol.trail) :
    Agree (fun a b => SameAccesses a.2 b.2)
      (s.executeNode (g.nodes.getD n .exit) (s.factAt sol n))
      (s'.executeNode (g.nodes.getD n .exit) (s'.factAt sol' n)) := by
  have hg' : Graph.ofBody s'.body = .ok g := ha.body ▸ hg
  obtain ⟨htrail, hview⟩ := h.same_view hg ha h' hd
  have hn' := (htrail n).1 hn
  have hlive' := h'.factAt_live hg' hn'
  rw [← ha.shape_eq] at hlive'
  have hsee := hview n
  rw [h.getElem?_factAt hg hn, h'.getElem?_factAt hg' hn', Option.map_some, Option.map_some,
    Option.some.injEq] at hsee
  have hrel := (h.factAt_live hg hn).traced_both hlive' hsee
  exact (ha.reporting.executeNode_reports reporting_accesses _ hrel).imp fun _ _ hab => hab.2

theorem report_accesses (hg : Graph.ofBody s.body = .ok g) (ha : s.Alike .nulls s')
    (h : s.Completed g sol) (h' : s'.Completed g sol') (hd : s'.DepthConsistent g sol') :
    Agree SameAccesses (s.report g sol.state) (s'.report g sol'.state) := by
  have htrail := (h.same_view hg ha h' hd).1
  have hreached : sol'.state.reached = sol.state.reached := by
    funext n
    rw [Bool.eq_iff_iff, Dataflow.State.reached, Dataflow.State.reached, List.contains_iff_mem,
      List.contains_iff_mem]
    exact (htrail n).symm
  unfold report
  rw [hreached]
  refine Agree.bind (R := List.Forall₂ SameAccesses) (Agree.mapM fun n hn => ?_)
    fun l l' hl => .pure (sameAccesses_flatten hl)
  have hmem : n ∈ sol.trail := List.contains_iff_mem.1 (List.mem_filter.1 hn).2
  exact (executeNode_accesses hg ha h h' hd hmem).bind fun a b hab => .pure hab

/-- Under other contracts the method is solved as well: the same nodes are reached, with the same
depths and the same slots that are certainly null, and the same uses of null objects are found. -/
theorem solve_contracts (c : Contracts) (hg : Graph.ofBody s.body = .ok g)
    (h : s.solve g = .ok sol) (hd : s.DepthConsistent g sol) :
    ∃ sol', { s with contracts := c }.solve g = .ok sol' ∧
      (∀ n, sol'.reached n = sol.reached n) ∧
      sol'.facts.map Frame.depth = sol.facts.map Frame.depth ∧
      (∀ n : Nat, ∀ fact' ∈ sol'.facts[n]?, ∀ fact ∈ sol.facts[n]?, fact'.SameNulls fact) ∧
      sol'.findings.filter (fun f => decide f.AccessesNull) =
        sol.findings.filter fun f => decide f.AccessesNull := by
  have ha := s.alike_nulls c
  have hg' : Graph.ofBody (Scope.body { s with contracts := c }) = .ok g := hg
  have hsol := solve_completed hg h
  obtain ⟨facts, trail, hloop, hend⟩ := Completed.loop_ends hg' ha hsol hd
  obtain ⟨findings, hreport, hsame⟩ :=
    (report_accesses hg' ha (hend []) hsol hd).ok_right (solve_report h)
  obtain ⟨htrail, hview⟩ := (hend findings).same_view hg' ha hsol hd
  refine ⟨⟨facts, trail, findings⟩, solve_eq_ok.2 ⟨_, hloop, rfl, rfl, hreport⟩, ?_, ?_, ?_, hsame⟩
  · intro n
    rw [Bool.eq_iff_iff, Solution.reached_iff, Solution.reached_iff]
    exact htrail n
  · apply List.ext_getElem?
    intro n
    have hdepth := congrArg (Option.map Frame.depth) (hview n)
    rw [Option.map_map, Option.map_map] at hdepth
    rw [List.getElem?_map, List.getElem?_map]
    exact hdepth
  · intro n fact' hf' fact hf
    have hsee := hview n
    rw [Option.mem_def.1 hf, Option.mem_def.1 hf', Option.map_some, Option.map_some,
      Option.some.injEq] at hsee
    exact Frame.sameNulls_of_view hsee

def nextCall : MethodRef :=
  ⟨"Sample.Node", "get_Next", true, [], ⟨"Sample.Node", false⟩, false⟩

def headField : FieldRef := ⟨"Sample.Chain", "head", ⟨"Sample.Node", false⟩, false⟩

def relay : Scope where
  owner := "Sample.Chain"
  method := ⟨"Keep", ⟨"System.Void", true⟩, false, [⟨"node", ⟨"Sample.Node", false⟩, []⟩], [], none⟩
  body := {
    maxStack := 1
    locals := [⟨"Sample.Node", false⟩]
    instructions := [
      ⟨0, .ldarg0, .none⟩, ⟨1, .stloc0, .none⟩,
      ⟨2, .ldloc0, .none⟩, ⟨3, .callvirt, .method nextCall⟩, ⟨4, .stloc0, .none⟩,
      ⟨5, .ldloc0, .none⟩, ⟨6, .brtrue, .target 2⟩,
      ⟨7, .ldnull, .none⟩, ⟨8, .callvirt, .method nextCall⟩, ⟨9, .stsfld, .field headField⟩,
      ⟨10, .ldloc0, .none⟩, ⟨11, .stsfld, .field headField⟩,
      ⟨12, .ret, .none⟩]
    handlers := [] }
  contracts := .empty

def relayGraph : Graph := Graph.assemble relay.body

def relaySolution : Solution where
  facts := [
    ⟨[.unused], 0, [.null], [.unknown]⟩, ⟨[.unused], 0, [.unknown], [.unknown]⟩,
    ⟨[.unused], 0, [.null], [.unknown]⟩, ⟨[.unused], 0, [.unknown], [.unknown]⟩,
    ⟨[.unused], 0, [.unknown], [.unknown]⟩]
  trail := [1, 4, 3, 2, 0]
  findings := [⟨8, .nullReceiver (.property "Next")⟩]

def relayContracts : Contracts where
  methods := []
  parameters := [MemberName.parameter relay.fullName 0]
  fields := [headField.fullName]

def relayContracted : Solution where
  facts := [
    ⟨[.unused], 0, [.null], [.nonNull]⟩, ⟨[.unused], 0, [.unknown], [.nonNull]⟩,
    ⟨[.unused], 0, [.null], [.nonNull]⟩, ⟨[.unused], 0, [.unknown], [.nonNull]⟩,
    ⟨[.unused], 0, [.unknown], [.nonNull]⟩]
  trail := [1, 4, 3, 3, 2, 0]
  findings := [⟨8, .nullReceiver (.property "Next")⟩, ⟨9, .maybeNullInto .field⟩,
    ⟨11, .maybeNullInto .field⟩]

theorem relay_contracts : relay.DepthConsistent relayGraph relaySolution ∧
    Scope.solve { relay with contracts := relayContracts } relayGraph = .ok relayContracted ∧
    relayContracted.trail ≠ relaySolution.trail ∧
    (∀ n, relayContracted.reached n = relaySolution.reached n) ∧
    relayContracted.findings ≠ relaySolution.findings ∧
    relayContracted.findings.filter (fun f => decide f.AccessesNull) =
      relaySolution.findings.filter fun f => decide f.AccessesNull := by
  have hd : relay.DepthConsistent relayGraph relaySolution := by decide +kernel
  obtain ⟨sol', hsol, hreached, _, _, hsame⟩ :=
    solve_contracts (s := relay) (g := relayGraph) relayContracts rfl rfl hd
  obtain rfl : sol' = relayContracted := Except.ok.inj (hsol.symm.trans rfl)
  exact ⟨hd, hsol, by decide, hreached, by decide, hsame⟩

end Scope

end NullFlow
