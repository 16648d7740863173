import NullFlow.Proofs.GraphPasses

namespace NullFlow

namespace MethodBody

variable {body : MethodBody}

theorem forall_mem_references : (∀ r ∈ body.references, body.HasOffset r.1) ↔
    (∀ x ∈ body.instructions, ∀ target ∈ x.operand.branchTargets, body.HasOffset target) ∧
    ∀ h ∈ body.handlers, body.HasOffset h.handlerStart ∧
      ∀ start, h.filterStart = some start → body.HasOffset start := by
  simp only [references, branchReferences, handlerReferences, ExceptionHandler.starts,
    List.forall_mem_append, List.forall_mem_flatMap, List.forall_mem_map, List.forall_mem_cons,
    Option.mem_toList]

theorem resolve_eq_error_iff {α : Type} {l : List (Nat × GraphError)} {a : α} {e : GraphError} :
    body.resolve l a = .error e ↔ ∃ earlier offset later, l = earlier ++ (offset, e) :: later ∧
      (∀ r ∈ earlier, body.HasOffset r.1) ∧ ¬ body.HasOffset offset := by
  have hfirst : body.resolve l a = .error e ↔ ∃ offset, body.dangling? l = some (offset, e) := by
    rw [resolve]
    cases body.dangling? l with
    | none => simp
    | some r =>
        obtain ⟨offset, e'⟩ := r
        simp
  simp only [hfirst, dangling?, List.find?_eq_some_iff_append]
  constructor
  · rintro ⟨offset, hmissing, earlier, later, hsplit, hearlier⟩
    exact ⟨earlier, offset, later, hsplit, by simpa using hearlier, by simpa using hmissing⟩
  · rintro ⟨earlier, offset, later, hsplit, hearlier, hmissing⟩
    exact ⟨offset, by simpa using hmissing, earlier, later, hsplit, by simpa using hearlier⟩

end MethodBody

namespace Graph

variable {body : MethodBody}

/-- What decides whether the graph of a body is built: each branch target and each start of a handler
or filter has to be the offset of an instruction, and nothing else matters. Once the leaders are found,
every index that is used on the way is that of an instruction, and only a way into a handler can still be
missing. -/
structure Resolution (body : MethodBody) : Prop where
  ok_iff : (∃ g, ofBody body = .ok g) ↔
    (∀ x ∈ body.instructions, ∀ target ∈ x.operand.branchTargets, body.HasOffset target) ∧
    ∀ h ∈ body.handlers, body.HasOffset h.handlerStart ∧
      ∀ start, h.filterStart = some start → body.HasOffset start
  error_iff : ∀ e, ofBody body = .error e ↔ ∃ earlier offset later,
    body.references = earlier ++ (offset, e) :: later ∧
    (∀ r ∈ earlier, body.HasOffset r.1) ∧ ¬ body.HasOffset offset
  borders : ∀ body' : MethodBody, body'.instructions = body.instructions →
    body'.handlers.map (·.starts) = body.handlers.map (·.starts) →
    ∀ e, ofBody body' = .error e ↔ ofBody body = .error e
  flow : ∀ leaders, body.findLeaders = .ok leaders → ∀ blocks node b,
    ∃ edges, edgesFrom body blocks node b = .ok edges
  within : ∀ leaders, body.findLeaders = .ok leaders →
    Block.Tiles body.instructions.length 0
      (MethodBody.blocksFrom body.instructions.length leaders) ∧
    ∀ offset index, body.indexOf? offset = some index → index < body.instructions.length

theorem findLeaders_ok {leaders : List Nat} (h : body.findLeaders = .ok leaders) :
    leaders = body.leaders ∧ ∀ r ∈ body.branchReferences, body.HasOffset r.1 := by
  rw [MethodBody.findLeaders_eq] at h
  exact (MethodBody.resolve_eq_ok_iff.1 h).symm

theorem ofBody_resolution (body : MethodBody) : Resolution body where
  ok_iff := ofBody_isOk_iff.trans MethodBody.forall_mem_references
  error_iff e := by
    rw [ofBody_eq_resolve]
    exact MethodBody.resolve_eq_error_iff
  borders body' hinstructions hstarts e := by
    have hreferences : body'.references = body.references := by
      simp only [MethodBody.references, MethodBody.branchReferences, MethodBody.handlerReferences,
        hinstructions, List.flatMap_def, hstarts]
    have hoffsets (offset : Nat) : body'.HasOffset offset ↔ body.HasOffset offset := by
      rw [MethodBody.HasOffset, hinstructions]
      rfl
    simp only [ofBody_eq_resolve, MethodBody.resolve_eq_error_iff, hreferences, hoffsets]
  flow leaders hleaders _ _ _ := ⟨_, edgesFrom_of_resolved (findLeaders_ok hleaders).2⟩
  within leaders hleaders := by
    rw [(findLeaders_ok hleaders).1]
    exact ⟨body.blocks_tile, fun _ _ hindex => (MethodBody.indexOf?_eq_some_iff.1 hindex).lt⟩

/-- Besides the second entry of the switch, the target that a plain instruction carries and the start
of the filter dangle; the region borders at 70 and above do not matter. -/
def stray : MethodBody where
  maxStack := 1
  locals := []
  instructions := [
    ⟨4, .ldnull, .none⟩, ⟨9, .switch, .targets [4, 30]⟩, ⟨4, .nop, .target 50⟩, ⟨12, .ret, .none⟩]
  handlers := [⟨.filter, 70, 80, 4, 90, some 60⟩]

theorem stray_resolution : ofBody stray = .error (.branch 9 30) ∧
    ofBody { stray with instructions := [⟨4, .ret, .none⟩] } = .error (.missing 60) := by
  constructor
  · refine ((ofBody_resolution stray).error_iff _).2 ⟨[(4, .branch 9 4)], 30, _, rfl, ?_, ?_⟩
    · decide
    · decide
  · refine ((ofBody_resolution _).error_iff _).2 ⟨[(4, .missing 4)], 60, _, rfl, ?_, ?_⟩
    · decide
    · decide

end Graph

end NullFlow
