import Mathlib.Data.List.Basic
import NullFlow.Proofs.Blocks

namespace NullFlow

def ExceptionHandler.starts (h : ExceptionHandler) : List Nat :=
  h.handlerStart :: h.filterStart.toList

namespace MethodBody

variable {body : MethodBody} {offset : Nat}

def HasOffset (body : MethodBody) (offset : Nat) : Prop :=
  ∃ x ∈ body.instructions, x.offset = offset

instance (body : MethodBody) (offset : Nat) : Decidable (body.HasOffset offset) :=
  inferInstanceAs (Decidable (∃ x ∈ _, _))

theorem indexOf?_eq_none_iff : body.indexOf? offset = none ↔ ¬ body.HasOffset offset := by
  rw [indexOf?, indexOf?_go_eq_none, HasOffset, not_exists]
  simp only [not_and, ne_eq]

theorem HasOffset.index (h : body.HasOffset offset) : ∃ index, body.indexOf? offset = some index :=
  Option.ne_none_iff_exists'.1 (mt indexOf?_eq_none_iff.1 (not_not.2 h))

/-- The branch targets of the instructions, whatever their opcodes, each with the complaint if it
dangles. -/
def branchReferences (body : MethodBody) : List (Nat × GraphError) :=
  body.instructions.flatMap fun x =>
    x.operand.branchTargets.map fun target => (target, .branch x.offset target)

def handlerReferences (body : MethodBody) : List (Nat × GraphError) :=
  (body.handlers.flatMap (·.starts)).map fun start => (start, .missing start)

def references (body : MethodBody) : List (Nat × GraphError) :=
  body.branchReferences ++ body.handlerReferences

def dangling? (body : MethodBody) (references : List (Nat × GraphError)) :
    Option (Nat × GraphError) :=
  references.find? fun r => !decide (body.HasOffset r.1)

theorem dangling?_eq_none_iff {l : List (Nat × GraphError)} :
    body.dangling? l = none ↔ ∀ r ∈ l, body.HasOffset r.1 := by
  simp [dangling?]

/-- What a pass that needs these references comes to: what it makes of them, or the complaint about the
first that dangles. -/
def resolve {α : Type} (body : MethodBody) (references : List (Nat × GraphError)) (made : α) :
    Except GraphError α :=
  match body.dangling? references with
  | none => .ok made
  | some r => .error r.2

section Resolve

variable {α β : Type} {l l' : List (Nat × GraphError)} {a b : α}

theorem resolve_of_forall (h : ∀ r ∈ l, body.HasOffset r.1) (a : α) : body.resolve l a = .ok a := by
  rw [resolve, dangling?_eq_none_iff.2 h]

theorem resolve_eq_ok_iff : body.resolve l a = .ok b ↔ (∀ r ∈ l, body.HasOffset r.1) ∧ b = a := by
  rw [← dangling?_eq_none_iff, resolve]
  cases body.dangling? l <;> simp [eq_comm]

theorem resolve_congr (h : (∀ r ∈ l, body.HasOffset r.1) → a = b) :
    body.resolve l a = body.resolve l b := by
  rw [resolve, resolve]
  cases hd : body.dangling? l with
  | none => rw [h (dangling?_eq_none_iff.1 hd)]
  | some r => rfl

theorem resolve_bind {k : α → Except GraphError β} {b : β}
    (h : (∀ r ∈ l, body.HasOffset r.1) → k a = body.resolve l' b) :
    (body.resolve l a >>= k) = body.resolve (l ++ l') b := by
  have happend : body.dangling? (l ++ l') = (body.dangling? l).or (body.dangling? l') :=
    List.find?_append
  rw [resolve, resolve, happend]
  cases hd : body.dangling? l with
  | none => exact h (dangling?_eq_none_iff.1 hd)
  | some r => rfl

theorem resolve_bind_pure (f : α → β) :
    (body.resolve l a >>= fun a => pure (f a)) = body.resolve l (f a) := by
  rw [resolve, resolve]
  cases body.dangling? l <;> rfl

/-- Passes over parts make one pass over the whole. -/
theorem mapM_eq_resolve {γ : Type} {pass : γ → Except GraphError α} {make : γ → α}
    {needs : γ → List (Nat × GraphError)} {parts : List γ}
    (h : ∀ c ∈ parts, pass c = body.resolve (needs c) (make c)) :
    parts.mapM pass = body.resolve (parts.flatMap needs) (parts.map make) := by
  induction parts with
  | nil => rfl
  | cons c rest ih =>
      have hrest := ih fun c hc => h c (List.mem_cons_of_mem _ hc)
      rw [List.mapM_cons, h c List.mem_cons_self, hrest]
      exact resolve_bind fun _ => resolve_bind_pure (make c :: ·)

end Resolve

theorem lookup_eq_resolve {α : Type} {k : Nat → α} {complaint : GraphError} :
    (match body.indexOf? offset with
      | some index => .ok (k index)
      | none => .error complaint) =
      body.resolve [(offset, complaint)] (k ((body.indexOf? offset).getD 0)) := by
  by_cases h : body.HasOffset offset
  · obtain ⟨index, hindex⟩ := h.index
    rw [resolve_of_forall (by simpa using h), hindex]
    rfl
  · simp [resolve, dangling?, h, indexOf?_eq_none_iff.2 h]

theorem filterMap_index {α : Type} {targets : List Nat} {k : Nat → α}
    (h : ∀ t ∈ targets, body.HasOffset t) : (targets.filterMap fun t => (body.indexOf? t).map k) =
      targets.map fun t => k ((body.indexOf? t).getD 0) := by
  rw [← List.filterMap_eq_map]
  refine List.filterMap_congr fun t ht => ?_
  obtain ⟨index, hindex⟩ := (h t ht).index
  simp [hindex]

theorem branchIndex_eq {source target : Nat} : body.branchIndex source target =
    body.resolve [(target, .branch source target)] ((body.indexOf? target).getD 0) :=
  lookup_eq_resolve

theorem mapM_lookup {α : Type} {pass : Nat → Except GraphError α} {k : Nat → α}
    {complaint : Nat → GraphError} {targets : List Nat}
    (h : ∀ t, pass t = body.resolve [(t, complaint t)] (k ((body.indexOf? t).getD 0))) :
    targets.mapM pass = body.resolve (targets.map fun t => (t, complaint t))
      (targets.filterMap fun t => (body.indexOf? t).map k) := by
  rw [mapM_eq_resolve fun t _ => h t, ← List.map_eq_flatMap]
  apply resolve_congr
  intro hall
  rw [filterMap_index]
  simpa using hall

def ledBy (body : MethodBody) (x : Instruction) (index : Nat) : List Nat :=
  x.operand.branchTargets.filterMap body.indexOf? ++
    if x.opcode.splitsBlock ∧ index + 1 < body.instructions.length then [index + 1] else []

theorem leadersOf_eq {x : Instruction} {index : Nat} : body.leadersOf x index =
    body.resolve (x.operand.branchTargets.map fun t => (t, .branch x.offset t))
      (body.ledBy x index) := by
  have htargets : x.operand.branchTargets.mapM (body.branchIndex x.offset) =
      body.resolve (x.operand.branchTargets.map fun t => (t, .branch x.offset t))
        (x.operand.branchTargets.filterMap fun t => (body.indexOf? t).map id) :=
    mapM_lookup fun _ => branchIndex_eq
  simp only [Option.map_id_fun, id_eq] at htargets
  rw [leadersOf, htargets]
  exact resolve_bind_pure (fun targets => targets ++ _)

theorem exists_mem_ledBy {k : Nat} (hk : k + 1 < body.instructions.length) :
    (∃ x index, body.instructions[index]? = some x ∧ k + 1 ∈ body.ledBy x index) ↔
      body.Splits k ∨ body.Targeted (k + 1) := by
  simp only [ledBy, List.mem_append, List.mem_filterMap, indexOf?_eq_some_iff]
  constructor
  · rintro ⟨x, index, hx, ⟨t, ht, hnames⟩ | hnext⟩
    · exact .inr ⟨x, List.mem_of_getElem? hx, t, ht, hnames⟩
    · obtain ⟨⟨hsplits, _⟩, hindex⟩ := List.mem_ite_nil_right.1 hnext
      obtain rfl : k = index := by simpa using hindex
      exact .inl ⟨x, hx, hsplits⟩
  · rintro (⟨x, hx, hsplits⟩ | ⟨x, hx, t, ht, hnames⟩)
    · exact ⟨x, k, hx, .inr (List.mem_ite_nil_right.2 ⟨⟨hsplits, hk⟩, List.mem_singleton_self _⟩)⟩
    · obtain ⟨index, hindex⟩ := List.mem_iff_getElem?.1 hx
      exact ⟨x, index, hindex, .inl ⟨t, ht, hnames⟩⟩

theorem findLeaders_eq (body : MethodBody) :
    body.findLeaders = body.resolve body.branchReferences body.leaders := by
  have hneeds : (body.instructions.zipIdx.flatMap fun e =>
      e.1.operand.branchTargets.map fun t => (t, GraphError.branch e.1.offset t)) =
      body.branchReferences := by
    rw [branchReferences]
    nth_rewrite 2 [← List.zipIdx_map_fst 0 body.instructions]
    rw [List.flatMap_map]
  have hmarked (k : Nat) (hk : k ∈ List.range body.instructions.length) :
      (0 :: (body.instructions.zipIdx.map fun e => body.ledBy e.1 e.2).flatten ++
        body.handlers.flatMap fun h => (boundaries h).filterMap body.indexOf?).contains k =
      body.startsBlock body.targets k := by
    rw [Bool.eq_iff_iff, List.contains_iff_mem]
    cases k with
    | zero => exact iff_of_true List.mem_cons_self rfl
    | succ k =>
        rw [startsBlock_succ_iff, ← or_assoc, ← exists_mem_ledBy (List.mem_range.1 hk),
          List.mem_append, mem_bordered]
        simp only [List.mem_cons, Nat.add_one_ne_zero, false_or, ← List.flatMap_def,
          List.mem_flatMap, Prod.exists, List.mem_zipIdx_iff_getElem?]
  rw [findLeaders]
  cases hempty : body.instructions.isEmpty with
  | true => simp [branchReferences, leaders, List.isEmpty_iff.1 hempty, resolve, dangling?]; rfl
  | false =>
      simp only [Bool.false_eq_true, if_false]
      rw [mapM_eq_resolve fun e _ => leadersOf_eq, hneeds]
      refine (resolve_bind_pure fun led => _).trans ?_
      rw [leaders, List.filter_congr hmarked]

end MethodBody

namespace Graph

variable {body : MethodBody} {blocks : List Block} {node start : Nat} {b : Block}
  {last : Instruction} {h : ExceptionHandler} {g : Graph}

def blockEdges (body : MethodBody) (blocks : List Block) (node : Nat) (b : Block) : List Edge :=
  match body.instructions[b.last]? with
  | none => []
  | some last =>
    onwardEdges body blocks node b last ++ last.operand.branchTargets.filterMap fun t =>
      (body.indexOf? t).map fun index => Edge.mk node (nodeOf blocks index) .branch

def handlerEdges (body : MethodBody) (blocks : List Block) (node : Nat) (h : ExceptionHandler)
    (start : Nat) : List Edge :=
  ((body.indexOf? start).toList.map fun index => Edge.mk node (nodeOf blocks index) .exception) ++
    inwardEdges body blocks node h

def assemble (body : MethodBody) : Graph :=
  let blocks := body.blocks
  let entries := body.handlerEntries
  let firstHandler := firstBlock + blocks.length
  let start := if body.instructions.isEmpty then [] else [Edge.mk entry (nodeOf blocks 0) .entry]
  let flow := blocks.zipIdx.flatMap fun (b, k) => blockEdges body blocks (firstBlock + k) b
  let handlers := entries.zipIdx.flatMap fun ((_, h, offset), k) =>
    handlerEdges body blocks (firstHandler + k) h offset
  { nodes := .entry :: .exit :: blocks.map .block ++
      entries.map fun (index, h, _) => .exception index h.kind.receivesException
    edges := Edge.sort (start ++ flow ++ handlers) }

theorem nodeAt_eq {offset : Nat} : nodeAt body blocks offset =
    body.resolve [(offset, .missing offset)] (nodeOf blocks ((body.indexOf? offset).getD 0)) :=
  MethodBody.lookup_eq_resolve

theorem edgesFrom_eq (hl : body.instructions[b.last]? = some last) :
    edgesFrom body blocks node b =
      body.resolve (last.operand.branchTargets.map fun t => (t, .missing t))
        (blockEdges body blocks node b) := by
  have htarget (t : Nat) : (do return Edge.mk node (← nodeAt body blocks t) .branch) =
      body.resolve [(t, .missing t)]
        (Edge.mk node (nodeOf blocks ((body.indexOf? t).getD 0)) .branch) := by
    rw [nodeAt_eq]
    exact MethodBody.resolve_bind_pure fun n => Edge.mk node n .branch
  have hbranches := @MethodBody.mapM_lookup body Edge _
    (fun index => Edge.mk node (nodeOf blocks index) .branch) _ last.operand.branchTargets htarget
  simp only [edgesFrom, blockEdges, hl, hbranches]
  exact MethodBody.resolve_bind_pure fun branches => onwardEdges body blocks node b last ++ branches

/-- Every branch was looked up before, so no edge out of a block is missing an end. -/
theorem edgesFrom_of_resolved (h : ∀ r ∈ body.branchReferences, body.HasOffset r.1) :
    edgesFrom body blocks node b = .ok (blockEdges body blocks node b) := by
  cases hl : body.instructions[b.last]? with
  | none =>
      simp only [edgesFrom, blockEdges, hl]
      rfl
  | some last =>
      rw [edgesFrom_eq hl, MethodBody.resolve_of_forall]
      simp only [List.forall_mem_map]
      intro t ht
      exact h (t, .branch last.offset t)
        (List.mem_flatMap.2 ⟨last, List.mem_of_getElem? hl, List.mem_map_of_mem ht⟩)

theorem edgesThrough_eq : edgesThrough body blocks node h start =
    body.resolve [(start, .missing start)] (handlerEdges body blocks node h start) := by
  rw [edgesThrough, nodeAt_eq]
  refine (MethodBody.resolve_bind_pure fun target => Edge.mk node target .exception :: _).trans ?_
  apply MethodBody.resolve_congr
  intro hstart
  obtain ⟨index, hindex⟩ := (List.forall_mem_singleton.1 hstart).index
  rw [handlerEdges, hindex]
  rfl

theorem needs_handlerEntries (body : MethodBody) :
    (body.handlerEntries.zipIdx.flatMap fun e => [(e.1.2.2, GraphError.missing e.1.2.2)]) =
      body.handlerReferences := by
  have hstarts : body.handlerEntries.map (·.2.2) = body.handlers.flatMap (·.starts) := by
    rw [MethodBody.handlerEntries, List.map_flatMap]
    nth_rewrite 2 [← List.zipIdx_map_fst 0 body.handlers]
    rw [List.flatMap_map]
    congr 1
    funext e
    cases hf : e.1.filterStart <;> simp [ExceptionHandler.starts, hf]
  rw [MethodBody.handlerReferences, ← hstarts]
  nth_rewrite 2 [← List.zipIdx_map_fst 0 body.handlerEntries]
  rw [List.map_map, List.map_map, List.map_eq_flatMap]
  rfl

theorem ofBody_eq_resolve (body : MethodBody) :
    ofBody body = body.resolve body.references (assemble body) := by
  rw [ofBody, MethodBody.findLeaders_eq]
  refine MethodBody.resolve_bind fun hbranches => ?_
  have hflow : (body.blocks.zipIdx.mapM fun (b, k) =>
      edgesFrom body body.blocks (firstBlock + k) b) =
      body.resolve (body.blocks.zipIdx.flatMap fun _ => [])
        (body.blocks.zipIdx.map fun (b, k) => blockEdges body body.blocks (firstBlock + k) b) :=
    MethodBody.mapM_eq_resolve fun _ _ => edgesFrom_of_resolved hbranches
  rw [MethodBody.resolve_of_forall (by simp)] at hflow
  have hhandlers : (body.handlerEntries.zipIdx.mapM fun ((_, h, offset), k) =>
      edgesThrough body body.blocks (firstBlock + body.blocks.length + k) h offset) = _ :=
    MethodBody.mapM_eq_resolve fun e _ => edgesThrough_eq
  rw [needs_handlerEntries] at hhandlers
  change ofBlocks body body.blocks = _
  rw [ofBlocks, assemble, List.flatMap_def, List.flatMap_def]
  rw [hflow]
  change ((List.mapM _ body.handlerEntries.zipIdx : Except GraphError _) >>= _) = _
  rw [hhandlers]
  exact MethodBody.resolve_bind_pure fun handlers => _

theorem ofBody_isOk_iff :
    (∃ g, ofBody body = .ok g) ↔ ∀ r ∈ body.references, body.HasOffset r.1 := by
  simp only [ofBody_eq_resolve, MethodBody.resolve_eq_ok_iff, exists_and_left, exists_eq, and_true]

theorem eq_assemble (hg : ofBody body = .ok g) : g = assemble body := by
  rw [ofBody_eq_resolve] at hg
  exact (MethodBody.resolve_eq_ok_iff.1 hg).2

/-- No way into a handler is missing in a body whose graph is built. -/
theorem names_of_entry {index : Nat} (hg : ofBody body = .ok g)
    (he : (index, h, start) ∈ body.handlerEntries) : ∃ i, body.Names start i := by
  rw [ofBody_eq_resolve] at hg
  have hall := (List.forall_mem_append.1 (MethodBody.resolve_eq_ok_iff.1 hg).1).2
  rw [← needs_handlerEntries] at hall
  obtain ⟨k, hk⟩ := List.mem_iff_getElem?.1 he
  have hstart := hall (start, .missing start) (List.mem_flatMap.2
    ⟨((index, h, start), k), List.mem_zipIdx_iff_getElem?.2 hk, List.mem_singleton_self _⟩)
  obtain ⟨i, hi⟩ := hstart.index
  exact ⟨i, MethodBody.indexOf?_eq_some_iff.1 hi⟩

end Graph

end NullFlow
