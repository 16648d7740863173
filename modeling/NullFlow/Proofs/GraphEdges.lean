import NullFlow.Proofs.GraphPasses

namespace NullFlow

theorem Edge.mem_insert {e d : Edge} {l : List Edge} : e ∈ Edge.insert d l ↔ e = d ∨ e ∈ l := by
  induction l with
  | nil => simp [Edge.insert]
  | cons c l ih =>
      unfold Edge.insert
      split
      · simp
      · split
        · rename_i heq
          subst heq
          simp
        · rw [List.mem_cons, ih, List.mem_cons]
          tauto

theorem Edge.mem_sort {e : Edge} {l : List Edge} : e ∈ Edge.sort l ↔ e ∈ l := by
  induction l with
  | nil => rfl
  | cons d l ih =>
      rw [List.mem_cons, ← ih]
      exact Edge.mem_insert

namespace MethodBody

variable {body : MethodBody}

theorem mem_handlerEntries {index start : Nat} {h : ExceptionHandler} :
    (index, h, start) ∈ body.handlerEntries ↔ body.handlers[index]? = some h ∧
      (start = h.handlerStart ∨ h.filterStart = some start) := by
  simp only [handlerEntries, List.mem_flatMap, Prod.exists, List.mem_zipIdx_iff_getElem?,
    List.mem_cons, Prod.mk.injEq, Option.mem_toList, Option.map_eq_some_iff]
  constructor
  · rintro ⟨_, _, hh, ⟨rfl, rfl, rfl⟩ | ⟨_, hs, rfl, rfl, rfl⟩⟩
    · exact ⟨hh, .inl rfl⟩
    · exact ⟨hh, .inr hs⟩
  · rintro ⟨hh, rfl | hs⟩
    · exact ⟨_, _, hh, .inl ⟨rfl, rfl, rfl⟩⟩
    · exact ⟨_, _, hh, .inr ⟨_, hs, rfl, rfl, rfl⟩⟩

end MethodBody

namespace Graph

variable {body : MethodBody} {g : Graph} {n t : Nat}

def Linked (g : Graph) (n t : Nat) : Prop := ∃ kind, Edge.mk n t kind ∈ g.edges

theorem mem_squeeze {l : List Nat} : n ∈ squeeze l ↔ n ∈ l := by
  fun_induction squeeze l with
  | case1 | case2 => rfl
  | case3 a rest ih => simp [ih]
  | case4 a b rest _ ih => simp [ih]

theorem mem_successors : t ∈ g.successors n ↔ g.Linked n t := by
  simp only [successors, mem_squeeze, List.mem_map, List.mem_filter, decide_eq_true_eq, Linked]
  constructor
  · rintro ⟨e, ⟨he, rfl⟩, rfl⟩
    exact ⟨e.kind, he⟩
  · rintro ⟨kind, he⟩
    exact ⟨_, ⟨he, rfl⟩, rfl⟩

theorem mem_predecessors : n ∈ g.predecessors t ↔ g.Linked n t := by
  simp only [predecessors, mem_squeeze, List.mem_map, List.mem_filter, decide_eq_true_eq, Linked]
  constructor
  · rintro ⟨e, ⟨he, rfl⟩, rfl⟩
    exact ⟨e.kind, he⟩
  · rintro ⟨kind, he⟩
    exact ⟨_, ⟨he, rfl⟩, rfl⟩

instance (g : Graph) (n t : Nat) : Decidable (g.Linked n t) :=
  decidable_of_iff (t ∈ g.successors n) mem_successors

def Inner (body : MethodBody) (n : Nat) : Prop := 0 < n ∧ n < (assemble body).nodes.length

theorem assemble_length (body : MethodBody) : (assemble body).nodes.length =
    firstBlock + body.blocks.length + body.handlerEntries.length := by
  simp [assemble, firstBlock]
  omega

theorem block_node {b : Block} (h : (assemble body).nodes[n]? = some (.block b)) :
    ∃ k, n = firstBlock + k ∧ body.blocks[k]? = some b := by
  match n, h with
  | 0, h => cases h
  | 1, h => cases h
  | k + 2, h =>
    refine ⟨k, Nat.add_comm _ _, ?_⟩
    simp only [assemble, List.cons_append, List.getElem?_cons_succ, List.getElem?_append] at h
    split at h
    · simpa using h
    · simp at h

theorem block_node_iff {b : Block} : (assemble body).nodes[n]? = some (.block b) ↔
    ∃ k, n = firstBlock + k ∧ body.blocks[k]? = some b := by
  constructor
  · exact block_node
  · rintro ⟨k, rfl, hk⟩
    have hlt := (List.getElem?_eq_some_iff.1 hk).1
    rw [firstBlock, Nat.add_comm, assemble, List.cons_append, List.getElem?_cons_succ,
      List.cons_append, List.getElem?_cons_succ, List.getElem?_append_left (by simpa using hlt),
      List.getElem?_map, hk]
    rfl

def Holds (g : Graph) (n index : Nat) : Prop :=
  ∃ b, g.nodes[n]? = some (.block b) ∧ b.Holds index

theorem nodeOf_holds {index : Nat} (h : index < body.instructions.length) :
    (assemble body).Holds (nodeOf body.blocks index) index := by
  obtain ⟨b, hb, hin⟩ := body.blocks_tile.exists_holds (Nat.zero_le index) h
  have hlt : (body.blocks.findIdx fun b => b.first ≤ index && index ≤ b.last) <
      body.blocks.length :=
    List.findIdx_lt_length_of_exists ⟨b, hb, by simpa [Block.Holds] using hin⟩
  refine ⟨_, block_node_iff.2 ⟨_, rfl, List.getElem?_eq_getElem hlt⟩, ?_⟩
  simpa [Block.Holds] using List.findIdx_getElem (w := hlt)

theorem nodeOf_inner {index : Nat} (h : index < body.instructions.length) :
    Inner body (nodeOf body.blocks index) := by
  obtain ⟨b, hb, _⟩ := nodeOf_holds h
  exact ⟨Nat.add_pos_left (by decide) _, (List.getElem?_eq_some_iff.1 hb).1⟩

/-- Where control goes behind the last instruction of a block, and along which kind of edge. -/
inductive Leaves (body : MethodBody) (b : Block) (last : Instruction) : Nat → EdgeKind → Prop
  | next (hlt : b.last + 1 < body.instructions.length)
      (hlast : last.opcode.endsFlow = false ∨ last.opcode = .endfinally) :
      Leaves body b last (nodeOf body.blocks (b.last + 1)) .fallThrough
  | jump {target index : Nat} (htarget : target ∈ last.operand.branchTargets)
      (hindex : body.Names target index) : Leaves body b last (nodeOf body.blocks index) .branch
  | ret (hlast : last.opcode.flow = .ret)
      (hend : ¬(last.opcode = .endfinally ∧ b.last + 1 < body.instructions.length)) :
      Leaves body b last exit .ret

theorem mem_forward {p : Prop} [Decidable p] {node target : Nat} {e : Edge} :
    e ∈ (if p then some target else none).toList.map (fun t => Edge.mk node t .fallThrough) ↔
      p ∧ e = ⟨node, target, .fallThrough⟩ := by
  by_cases hp : p
  · simp [hp]
  · simp [hp]

theorem mem_blockEdges {node : Nat} {b : Block} {last : Instruction} {kind : EdgeKind}
    (hl : body.instructions[b.last]? = some last) :
    Edge.mk n t kind ∈ blockEdges body body.blocks node b ↔
      n = node ∧ Leaves body b last t kind := by
  simp only [blockEdges, onwardEdges, hl, List.mem_append, List.mem_filterMap,
    Option.map_eq_some_iff, MethodBody.indexOf?_eq_some_iff, Option.isSome_ite]
  constructor
  · rintro (he | ⟨target, htarget, index, hindex, he⟩)
    · split at he
      · rename_i hflow
        obtain ⟨hlt, he⟩ := mem_forward.1 he
        cases he
        exact ⟨rfl, .next hlt (.inl (by simpa using hflow))⟩
      · split at he
        · rename_i hret
          split at he
          · rename_i hend
            obtain ⟨hlt, he⟩ := mem_forward.1 he
            cases he
            exact ⟨rfl, .next hlt (.inr hend.1)⟩
          · rename_i hend
            cases List.mem_singleton.1 he
            exact ⟨rfl, .ret hret hend⟩
        · cases he
    · cases he
      exact ⟨rfl, .jump htarget hindex⟩
  · rintro ⟨rfl, h⟩
    cases h with
    | next hlt hlast =>
        rcases hlast with hflow | hend
        · rw [if_pos (by simpa using hflow)]
          exact .inl (mem_forward.2 ⟨hlt, rfl⟩)
        · have hopen : ¬(!last.opcode.endsFlow) = true := by rw [hend]; decide
          have hret : last.opcode.flow = .ret := by rw [hend]; rfl
          rw [if_neg hopen, if_pos hret, if_pos ⟨hend, hlt⟩]
          exact .inl (mem_forward.2 ⟨hlt, rfl⟩)
    | jump htarget hindex => exact .inr ⟨_, htarget, _, hindex, rfl⟩
    | ret hlast hend =>
        have hopen : ¬(!last.opcode.endsFlow) = true := by simp [Opcode.endsFlow, hlast]
        rw [if_neg hopen, if_pos hlast, if_neg hend]
        exact .inl (List.mem_singleton_self _)

/-- The edges of the node that is a way into a handler: on to where the handler starts, and in from
each block that starts in the protected region. -/
inductive Throws (body : MethodBody) (node : Nat) (h : ExceptionHandler) (start : Nat) :
    Nat → Nat → Prop
  | onward {i : Nat} (hi : body.Names start i) :
      Throws body node h start node (nodeOf body.blocks i)
  | inward {k : Nat} {b : Block} {x : Instruction} (hb : body.blocks[k]? = some b)
      (hx : body.instructions[b.first]? = some x) (hp : h.protects x.offset) :
      Throws body node h start (firstBlock + k) node

theorem mem_handlerEdges {node start : Nat} {h : ExceptionHandler} {kind : EdgeKind} :
    Edge.mk n t kind ∈ handlerEdges body body.blocks node h start ↔
      kind = .exception ∧ Throws body node h start n t := by
  simp only [handlerEdges, inwardEdges, List.mem_append, List.mem_map, Option.mem_toList,
    List.mem_filterMap, Prod.exists, List.mem_zipIdx_iff_getElem?, MethodBody.indexOf?_eq_some_iff,
    Option.ite_none_right_eq_some, Option.any_eq_true]
  constructor
  · rintro (⟨i, hi, he⟩ | ⟨b, k, hb, ⟨y, hy, hp⟩, he⟩)
    · cases he
      exact ⟨rfl, .onward hi⟩
    · cases Option.some.inj he
      exact ⟨rfl, .inward hb hy hp⟩
  · rintro ⟨rfl, h⟩
    cases h with
    | onward hi => exact .inl ⟨_, hi, rfl⟩
    | inward hb hx hp => exact .inr ⟨_, _, hb, ⟨_, hx, hp⟩, rfl⟩

theorem Leaves.inner {b : Block} {last : Instruction} {kind : EdgeKind}
    (h : Leaves body b last t kind) : Inner body t := by
  cases h with
  | next hlt _ => exact nodeOf_inner hlt
  | jump _ hindex => exact nodeOf_inner hindex.lt
  | ret _ _ =>
      simp only [Inner, assemble_length, exit, firstBlock]
      omega

theorem Throws.inner {node start : Nat} {h : ExceptionHandler} (hnode : Inner body node)
    (ht : Throws body node h start n t) : Inner body t := by
  cases ht with
  | onward hi => exact nodeOf_inner hi.lt
  | inward _ _ _ => exact hnode

theorem Throws.le_source {node start : Nat} {h : ExceptionHandler} (hnode : firstBlock ≤ node)
    (ht : Throws body node h start n t) : firstBlock ≤ n := by
  cases ht with
  | onward _ => exact hnode
  | inward _ _ _ => exact Nat.le_add_right _ _

/-- What an edge can be: the one from the entry, one that the end of a block asks for, or one of
those that belong to a way into a handler. -/
theorem edge_cases {kind : EdgeKind} (he : Edge.mk n t kind ∈ (assemble body).edges) :
    (body.instructions ≠ [] ∧ n = entry ∧ t = nodeOf body.blocks 0 ∧ kind = .entry) ∨
    (∃ b last, (assemble body).nodes[n]? = some (.block b) ∧
      body.instructions[b.last]? = some last ∧ Leaves body b last t kind) ∨
    kind = .exception ∧ ∃ k index h start, body.handlerEntries[k]? = some (index, h, start) ∧
      Throws body (firstBlock + body.blocks.length + k) h start n t := by
  simp only [assemble, Edge.mem_sort, List.mem_append] at he
  rcases he with (he | he) | he
  · left
    split at he
    · cases he
    · rename_i hne
      cases List.mem_singleton.1 he
      exact ⟨by simpa using hne, rfl, rfl, rfl⟩
  · right; left
    simp only [List.mem_flatMap, Prod.exists, List.mem_zipIdx_iff_getElem?] at he
    obtain ⟨b, k, hk, he⟩ := he
    obtain ⟨last, hl⟩ := MethodBody.exists_last (List.mem_of_getElem? hk)
    obtain ⟨rfl, hleaves⟩ := (mem_blockEdges hl).1 he
    exact ⟨b, last, block_node_iff.2 ⟨k, rfl, hk⟩, hl, hleaves⟩
  · right; right
    simp only [List.mem_flatMap, Prod.exists, List.mem_zipIdx_iff_getElem?] at he
    obtain ⟨index, h, start, k, hk, he⟩ := he
    obtain ⟨rfl, hthrows⟩ := mem_handlerEdges.1 he
    exact ⟨rfl, k, index, h, start, hk, hthrows⟩

theorem exception_edge_iff : Edge.mk n t .exception ∈ (assemble body).edges ↔
    ∃ k index h start, body.handlerEntries[k]? = some (index, h, start) ∧
      Throws body (firstBlock + body.blocks.length + k) h start n t := by
  constructor
  · intro he
    rcases edge_cases he with ⟨_, _, _, hk⟩ | ⟨_, _, _, _, hleaves⟩ | ⟨_, hthrows⟩
    · cases hk
    · cases hleaves
    · exact hthrows
  · rintro ⟨k, index, h, start, hk, hthrows⟩
    simp only [assemble, Edge.mem_sort, List.mem_append, List.mem_flatMap]
    refine .inr ⟨((index, h, start), k), List.mem_zipIdx_iff_getElem?.2 hk, ?_⟩
    exact mem_handlerEdges.2 ⟨rfl, hthrows⟩

theorem assemble_linked {body : MethodBody} (h : (assemble body).Linked n t) : Inner body t := by
  obtain ⟨kind, he⟩ := h
  rcases edge_cases he with ⟨hne, _, rfl, _⟩ | ⟨b, last, _, _, hleaves⟩ | ⟨_, k, _, _, _, hk, ht⟩
  · exact nodeOf_inner (List.length_pos_iff.2 hne)
  · exact hleaves.inner
  · have hlt := (List.getElem?_eq_some_iff.1 hk).1
    refine ht.inner ⟨?_, ?_⟩
    · exact Nat.add_pos_left (Nat.add_pos_left (by decide) _) _
    · rw [assemble_length]
      omega

theorem successor_inner (hg : ofBody body = .ok g) (h : t ∈ g.successors n) :
    entry < t ∧ t < g.nodes.length := by
  obtain rfl := eq_assemble hg
  exact assemble_linked (mem_successors.1 h)

theorem entry_node (hg : ofBody body = .ok g) : g.nodes[entry]? = some .entry := by
  rw [eq_assemble hg]
  rfl

theorem exception_node {index : Nat} {receives : Bool}
    (h : (assemble body).nodes[n]? = some (.exception index receives)) :
    ∃ k h start, n = firstBlock + body.blocks.length + k ∧
      body.handlerEntries[k]? = some (index, h, start) ∧ receives = h.kind.receivesException := by
  match n, h with
  | 0, h => cases h
  | 1, h => cases h
  | m + 2, h =>
    simp only [assemble, List.cons_append, List.getElem?_cons_succ, List.getElem?_append] at h
    split at h
    · simp at h
    · rename_i hge
      simp only [List.length_map, List.getElem?_map, Option.map_eq_some_iff] at h hge
      obtain ⟨⟨index', h', start⟩, hk, he⟩ := h
      injection he with hi hr
      subst hi
      exact ⟨_, h', start, by simp only [firstBlock]; omega, hk, hr.symm⟩

/-- A block whose first instruction is protected by a handler leads to every way into it. -/
theorem protected_successor (hg : ofBody body = .ok g) {b : Block} {index x : Nat}
    {receives : Bool} {h : ExceptionHandler} {i : Instruction}
    (hb : g.nodes[n]? = some (.block b)) (hx : g.nodes[x]? = some (.exception index receives))
    (hh : body.handlers[index]? = some h) (hi : body.instructions[b.first]? = some i)
    (hp : h.protects i.offset) : x ∈ g.successors n := by
  obtain rfl := eq_assemble hg
  obtain ⟨k, rfl, hk⟩ := block_node hb
  obtain ⟨m, h', start, rfl, hm, _⟩ := exception_node hx
  have hh' := (MethodBody.mem_handlerEntries.1 (List.mem_of_getElem? hm)).1
  obtain rfl : h = h' := Option.some.inj (hh.symm.trans hh')
  exact mem_successors.2 ⟨_, exception_edge_iff.2 ⟨m, index, h, start, hm, .inward hk hi hp⟩⟩

end Graph

end NullFlow
