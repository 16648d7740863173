import NullFlow.Proofs.GraphEdges

namespace NullFlow

namespace Graph

variable {body : MethodBody} {g : Graph} {n m t index : Nat} {b : Block} {kind : EdgeKind}

theorem assemble_blocks (body : MethodBody) : (assemble body).blocks = body.blocks := by
  have hnone : body.handlerEntries.filterMap (fun _ => (none : Option Block)) = [] :=
    List.filterMap_eq_nil_iff.2 fun _ _ => rfl
  simp only [Graph.blocks, assemble, List.cons_append, List.filterMap_cons, List.filterMap_append,
    List.filterMap_map, Function.comp_def, List.filterMap_some, hnone, List.append_nil]

theorem mem_blocks_of_node (h : (assemble body).nodes[n]? = some (.block b)) : b ∈ body.blocks := by
  obtain ⟨k, _, hk⟩ := block_node h
  exact List.mem_of_getElem? hk

theorem holds_unique (hn : (assemble body).Holds n index) (hm : (assemble body).Holds m index) :
    n = m := by
  obtain ⟨b, hb, hbi⟩ := hn
  obtain ⟨c, hc, hci⟩ := hm
  obtain ⟨k, rfl, hk⟩ := block_node hb
  obtain ⟨l, rfl, hl⟩ := block_node hc
  rw [body.blocks_tile.position_unique hk hl hbi hci]

/-- The block nodes of a graph are the longest straight runs of the body: they tile its
instructions, and a run ends only where control can leave or come in, or where a region has its
border. -/
structure Runs (body : MethodBody) (g : Graph) : Prop where
  numbered : ∀ n b, g.nodes[n]? = some (.block b) ↔ ∃ k, n = 2 + k ∧ g.blocks[k]? = some b
  tiled : Block.Tiles body.instructions.length 0 g.blocks
  held : ∀ i < body.instructions.length, ∃! n, g.Holds n i
  starts : ∀ k, (∃ b ∈ g.blocks, b.first = k + 1) ↔ k + 1 < body.instructions.length ∧
    (body.Splits k ∨ body.Targeted (k + 1) ∨ body.Bordered (k + 1))
  unsplit : ∀ b ∈ g.blocks, ∀ i, b.Holds i → body.Splits i → i = b.last
  unentered : ∀ b ∈ g.blocks, ∀ i, b.Holds i → body.Targeted i ∨ body.Bordered i → i = b.first

theorem ofBody_runs (hg : ofBody body = .ok g) : Runs body g := by
  obtain rfl := eq_assemble hg
  constructor
  · intro n b
    rw [assemble_blocks]
    exact block_node_iff
  · rw [assemble_blocks]
    exact body.blocks_tile
  · intro i hi
    exact ⟨_, nodeOf_holds hi, fun n hn => holds_unique hn (nodeOf_holds hi)⟩
  · intro k
    rw [assemble_blocks, MethodBody.exists_block_first, MethodBody.mem_leaders,
      MethodBody.startsBlock_succ_iff]
  · intro b hb i hin hs
    rw [assemble_blocks] at hb
    exact (MethodBody.last_eq_of_splits hb hin hs).symm
  · intro b hb i hin he
    rw [assemble_blocks] at hb
    exact (MethodBody.first_eq_of_entered hb hin he).symm

/-- A body whose offsets are neither in order nor all different, with a switch that also leads to
the next instruction, a branch back, and a handler that ends where there is no instruction. -/
def tangle : MethodBody where
  maxStack := 1
  locals := []
  instructions := [
    ⟨4, .ldnull, .none⟩, ⟨9, .switch, .targets [2, 4, 20]⟩, ⟨4, .ldnull, .none⟩,
    ⟨20, .ldnull, .none⟩, ⟨7, .brtrue, .target 4⟩, ⟨2, .endfinally, .none⟩, ⟨30, .ret, .none⟩]
  handlers := [⟨.finally, 4, 7, 2, 99, none⟩]

theorem tangle_runs : ∃ g, ofBody tangle = .ok g ∧
    g.blocks = [⟨0, 1⟩, ⟨2, 2⟩, ⟨3, 3⟩, ⟨4, 4⟩, ⟨5, 5⟩, ⟨6, 6⟩] ∧ Runs tangle g :=
  ⟨assemble tangle, rfl, by decide, ofBody_runs rfl⟩

theorem mem_edges_of_leaves {last : Instruction}
    (hb : (assemble body).nodes[n]? = some (.block b))
    (hl : body.instructions[b.last]? = some last) (h : Leaves body b last t kind) :
    Edge.mk n t kind ∈ (assemble body).edges := by
  obtain ⟨k, rfl, hk⟩ := block_node hb
  simp only [assemble, Edge.mem_sort, List.mem_append, List.mem_flatMap]
  refine .inl (.inr ⟨(b, k), List.mem_zipIdx_iff_getElem?.2 hk, ?_⟩)
  exact (mem_blockEdges hl).2 ⟨rfl, h⟩

theorem leaves_of_mem_edges {last : Instruction}
    (hb : (assemble body).nodes[n]? = some (.block b))
    (hl : body.instructions[b.last]? = some last) (he : Edge.mk n t kind ∈ (assemble body).edges)
    (hentry : kind ≠ .entry) (hthrown : kind ≠ .exception) : Leaves body b last t kind := by
  rcases edge_cases he with ⟨_, _, _, hk⟩ | ⟨c, x, hc, hx, h⟩ | ⟨hk, _⟩
  · exact absurd hk hentry
  · cases Option.some.inj (hb.symm.trans hc)
    cases Option.some.inj (hl.symm.trans hx)
    exact h
  · exact absurd hk hthrown

theorem mem_edges_of_entry (h : body.instructions ≠ []) :
    Edge.mk entry (nodeOf body.blocks 0) .entry ∈ (assemble body).edges := by
  simp only [assemble, Edge.mem_sort, List.mem_append]
  refine .inl (.inl ?_)
  rw [if_neg (by simpa using h)]
  exact List.mem_singleton_self _

end Graph

/-- Control can come from instruction `i` to instruction `j`: the next one unless `i` ends the flow,
or one that `i` branches to. The end of a finally handler goes on behind it. -/
def MethodBody.Flows (body : MethodBody) (i j : Nat) : Prop :=
  ∃ x, body.instructions[i]? = some x ∧
    ((j = i + 1 ∧ j < body.instructions.length ∧
        (x.opcode.endsFlow = false ∨ x.opcode = .endfinally)) ∨
      ∃ target ∈ x.operand.branchTargets, body.Names target j)

namespace Graph

variable {body : MethodBody} {g : Graph} {n i j : Nat} {b : Block}

/-- In the graph, control passes from `i` to `j` inside a block, or from the end of a block to the
start of one along an edge. -/
def Passes (g : Graph) (i j : Nat) : Prop :=
  (j = i + 1 ∧ ∃ n, g.Holds n i ∧ g.Holds n j) ∨
    ∃ n t b c, g.nodes[n]? = some (.block b) ∧ g.nodes[t]? = some (.block c) ∧
      i = b.last ∧ j = c.first ∧ (⟨n, t, .fallThrough⟩ ∈ g.edges ∨ ⟨n, t, .branch⟩ ∈ g.edges)

theorem block_of_holds {t : Nat} {c : Block} (hc : (assemble body).nodes[t]? = some (.block c))
    (h : (assemble body).Holds t j) : c.Holds j := by
  obtain ⟨d, hd, hin⟩ := h
  cases Option.some.inj (hc.symm.trans hd)
  exact hin

theorem Leaves.flows {last : Instruction} {t : Nat} {c : Block} {kind : EdgeKind}
    (h : Leaves body b last t kind) (hb : b ∈ body.blocks)
    (hl : body.instructions[b.last]? = some last)
    (hc : (assemble body).nodes[t]? = some (.block c)) : body.Flows b.last c.first := by
  have hcm := mem_blocks_of_node hc
  cases h with
  | next hlt hlast =>
      have hin := block_of_holds hc (nodeOf_holds hlt)
      have hfirst := body.blocks_tile.first_behind hb hcm hin
      exact ⟨last, hl, .inl ⟨hfirst, hfirst ▸ hlt, hlast⟩⟩
  | jump htarget hindex =>
      have hin := block_of_holds hc (nodeOf_holds hindex.lt)
      have htargeted : body.Targeted _ := ⟨last, List.mem_of_getElem? hl, _, htarget, hindex⟩
      have hfirst := MethodBody.first_eq_of_entered hcm hin (.inl htargeted)
      exact ⟨last, hl, .inr ⟨_, htarget, hfirst ▸ hindex⟩⟩
  | ret _ _ => cases hc

theorem flows_of_passes (h : (assemble body).Passes i j) : body.Flows i j := by
  rcases h with ⟨rfl, n, ⟨b, hb, hi⟩, hj⟩ | ⟨n, t, b, c, hb, hc, rfl, rfl, he⟩
  · have hbm := mem_blocks_of_node hb
    have hj := block_of_holds hb hj
    have hlt := Nat.lt_of_le_of_lt hj.2 (body.blocks_tile.bounds hbm).2.2
    have hx := List.getElem?_eq_getElem (Nat.lt_of_succ_lt hlt)
    refine ⟨_, hx, .inl ⟨rfl, hlt, .inl ?_⟩⟩
    -- An instruction that ends the flow would be the last of the block.
    by_contra hends
    have hsplits : body.Splits i := ⟨_, hx, by simp [Opcode.splitsBlock, hends]⟩
    have hlast := MethodBody.last_eq_of_splits hbm hi hsplits
    exact absurd hj.2 (by omega)
  · have hbm := mem_blocks_of_node hb
    obtain ⟨last, hl⟩ := MethodBody.exists_last hbm
    rcases he with he | he
    · exact (leaves_of_mem_edges hb hl he nofun nofun).flows hbm hl hc
    · exact (leaves_of_mem_edges hb hl he nofun nofun).flows hbm hl hc

theorem passes_of_flows
    (honly : ∀ x ∈ body.instructions, x.operand.branchTargets ≠ [] → x.opcode.splitsBlock)
    (h : body.Flows i j) : (assemble body).Passes i j := by
  obtain ⟨x, hx, h⟩ := h
  have hi := (List.getElem?_eq_some_iff.1 hx).1
  obtain ⟨b, hb, hin⟩ := nodeOf_holds hi
  have hbm := mem_blocks_of_node hb
  rcases h with ⟨rfl, hlt, hflow⟩ | ⟨target, htarget, hnames⟩
  · by_cases hlast : i = b.last
    · subst hlast
      obtain ⟨c, hc, hcin⟩ := nodeOf_holds hlt
      have hfirst := body.blocks_tile.first_behind hbm (mem_blocks_of_node hc) hcin
      have he := mem_edges_of_leaves hb hx (.next hlt hflow)
      exact .inr ⟨_, _, b, c, hb, hc, rfl, hfirst.symm, .inl he⟩
    · have hle : i + 1 ≤ b.last := Nat.lt_of_le_of_ne hin.2 hlast
      exact .inl ⟨rfl, _, ⟨b, hb, hin⟩, b, hb, Nat.le_succ_of_le hin.1, hle⟩
  · have hmem := List.mem_of_getElem? hx
    have hsplits : body.Splits i := ⟨x, hx, honly x hmem (List.ne_nil_of_mem htarget)⟩
    obtain rfl := MethodBody.last_eq_of_splits hbm hin hsplits
    obtain ⟨c, hc, hcin⟩ := nodeOf_holds hnames.lt
    have htargeted : body.Targeted j := ⟨x, hmem, target, htarget, hnames⟩
    have hfirst :=
      MethodBody.first_eq_of_entered (mem_blocks_of_node hc) hcin (.inl htargeted)
    have he := mem_edges_of_leaves hb hx (.jump htarget hnames)
    exact .inr ⟨_, _, b, c, hb, hc, rfl, hfirst.symm, .inr he⟩

theorem Leaves.of_ret {last : Instruction} {t : Nat} (h : Leaves body b last t .ret) :
    last.opcode.flow = .ret ∧
      ¬(last.opcode = .endfinally ∧ b.last + 1 < body.instructions.length) := by
  cases h with
  | ret hlast hend => exact ⟨hlast, hend⟩

theorem returns_iff {last : Instruction} (hb : (assemble body).nodes[n]? = some (.block b))
    (hl : body.instructions[b.last]? = some last) :
    ⟨n, exit, .ret⟩ ∈ (assemble body).edges ↔ last.opcode.flow = .ret ∧
      ¬(last.opcode = .endfinally ∧ b.last + 1 < body.instructions.length) := by
  constructor
  · intro he
    exact (leaves_of_mem_edges hb hl he nofun nofun).of_ret
  · rintro ⟨hlast, hend⟩
    exact mem_edges_of_leaves hb hl (.ret hlast hend)

theorem entry_edge_iff (h : body.instructions ≠ []) {e : Edge} :
    e ∈ (assemble body).edges ∧ (e.source = entry ∨ e.target = entry) ↔
      e = ⟨entry, nodeOf body.blocks 0, .entry⟩ := by
  constructor
  · rintro ⟨he, hs⟩
    obtain ⟨n, t, kind⟩ := e
    have ht : t ≠ entry := Nat.ne_of_gt (assemble_linked ⟨kind, he⟩).1
    obtain rfl : n = entry := hs.resolve_right ht
    rcases edge_cases he with ⟨_, _, rfl, rfl⟩ | ⟨b, last, hb, _⟩ | ⟨_, k, _, _, _, _, ht⟩
    · rfl
    · cases hb
    · have hnode : firstBlock ≤ firstBlock + body.blocks.length + k := by omega
      have hle : firstBlock ≤ entry := ht.le_source hnode
      exact absurd hle (by decide)
  · rintro rfl
    exact ⟨mem_edges_of_entry h, .inl rfl⟩

/-- The graph says of the flow between instructions what the body says of it, of the blocks that
return which they are, and of the entry that it leads to the first instruction and nowhere else. -/
structure Refines (body : MethodBody) (g : Graph) : Prop where
  flows_iff : ∀ i j, body.Flows i j ↔ g.Passes i j
  returns : ∀ n b, g.nodes[n]? = some (.block b) → ∃ last, body.instructions[b.last]? = some last ∧
    (⟨n, exit, .ret⟩ ∈ g.edges ↔ last.opcode.flow = .ret ∧
      ¬(last.opcode = .endfinally ∧ b.last + 1 < body.instructions.length))
  enters : body.instructions ≠ [] → ∃ n, g.Holds n 0 ∧
    ∀ e, e ∈ g.edges ∧ (e.source = entry ∨ e.target = entry) ↔ e = ⟨entry, n, .entry⟩

theorem ofBody_refines (hg : ofBody body = .ok g)
    (honly : ∀ x ∈ body.instructions, x.operand.branchTargets ≠ [] → x.opcode.splitsBlock) :
    Refines body g := by
  obtain rfl := eq_assemble hg
  constructor
  · intro i j
    exact ⟨passes_of_flows honly, flows_of_passes⟩
  · intro n b hb
    obtain ⟨last, hl⟩ := MethodBody.exists_last (mem_blocks_of_node hb)
    exact ⟨last, hl, returns_iff hb hl⟩
  · intro hne
    exact ⟨_, nodeOf_holds (List.length_pos_iff.2 hne), fun e => entry_edge_iff hne⟩

theorem tangle_refines : ∃ g, ofBody tangle = .ok g ∧
    Edge.mk 2 3 .branch ∈ g.edges ∧ Edge.mk 5 3 .branch ∈ g.edges ∧
    Edge.mk 6 7 .fallThrough ∈ g.edges ∧ Edge.mk 6 1 .ret ∉ g.edges ∧ Refines tangle g :=
  ⟨assemble tangle, rfl, by decide, by decide, by decide, by decide,
    ofBody_refines rfl (by decide)⟩

end Graph

end NullFlow
