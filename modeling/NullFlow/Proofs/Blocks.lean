import Mathlib.Tactic.Common
import NullFlow.Graph

namespace NullFlow

namespace Block

variable {b c : Block} {blocks : List Block} {start stop index k l : Nat}

def Holds (b : Block) (index : Nat) : Prop := b.first ≤ index ∧ index ≤ b.last

instance (b : Block) (index : Nat) : Decidable (b.Holds index) :=
  inferInstanceAs (Decidable (_ ∧ _))

/-- The blocks cut the indices from `start` up to `stop` into runs, each where the last one ends. -/
def Tiles (stop : Nat) : Nat → List Block → Prop
  | start, [] => start = stop
  | start, b :: rest => b.first = start ∧ b.first ≤ b.last ∧ Tiles stop (b.last + 1) rest

theorem Tiles.start_le (h : Tiles stop start blocks) : start ≤ stop := by
  induction blocks generalizing start with
  | nil => exact Nat.le_of_eq h
  | cons b rest ih =>
      obtain ⟨hs, hle, hrest⟩ := h
      have := ih hrest
      omega

theorem Tiles.bounds (h : Tiles stop start blocks) (hb : b ∈ blocks) :
    start ≤ b.first ∧ b.first ≤ b.last ∧ b.last < stop := by
  induction blocks generalizing start with
  | nil => cases hb
  | cons c rest ih =>
      obtain ⟨hs, hle, hrest⟩ := h
      rcases List.mem_cons.1 hb with rfl | hb
      · have := hrest.start_le
        omega
      · have := ih hrest hb
        omega

theorem Tiles.exists_holds (h : Tiles stop start blocks) (hs : start ≤ index) (hi : index < stop) :
    ∃ b ∈ blocks, b.Holds index := by
  induction blocks generalizing start with
  | nil =>
      have : start = stop := h
      omega
  | cons b rest ih =>
      obtain ⟨hb, hle, hrest⟩ := h
      by_cases hlast : index ≤ b.last
      · exact ⟨b, List.mem_cons_self, by omega, hlast⟩
      · obtain ⟨c, hc, hin⟩ := ih hrest (by omega)
        exact ⟨c, List.mem_cons_of_mem _ hc, hin⟩

theorem Tiles.position_unique (h : Tiles stop start blocks) (hb : blocks[k]? = some b)
    (hc : blocks[l]? = some c) (hbi : b.Holds index) (hci : c.Holds index) : k = l := by
  induction blocks generalizing start k l with
  | nil => cases hb
  | cons d rest ih =>
      obtain ⟨hd, hle, hrest⟩ := h
      -- Behind the first block only indices above its last one are held.
      have hbehind {e : Block} (he : e ∈ rest) (hei : e.Holds index) : d.last < index :=
        Nat.lt_of_lt_of_le (hrest.bounds he).1 hei.1
      match k, l with
      | 0, 0 => rfl
      | 0, l + 1 =>
        obtain rfl : d = b := Option.some.inj hb
        have := hbehind (List.mem_of_getElem? hc) hci
        exact absurd hbi.2 (by omega)
      | k + 1, 0 =>
        obtain rfl : d = c := Option.some.inj hc
        have := hbehind (List.mem_of_getElem? hb) hbi
        exact absurd hci.2 (by omega)
      | k + 1, l + 1 => rw [ih hrest hb hc]

theorem Tiles.block_unique (h : Tiles stop start blocks) (hb : b ∈ blocks) (hc : c ∈ blocks)
    (hbi : b.Holds index) (hci : c.Holds index) : b = c := by
  obtain ⟨k, hk⟩ := List.mem_iff_getElem?.1 hb
  obtain ⟨l, hl⟩ := List.mem_iff_getElem?.1 hc
  obtain rfl := h.position_unique hk hl hbi hci
  exact Option.some.inj (hk.symm.trans hl)

theorem Tiles.first_behind (h : Tiles stop start blocks) (hb : b ∈ blocks) (hc : c ∈ blocks)
    (hin : c.Holds (b.last + 1)) : c.first = b.last + 1 := by
  by_contra hne
  have hlast : b.Holds b.last := ⟨(h.bounds hb).2.1, Nat.le_refl _⟩
  have hle : c.first ≤ b.last := Nat.le_of_lt_succ (Nat.lt_of_le_of_ne hin.1 hne)
  obtain rfl := h.block_unique hb hc hlast ⟨hle, Nat.le_of_succ_le hin.2⟩
  exact absurd hin.2 (Nat.not_succ_le_self _)

theorem Tiles.flatMap_range (h : Tiles stop start blocks) :
    blocks.flatMap (fun b => List.range' b.first (b.last + 1 - b.first)) =
      List.range' start (stop - start) := by
  induction blocks generalizing start with
  | nil =>
      obtain rfl : start = stop := h
      simp
  | cons b rest ih =>
      obtain ⟨rfl, hle, hrest⟩ := h
      have hstop := hrest.start_le
      have hnext : b.first + (b.last + 1 - b.first) = b.last + 1 := by omega
      have hlength : b.last + 1 - b.first + (stop - (b.last + 1)) = stop - b.first := by omega
      have happend := List.range'_append_1 (s := b.first) (m := b.last + 1 - b.first)
        (n := stop - (b.last + 1))
      rw [hnext, hlength] at happend
      rw [List.flatMap_cons, ih hrest, happend]

end Block

namespace MethodBody

variable {body : MethodBody} {offset index k : Nat}

def targets (body : MethodBody) : List Nat :=
  (body.instructions.flatMap fun i => i.operand.branchTargets.filterMap body.indexOf?) ++
    body.handlers.flatMap fun h => (boundaries h).filterMap body.indexOf?

/-- The instruction of this index starts a block: it is the first, it follows one that ends a block,
or it is one of the targets. -/
def startsBlock (body : MethodBody) (targets : List Nat) (index : Nat) : Bool :=
  match index with
  | 0 => true
  | previous + 1 =>
    (body.instructions[previous]?.any fun i => i.opcode.splitsBlock) || targets.contains index

def leaders (body : MethodBody) : List Nat :=
  let targets := body.targets
  (List.range body.instructions.length).filter (body.startsBlock targets)

def blocks (body : MethodBody) : List Block :=
  blocksFrom body.instructions.length body.leaders

/-- The offset is that of the instruction of this index and of none behind it. -/
def Names (body : MethodBody) (offset index : Nat) : Prop :=
  ∃ x, body.instructions[index]? = some x ∧ x.offset = offset ∧
    ∀ y ∈ body.instructions.drop (index + 1), y.offset ≠ offset

def Splits (body : MethodBody) (index : Nat) : Prop :=
  ∃ x, body.instructions[index]? = some x ∧ x.opcode.splitsBlock

def Targeted (body : MethodBody) (index : Nat) : Prop :=
  ∃ x ∈ body.instructions, ∃ t ∈ x.operand.branchTargets, body.Names t index

def Bordered (body : MethodBody) (index : Nat) : Prop :=
  ∃ h ∈ body.handlers, ∃ offset, (offset = h.tryStart ∨ offset = h.tryEnd ∨
    offset = h.handlerStart ∨ offset = h.handlerEnd ∨ h.filterStart = some offset) ∧
      body.Names offset index

theorem indexOf?_go_eq_none {start : Nat} {l : List Instruction} :
    indexOf?.go offset start l = none ↔ ∀ x ∈ l, x.offset ≠ offset := by
  induction l generalizing start with
  | nil => simp [indexOf?.go]
  | cons i rest ih =>
      rw [indexOf?.go, Option.or_eq_none_iff, ih, List.forall_mem_cons, and_comm]
      simp

theorem indexOf?_go_eq_some {start : Nat} {l : List Instruction} :
    indexOf?.go offset start l = some index ↔ ∃ k x, index = start + k ∧ l[k]? = some x ∧
      x.offset = offset ∧ ∀ y ∈ l.drop (k + 1), y.offset ≠ offset := by
  induction l generalizing start with
  | nil => simp [indexOf?.go]
  | cons i rest ih =>
      rw [indexOf?.go, Option.or_eq_some_iff, ih, indexOf?_go_eq_none]
      constructor
      · rintro (⟨k, x, rfl, hx⟩ | ⟨hrest, hi⟩)
        · exact ⟨k + 1, x, by omega, hx⟩
        · obtain ⟨ho, hs⟩ := Option.ite_none_right_eq_some.1 hi
          exact ⟨0, i, (Option.some.inj hs).symm, rfl, ho, hrest⟩
      · rintro ⟨k, x, rfl, hx, ho, hrest⟩
        cases k with
        | zero =>
            obtain rfl : i = x := Option.some.inj hx
            exact .inr ⟨hrest, if_pos ho⟩
        | succ k => exact .inl ⟨k, x, by omega, hx, ho, hrest⟩

theorem indexOf?_eq_some_iff : body.indexOf? offset = some index ↔ body.Names offset index := by
  rw [indexOf?, indexOf?_go_eq_some]
  constructor
  · rintro ⟨k, x, rfl, hx⟩
    rw [Nat.zero_add]
    exact ⟨x, hx⟩
  · rintro ⟨x, hx⟩
    exact ⟨index, x, (Nat.zero_add index).symm, hx⟩

theorem Names.lt (h : body.Names offset index) : index < body.instructions.length := by
  obtain ⟨x, hx, _⟩ := h
  exact (List.getElem?_eq_some_iff.1 hx).1

theorem mem_bordered : index ∈ (body.handlers.flatMap fun h =>
    (boundaries h).filterMap body.indexOf?) ↔ body.Bordered index := by
  simp only [boundaries, Bordered, List.mem_append, List.mem_flatMap, List.mem_filterMap,
    List.mem_cons, List.not_mem_nil, or_false, Option.mem_toList, indexOf?_eq_some_iff, or_assoc]

theorem mem_targets : index ∈ body.targets ↔ body.Targeted index ∨ body.Bordered index := by
  rw [targets, List.mem_append, mem_bordered]
  simp only [Targeted, List.mem_flatMap, List.mem_filterMap, indexOf?_eq_some_iff]

theorem startsBlock_succ_iff : body.startsBlock body.targets (k + 1) ↔
    body.Splits k ∨ body.Targeted (k + 1) ∨ body.Bordered (k + 1) := by
  rw [startsBlock, Bool.or_eq_true, Option.any_eq_true, List.contains_iff_mem, mem_targets]
  rfl

theorem mem_leaders : k ∈ body.leaders ↔
    k < body.instructions.length ∧ body.startsBlock body.targets k := by
  rw [leaders, List.mem_filter, List.mem_range]

theorem leaders_eq_zero_cons (h : 0 < body.instructions.length) :
    ∃ rest, body.leaders = 0 :: rest := by
  obtain ⟨n, hn⟩ := Nat.exists_eq_add_one_of_ne_zero (Nat.ne_of_gt h)
  simp only [leaders, hn, List.range_succ_eq_map]
  rw [List.filter_cons_of_pos (by rfl)]
  exact ⟨_, rfl⟩

theorem blocksFrom_tiles {stop first : Nat} {rest : List Nat}
    (hs : (first :: rest).Pairwise (· < ·)) (hlt : ∀ l ∈ first :: rest, l < stop) :
    Block.Tiles stop first (blocksFrom stop (first :: rest)) := by
  induction rest generalizing first with
  | nil =>
      have := hlt first List.mem_cons_self
      refine ⟨rfl, ?_, ?_⟩
      · exact Nat.le_sub_one_of_lt this
      · exact Nat.sub_add_cancel (Nat.one_le_of_lt this)
  | cons next rest ih =>
      obtain ⟨hnext, hs⟩ := List.pairwise_cons.1 hs
      have hfirst := hnext next List.mem_cons_self
      have hrest := ih hs fun l hl => hlt l (List.mem_cons_of_mem _ hl)
      refine ⟨rfl, Nat.le_sub_one_of_lt hfirst, ?_⟩
      rw [Nat.sub_add_cancel (Nat.one_le_of_lt hfirst)]
      exact hrest

theorem map_first_blocksFrom (stop : Nat) (l : List Nat) :
    (blocksFrom stop l).map Block.first = l := by
  fun_induction blocksFrom stop l with
  | case1 | case2 => rfl
  | case3 first next rest ih => rw [List.map_cons, ih]

theorem blocks_tile (body : MethodBody) :
    Block.Tiles body.instructions.length 0 body.blocks := by
  rcases Nat.eq_zero_or_pos body.instructions.length with h | h
  · simp [blocks, leaders, blocksFrom, h, Block.Tiles]
  · obtain ⟨rest, hl⟩ := leaders_eq_zero_cons h
    rw [blocks, hl]
    apply blocksFrom_tiles
    · rw [← hl]
      exact List.pairwise_lt_range.filter _
    · intro l hm
      rw [← hl] at hm
      exact (mem_leaders.1 hm).1

theorem exists_last {b : Block} (hb : b ∈ body.blocks) :
    ∃ last, body.instructions[b.last]? = some last :=
  ⟨_, List.getElem?_eq_getElem (body.blocks_tile.bounds hb).2.2⟩

theorem exists_block_first : (∃ b ∈ body.blocks, b.first = k) ↔ k ∈ body.leaders := by
  rw [← List.mem_map, blocks, map_first_blocksFrom]

/-- A leader is held by the block that it starts and by no other. -/
theorem first_eq_of_leader {b : Block} (hb : b ∈ body.blocks) (hk : k ∈ body.leaders)
    (hin : b.Holds k) : b.first = k := by
  obtain ⟨c, hc, rfl⟩ := exists_block_first.2 hk
  have hself : c.Holds c.first := ⟨Nat.le_refl _, (body.blocks_tile.bounds hc).2.1⟩
  rw [body.blocks_tile.block_unique hb hc hin hself]

theorem first_eq_of_entered {b : Block} (hb : b ∈ body.blocks) (hin : b.Holds k)
    (h : body.Targeted k ∨ body.Bordered k) : b.first = k := by
  have hlt := Nat.lt_of_le_of_lt hin.2 (body.blocks_tile.bounds hb).2.2
  cases k with
  | zero => exact Nat.le_zero.1 hin.1
  | succ k => exact first_eq_of_leader hb (mem_leaders.2 ⟨hlt, startsBlock_succ_iff.2 (.inr h)⟩) hin

theorem last_eq_of_splits {b : Block} (hb : b ∈ body.blocks) (hin : b.Holds k)
    (h : body.Splits k) : b.last = k := by
  by_contra hne
  have hlt : k < b.last := Nat.lt_of_le_of_ne hin.2 (Ne.symm hne)
  have hstop := Nat.lt_of_le_of_lt hlt (body.blocks_tile.bounds hb).2.2
  have hnext : b.first = k + 1 := first_eq_of_leader hb
    (mem_leaders.2 ⟨hstop, startsBlock_succ_iff.2 (.inl h)⟩) ⟨Nat.le_succ_of_le hin.1, hlt⟩
  exact absurd hin.1 (by omega)

end MethodBody

end NullFlow
