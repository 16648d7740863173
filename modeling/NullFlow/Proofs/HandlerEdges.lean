import Mathlib.Data.List.Forall2
import NullFlow.Proofs.ControlFlow

namespace NullFlow

namespace MethodBody

variable {body : MethodBody} {h : ExceptionHandler} {b : Block} {i j k offset index : Nat}
  {x y : Instruction}

/-- The offsets rise from each instruction to the next. -/
def Ordered (body : MethodBody) : Prop := body.instructions.Pairwise fun x y => x.offset < y.offset

instance (body : MethodBody) : Decidable body.Ordered :=
  inferInstanceAs (Decidable (List.Pairwise _ _))

def Aligned (body : MethodBody) (h : ExceptionHandler) : Prop :=
  (∃ x ∈ body.instructions, x.offset = h.tryStart) ∧
    ((∃ x ∈ body.instructions, x.offset = h.tryEnd) ∨ ∀ x ∈ body.instructions, x.offset < h.tryEnd)

instance (body : MethodBody) (h : ExceptionHandler) : Decidable (body.Aligned h) :=
  inferInstanceAs (Decidable (_ ∧ (_ ∨ _)))

theorem Ordered.offset_lt (ho : body.Ordered) (hx : body.instructions[i]? = some x)
    (hy : body.instructions[j]? = some y) (hlt : i < j) : x.offset < y.offset := by
  obtain ⟨hi, rfl⟩ := List.getElem?_eq_some_iff.1 hx
  obtain ⟨hj, rfl⟩ := List.getElem?_eq_some_iff.1 hy
  exact List.pairwise_iff_getElem.1 ho i j hi hj hlt

theorem Ordered.offset_le_iff (ho : body.Ordered) (hx : body.instructions[i]? = some x)
    (hy : body.instructions[j]? = some y) : x.offset ≤ y.offset ↔ i ≤ j := by
  constructor
  · intro hle
    by_contra hji
    have := ho.offset_lt hy hx (Nat.lt_of_not_le hji)
    omega
  · intro hij
    rcases Nat.eq_or_lt_of_le hij with rfl | hlt
    · cases Option.some.inj (hx.symm.trans hy)
      exact Nat.le_refl _
    · exact Nat.le_of_lt (ho.offset_lt hx hy hlt)

theorem Ordered.names (ho : body.Ordered) (hx : body.instructions[i]? = some x) :
    body.Names x.offset i := by
  refine ⟨x, hx, rfl, fun y hy => ?_⟩
  obtain ⟨k, hk⟩ := List.mem_iff_getElem?.1 hy
  rw [List.getElem?_drop] at hk
  exact Nat.ne_of_gt (ho.offset_lt hx hk (by omega))

/-- Where a protected region starts or ends does not come between the first instruction of a block and
another: it would be the first itself. -/
theorem Ordered.border_le_iff (ho : body.Ordered) (hh : h ∈ body.handlers)
    (hborder : offset = h.tryStart ∨ offset = h.tryEnd)
    (hoffset : ∃ z ∈ body.instructions, z.offset = offset) (hb : b ∈ body.blocks) (hin : b.Holds i)
    (hx : body.instructions[i]? = some x) (hy : body.instructions[b.first]? = some y) :
    offset ≤ x.offset ↔ offset ≤ y.offset := by
  obtain ⟨z, hz, rfl⟩ := hoffset
  obtain ⟨k, hk⟩ := List.mem_iff_getElem?.1 hz
  rw [ho.offset_le_iff hk hx, ho.offset_le_iff hk hy]
  constructor
  · intro hki
    by_contra hlt
    have hcut : body.Bordered k := ⟨h, hh, z.offset, by tauto, ho.names hk⟩
    have hfirst := first_eq_of_entered hb ⟨by omega, Nat.le_trans hki hin.2⟩ (.inr hcut)
    omega
  · intro hkf
    exact Nat.le_trans hkf hin.1

theorem Ordered.protects_iff (ho : body.Ordered) (hh : h ∈ body.handlers) (ha : body.Aligned h)
    (hb : b ∈ body.blocks) (hin : b.Holds i) (hx : body.instructions[i]? = some x)
    (hy : body.instructions[b.first]? = some y) : h.protects x.offset ↔ h.protects y.offset := by
  obtain ⟨hstart, hend⟩ := ha
  have hfrom := ho.border_le_iff hh (.inl rfl) hstart hb hin hx hy
  have hto : x.offset < h.tryEnd ↔ y.offset < h.tryEnd := by
    rcases hend with hend | hbehind
    · rw [← Nat.not_le, ← Nat.not_le, ho.border_le_iff hh (.inr rfl) hend hb hin hx hy]
    · exact iff_of_true (hbehind x (List.mem_of_getElem? hx)) (hbehind y (List.mem_of_getElem? hy))
  simp only [ExceptionHandler.protects, Bool.and_eq_true, decide_eq_true_eq, hfrom, hto]

theorem flatMap_zipIdx_pick {α β : Type} {F : α → List β} {l : List α} {a : α}
    (ha : l[j]? = some a) :
    (l.zipIdx k).flatMap (fun e => if e.2 = k + j then F e.1 else []) = F a := by
  induction l generalizing k j with
  | nil => cases ha
  | cons c l ih =>
      rw [List.zipIdx_cons, List.flatMap_cons]
      cases j with
      | zero =>
          obtain rfl : c = a := Option.some.inj ha
          have hrest : (l.zipIdx (k + 1)).flatMap
              (fun e => if e.2 = k + 0 then F e.1 else []) = [] := by
            refine List.flatMap_eq_nil_iff.2 fun e he => if_neg ?_
            have := List.le_snd_of_mem_zipIdx he
            omega
          rw [hrest, List.append_nil]
          exact if_pos rfl
      | succ j =>
          rw [if_neg (by simp), List.nil_append, ← Nat.add_assoc, Nat.add_right_comm]
          exact ih ha

/-- The ways into one handler stand together in the list, the filter's behind the handler's own. -/
theorem filter_handlerEntries (hh : body.handlers[index]? = some h) :
    body.handlerEntries.filter (fun e => e.1 = index) =
      (h.handlerStart :: h.filterStart.toList).map fun start => (index, h, start) := by
  have hpick := flatMap_zipIdx_pick (k := 0) (F := fun h : ExceptionHandler =>
    (h.handlerStart :: h.filterStart.toList).map fun start => (index, h, start)) hh
  rw [← hpick, handlerEntries, List.filter_flatMap]
  refine List.flatMap_congr fun e _ => ?_
  obtain ⟨h', i⟩ := e
  by_cases hi : i = index
  · subst hi
    cases hf : h'.filterStart <;> simp [hf]
  · cases hf : h'.filterStart <;> simp [hf, hi]

end MethodBody

def Node.handler? : Node → Option Nat
  | .exception index _ => some index
  | _ => none

namespace Graph

variable {body : MethodBody} {g : Graph} {h : ExceptionHandler} {n t x k start index : Nat}
  {kind : EdgeKind}

def waysInto (g : Graph) (index : Nat) : List Nat :=
  g.nodes.zipIdx.filterMap fun e => if e.1.handler? = some index then some e.2 else none

theorem mem_waysInto :
    x ∈ g.waysInto index ↔ ∃ receives, g.nodes[x]? = some (.exception index receives) := by
  simp only [waysInto, List.mem_filterMap, Prod.exists, List.mem_zipIdx_iff_getElem?,
    Option.ite_none_right_eq_some, Option.some.injEq]
  constructor
  · rintro ⟨node, _, hn, hh, rfl⟩
    cases node with
    | exception index' receives =>
        cases Option.some.inj hh
        exact ⟨receives, hn⟩
    | entry | exit | block => cases hh
  · rintro ⟨receives, hn⟩
    exact ⟨_, x, hn, rfl, rfl⟩

theorem positions_of_filter {α : Type} (q : α → Prop) [DecidablePred q] (l : List α) (k : Nat) :
    List.Forall₂ (fun n a => ∃ j, n = k + j ∧ l[j]? = some a)
      ((l.zipIdx k).filterMap fun e => if q e.1 then some e.2 else none) (l.filter q) := by
  induction l generalizing k with
  | nil => exact .nil
  | cons a l ih =>
      have hrest : List.Forall₂ (fun n c => ∃ j, n = k + j ∧ (a :: l)[j]? = some c)
          ((l.zipIdx (k + 1)).filterMap fun e => if q e.1 then some e.2 else none)
          (l.filter q) := by
        refine (ih (k + 1)).imp ?_
        rintro n c ⟨j, rfl, hj⟩
        exact ⟨j + 1, by omega, hj⟩
      rw [List.zipIdx_cons, List.filterMap_cons, List.filter_cons]
      by_cases ha : q a
      · simp only [ha, if_true, decide_true]
        exact .cons ⟨0, rfl, rfl⟩ hrest
      · simp only [ha, if_false, decide_false, Bool.false_eq_true]
        exact hrest

theorem plain_length (body : MethodBody) :
    (Node.entry :: Node.exit :: body.blocks.map Node.block).length =
      firstBlock + body.blocks.length := by
  simp only [List.length_cons, List.length_map, firstBlock]
  omega

theorem waysInto_eq (body : MethodBody) (index : Nat) : (assemble body).waysInto index =
    (body.handlerEntries.zipIdx (firstBlock + body.blocks.length)).filterMap
      fun e => if e.1.1 = index then some e.2 else none := by
  have hplain : ((Node.entry :: Node.exit :: body.blocks.map Node.block).zipIdx.filterMap
      fun e => if e.1.handler? = some index then some e.2 else none) = [] := by
    refine List.filterMap_eq_nil_iff.2 fun e he => if_neg ?_
    have hmem := List.fst_mem_of_mem_zipIdx he
    simp only [List.mem_cons, List.mem_map] at hmem
    rcases hmem with hk | hk | ⟨b, _, hk⟩
    · rw [hk]; nofun
    · rw [hk]; nofun
    · rw [← hk]; nofun
  simp only [waysInto, assemble, List.zipIdx_append, List.filterMap_append, hplain,
    List.nil_append, List.zipIdx_map, List.filterMap_map]
  rw [Nat.zero_add, plain_length]
  apply List.filterMap_congr
  intro e _
  simp [Node.handler?]

theorem waysInto_assemble (hh : body.handlers[index]? = some h) :
    List.Forall₂ (fun x start => ∃ k, x = firstBlock + body.blocks.length + k ∧
        body.handlerEntries[k]? = some (index, h, start))
      ((assemble body).waysInto index) (h.handlerStart :: h.filterStart.toList) := by
  have hways := positions_of_filter (fun e : Nat × ExceptionHandler × Nat => e.1 = index)
    body.handlerEntries (firstBlock + body.blocks.length)
  rw [MethodBody.filter_handlerEntries hh, List.forall₂_map_right_iff] at hways
  rw [waysInto_eq]
  exact hways

/-- A way into the handler: a node that stands for it alone, and whose one edge leads to the block
that starts at the given offset. -/
def Enters (body : MethodBody) (g : Graph) (index : Nat) (h : ExceptionHandler) (x start : Nat) :
    Prop :=
  ∃ receives t b first, g.nodes[x]? = some (.exception index receives) ∧
    (receives = true ↔ h.kind = .catch ∨ h.kind = .filter) ∧
    g.nodes[t]? = some (.block b) ∧ body.instructions[b.first]? = some first ∧
    first.offset = start ∧ ∀ e, e ∈ g.edges ∧ e.source = x ↔ e = ⟨x, t, .exception⟩

section Entry

variable (hk : body.handlerEntries[k]? = some (index, h, start))

include hk

theorem exception_node_of_entry : (assemble body).nodes[firstBlock + body.blocks.length + k]? =
    some (.exception index h.kind.receivesException) := by
  have hlen := plain_length body
  rw [assemble, List.getElem?_append_right (by omega), hlen, Nat.add_sub_cancel_left,
    List.getElem?_map, hk]
  rfl

theorem source_edge_cases
    (he : Edge.mk (firstBlock + body.blocks.length + k) t kind ∈ (assemble body).edges) :
    kind = .exception ∧ ∃ i, body.Names start i ∧ t = nodeOf body.blocks i := by
  have hkind : kind = .exception := by
    rcases edge_cases he with ⟨_, hn, _⟩ | ⟨b, _, hb, _⟩ | ⟨hthrown, _⟩
    · simp only [firstBlock, entry] at hn
      omega
    · rw [exception_node_of_entry hk] at hb
      cases hb
    · exact hthrown
  subst hkind
  refine ⟨rfl, ?_⟩
  obtain ⟨k', index', h', start', hk', ht⟩ := exception_edge_iff.1 he
  generalize hn : firstBlock + body.blocks.length + k = n at ht
  cases ht with
  | onward hi =>
      obtain rfl : k = k' := Nat.add_left_cancel hn
      cases Option.some.inj (hk.symm.trans hk')
      exact ⟨_, hi, rfl⟩
  | inward hb _ _ =>
      have := (List.getElem?_eq_some_iff.1 hb).1
      omega

theorem target_edge_iff {b : Block} {x : Instruction}
    (hb : (assemble body).nodes[n]? = some (.block b))
    (hx : body.instructions[b.first]? = some x) :
    ⟨n, firstBlock + body.blocks.length + k, .exception⟩ ∈ (assemble body).edges ↔
      h.protects x.offset := by
  obtain ⟨m, rfl, hm⟩ := block_node hb
  rw [exception_edge_iff]
  constructor
  · rintro ⟨k', index', h', start', hk', ht⟩
    generalize hn : firstBlock + m = n at ht
    generalize ht' : firstBlock + body.blocks.length + k = t at ht
    cases ht with
    | onward _ =>
        have := (List.getElem?_eq_some_iff.1 hm).1
        omega
    | inward hb' hx' hp =>
        obtain rfl : m = _ := Nat.add_left_cancel hn
        obtain rfl : k = k' := Nat.add_left_cancel ht'
        cases Option.some.inj (hm.symm.trans hb')
        cases Option.some.inj (hx.symm.trans hx')
        cases Option.some.inj (hk.symm.trans hk')
        exact hp
  · intro hp
    exact ⟨k, index, h, start, hk, .inward hm hx hp⟩

end Entry

theorem enters_of_entry (hg : ofBody body = .ok g)
    (hk : body.handlerEntries[k]? = some (index, h, start)) :
    Enters body g index h (firstBlock + body.blocks.length + k) start := by
  have hmem := List.mem_of_getElem? hk
  obtain ⟨i, hi⟩ := names_of_entry hg hmem
  obtain rfl := eq_assemble hg
  obtain ⟨b, hb, hin⟩ := nodeOf_holds hi.lt
  -- The block that holds the handler's first instruction starts with it.
  obtain ⟨hh, hstart⟩ := MethodBody.mem_handlerEntries.1 hmem
  have hcut : body.Bordered i := ⟨h, List.mem_of_getElem? hh, start, by tauto, hi⟩
  have hfirst := MethodBody.first_eq_of_entered (mem_blocks_of_node hb) hin (.inr hcut)
  obtain ⟨x, hx, hoffset, _⟩ := id hi
  refine ⟨_, _, b, x, exception_node_of_entry hk, ?_, hb, hfirst ▸ hx, hoffset, fun e => ?_⟩
  · cases h.kind <;> decide
  · constructor
    · rintro ⟨he, hs⟩
      obtain ⟨n, t, kind⟩ := e
      obtain rfl : n = _ := hs
      obtain ⟨rfl, i', hi', rfl⟩ := source_edge_cases hk he
      have hsame := Option.some.inj ((MethodBody.indexOf?_eq_some_iff.2 hi).symm.trans
        (MethodBody.indexOf?_eq_some_iff.2 hi'))
      rw [hsame]
    · rintro rfl
      exact ⟨exception_edge_iff.2 ⟨k, index, h, start, hk, .onward hi⟩, rfl⟩

/-- The graph has one node for the start of the handler and one for its filter if it has one. To each
of them lead the blocks of the protected region, which no block straddles. -/
structure Handles (body : MethodBody) (g : Graph) (index : Nat) (h : ExceptionHandler) : Prop where
  ways : List.Forall₂ (Enters body g index h) (g.waysInto index)
    (h.handlerStart :: h.filterStart.toList)
  edges : ∀ n b i x, g.nodes[n]? = some (.block b) → b.Holds i → body.instructions[i]? = some x →
    ∀ w ∈ g.waysInto index,
      ⟨n, w, .exception⟩ ∈ g.edges ↔ h.tryStart ≤ x.offset ∧ x.offset < h.tryEnd
  whole : ∀ b ∈ g.blocks, ∀ i j x y, b.Holds i → b.Holds j → body.instructions[i]? = some x →
    body.instructions[j]? = some y → (h.protects x.offset ↔ h.protects y.offset)

theorem ofBody_handles (hg : ofBody body = .ok g) (ho : body.Ordered)
    (hh : body.handlers[index]? = some h) (ha : body.Aligned h) : Handles body g index h := by
  have hmem := List.mem_of_getElem? hh
  have hfirst {b : Block} (hb : b ∈ body.blocks) :
      ∃ y, body.instructions[b.first]? = some y := by
    have hbounds := body.blocks_tile.bounds hb
    exact ⟨_, List.getElem?_eq_getElem (by omega)⟩
  constructor
  · rw [eq_assemble hg]
    refine (waysInto_assemble hh).imp ?_
    rintro x start ⟨k, rfl, hk⟩
    rw [← eq_assemble hg]
    exact enters_of_entry hg hk
  · obtain rfl := eq_assemble hg
    intro n b i x hb hin hx w hw
    have hbm := mem_blocks_of_node hb
    obtain ⟨y, hy⟩ := hfirst hbm
    obtain ⟨receives, hw⟩ := mem_waysInto.1 hw
    obtain ⟨k, h', start, rfl, hk, _⟩ := exception_node hw
    have hh' := (MethodBody.mem_handlerEntries.1 (List.mem_of_getElem? hk)).1
    cases Option.some.inj (hh.symm.trans hh')
    have hprotects := ho.protects_iff hmem ha hbm hin hx hy
    rw [target_edge_iff hk hb hy, ← hprotects, ExceptionHandler.protects, Bool.and_eq_true,
      decide_eq_true_eq, decide_eq_true_eq]
  · obtain rfl := eq_assemble hg
    intro b hb i j x y hi hj hx hy
    rw [assemble_blocks] at hb
    obtain ⟨z, hz⟩ := hfirst hb
    rw [ho.protects_iff hmem ha hb hi hx hz, ho.protects_iff hmem ha hb hj hy hz]

def guarded : MethodBody where
  maxStack := 1
  locals := []
  instructions := [
    ⟨0, .nop, .none⟩, ⟨2, .nop, .none⟩, ⟨3, .nop, .none⟩, ⟨5, .leave, .target 12⟩,
    ⟨6, .endfilter, .none⟩, ⟨8, .pop, .none⟩, ⟨9, .leave, .target 12⟩, ⟨12, .ret, .none⟩]
  handlers := [⟨.filter, 2, 5, 8, 12, some 6⟩, ⟨.fault, 0, 6, 12, 13, none⟩,
    ⟨.catch, 8, 40, 12, 13, none⟩]

theorem guarded_handles : ∃ g, ofBody guarded = .ok g ∧ guarded.Ordered ∧
    g.blocks = [⟨0, 0⟩, ⟨1, 2⟩, ⟨3, 3⟩, ⟨4, 4⟩, ⟨5, 6⟩, ⟨7, 7⟩] ∧
    g.waysInto 0 = [8, 9] ∧ g.waysInto 2 = [11] ∧
    Handles guarded g 0 ⟨.filter, 2, 5, 8, 12, some 6⟩ ∧
    Handles guarded g 2 ⟨.catch, 8, 40, 12, 13, none⟩ :=
  ⟨assemble guarded, rfl, by decide, by decide, by decide, by decide,
    ofBody_handles rfl (by decide) rfl (by decide), ofBody_handles rfl (by decide) rfl (by decide)⟩

end Graph

end NullFlow
