import Mathlib.Data.List.Sort
import NullFlow.Graph.Drawing
import NullFlow.Proofs.DanglingReferences
import NullFlow.Proofs.HandlerEdges
import NullFlow.Proofs.KeyedSort
import NullFlow.Proofs.MethodFlow

namespace NullFlow

theorem EdgeKind.rank_injective : Function.Injective EdgeKind.rank := by
  intro a b h
  cases a <;> cases b <;> first | rfl | cases h

namespace Edge

def key (e : Edge) : ℕ ×ₗ ℕ ×ₗ ℕ := toLex (e.source, toLex (e.target, e.kind.rank))

theorem key_injective : Function.Injective key := by
  rintro ⟨source, target, kind⟩ ⟨source', target', kind'⟩ h
  simp only [key, toLex.injective.eq_iff, Prod.mk.injEq, EdgeKind.rank_injective.eq_iff] at h
  obtain ⟨rfl, rfl, rfl⟩ := h
  rfl

theorem before_iff {e d : Edge} : e.before d ↔ e.key < d.key := by
  simp [before, key, Prod.Lex.toLex_lt_toLex]

theorem le_of_before {e d : Edge} (h : e.before d) :
    e.source ≤ d.source ∧ (e.source = d.source → e.target ≤ d.target) := by
  simp only [before, Bool.or_eq_true, Bool.and_eq_true, decide_eq_true_eq, beq_iff_eq] at h
  omega

theorem insert_eq (e : Edge) (l : List Edge) : insert e l = Keyed.insert key e l := by
  induction l with
  | nil => rfl
  | cons d l ih =>
      rw [insert, Keyed.insert, ih]
      simp only [before_iff]
      rcases lt_trichotomy e.key d.key with hlt | heq | hgt
      · rw [if_pos hlt, if_pos hlt]
      · obtain rfl := key_injective heq
        rw [if_neg (lt_irrefl _), if_neg (lt_irrefl _), if_neg (lt_irrefl _), if_pos rfl]
      · have hne : e ≠ d := fun h => hgt.ne' (congrArg key h)
        rw [if_neg hgt.not_gt, if_neg hgt.not_gt, if_neg hne, if_pos hgt]

theorem sort_increasing (l : List Edge) : (sort l).Pairwise fun e d => e.before d := by
  have hsorted : Keyed.Sorted key (sort l) := by
    induction l with
    | nil => exact List.Pairwise.nil
    | cons e l ih =>
        rw [sort, List.foldr_cons, insert_eq]
        exact ih.insert e
  exact hsorted.imp before_iff.2

end Edge

namespace Graph

variable {body : MethodBody} {g : Graph} {n t x index : Nat} {receives : Bool} {kind : EdgeKind}

theorem squeeze_increasing {l : List Nat} (h : l.Pairwise (· ≤ ·)) :
    (squeeze l).Pairwise (· < ·) := by
  fun_induction squeeze l with
  | case1 => exact .nil
  | case2 a => exact List.pairwise_singleton _ _
  | case3 a rest ih => exact ih h.tail
  | case4 a b rest hne ih =>
      obtain ⟨ha, htail⟩ := List.pairwise_cons.1 h
      have hlt : a < b := Nat.lt_of_le_of_ne (ha b List.mem_cons_self) hne
      refine List.pairwise_cons.2 ⟨fun c hc => ?_, ih htail⟩
      rcases List.mem_cons.1 (mem_squeeze.1 hc) with rfl | hc
      · exact hlt
      · exact Nat.lt_of_lt_of_le hlt ((List.pairwise_cons.1 htail).1 c hc)

section Sorted

variable (h : g.edges.Pairwise fun e d => e.before d)

include h

theorem successors_increasing (n : Nat) : (g.successors n).Pairwise (· < ·) := by
  refine squeeze_increasing (List.pairwise_map.2 (List.pairwise_filter.2 (h.imp ?_)))
  intro e d hlt he hd
  exact (Edge.le_of_before hlt).2 ((beq_iff_eq.1 he).trans (beq_iff_eq.1 hd).symm)

theorem predecessors_increasing (n : Nat) : (g.predecessors n).Pairwise (· < ·) := by
  refine squeeze_increasing (List.pairwise_map.2 (List.pairwise_filter.2 (h.imp ?_)))
  intro e d hlt _ _
  exact (Edge.le_of_before hlt).1

end Sorted

theorem linked_iff : g.Linked n t ↔ ∃ e ∈ g.edges, e.source = n ∧ e.target = t := by
  constructor
  · rintro ⟨kind, he⟩
    exact ⟨_, he, rfl, rfl⟩
  · rintro ⟨e, he, rfl, rfl⟩
    exact ⟨e.kind, he⟩

theorem linked_inside (h : (assemble body).Linked n t) :
    n < (assemble body).nodes.length ∧ t < (assemble body).nodes.length := by
  refine ⟨?_, (assemble_linked h).2⟩
  obtain ⟨kind, he⟩ := h
  rcases edge_cases he with ⟨_, rfl, _⟩ | ⟨b, _, hb, _⟩ | ⟨_, k, _, _, _, hk, ht⟩
  · exact Nat.zero_lt_succ _
  · exact (List.getElem?_eq_some_iff.1 hb).1
  · cases ht with
    | onward _ => exact (List.getElem?_eq_some_iff.1 (exception_node_of_entry hk)).1
    | inward hb _ _ => exact (List.getElem?_eq_some_iff.1 (block_node_iff.2 ⟨_, rfl, hb⟩)).1

theorem not_linked_exit : ¬ (assemble body).Linked exit t := by
  rintro ⟨kind, he⟩
  rcases edge_cases he with ⟨_, hn, _⟩ | ⟨b, _, hb, _⟩ | ⟨_, k, _, _, _, _, ht⟩
  · cases hn
  · cases hb
  · have hle := ht.le_source (by omega)
    exact absurd hle (by decide)

theorem block_of_linked_exception (hx : (assemble body).nodes[x]? = some (.exception index receives))
    (h : (assemble body).Linked n x) : ∃ b, (assemble body).nodes[n]? = some (.block b) := by
  have hplain {i : Nat} (hi : i < body.instructions.length) : x ≠ nodeOf body.blocks i := by
    rintro rfl
    obtain ⟨b, hb, _⟩ := nodeOf_holds hi
    cases hb.symm.trans hx
  obtain ⟨kind, he⟩ := h
  rcases edge_cases he with ⟨hne, _, ht, _⟩ | ⟨b, _, hb, _⟩ | ⟨_, k, _, _, _, _, ht⟩
  · exact absurd ht (hplain (List.length_pos_iff.2 hne))
  · exact ⟨b, hb⟩
  · cases ht with
    | onward hi => exact absurd rfl (hplain hi.lt)
    | inward hb _ _ => exact ⟨_, block_node_iff.2 ⟨_, rfl, hb⟩⟩

theorem exception_nodes (body : MethodBody) :
    (body.handlerEntries.map fun e => Node.exception e.1 e.2.1.kind.receivesException) =
      body.handlers.zipIdx.flatMap fun e => List.replicate (if e.1.filterStart.isSome then 2 else 1)
        (.exception e.2 e.1.kind.receivesException) := by
  rw [MethodBody.handlerEntries, List.map_flatMap]
  congr 1
  funext e
  cases hf : e.1.filterStart <;> simp [hf]

/-- What every graph has in common: the kinds of its nodes in order, edges between nodes of the graph
and each of them once, lists of neighbours that agree with the edges, and blocks inside the body. -/
structure WellFormed (body : MethodBody) (g : Graph) : Prop where
  nodes : g.nodes = .entry :: .exit :: g.blocks.map .block ++
    body.handlers.zipIdx.flatMap fun e => List.replicate (if e.1.filterStart.isSome then 2 else 1)
      (.exception e.2 e.1.kind.receivesException)
  inside : ∀ e ∈ g.edges, e.source < g.nodes.length ∧ e.target < g.nodes.length
  increasing : g.edges.Pairwise fun e d => e.before d
  successors : ∀ n t, t ∈ g.successors n ↔ ∃ e ∈ g.edges, e.source = n ∧ e.target = t
  predecessors : ∀ n t, n ∈ g.predecessors t ↔ t ∈ g.successors n
  neighbours : ∀ n, (∀ t ∈ g.successors n, t < g.nodes.length) ∧
    ∀ m ∈ g.predecessors n, m < g.nodes.length
  ordered : ∀ n, (g.successors n).Pairwise (· < ·) ∧ (g.predecessors n).Pairwise (· < ·)
  entry : g.predecessors entry = []
  exit : g.successors exit = []
  exceptions : ∀ x index receives, g.nodes[x]? = some (.exception index receives) →
    (∃ t b, g.successors x = [t] ∧ g.nodes[t]? = some (.block b)) ∧
    ∀ n ∈ g.predecessors x, ∃ b, g.nodes[n]? = some (.block b)
  blocks : ∀ b ∈ g.blocks, b.first ≤ b.last ∧ b.last < body.instructions.length

theorem successors_exception (hg : ofBody body = .ok g)
    (hx : g.nodes[x]? = some (.exception index receives)) :
    ∃ t b, g.successors x = [t] ∧ g.nodes[t]? = some (.block b) := by
  have hsorted : g.edges.Pairwise fun e d => e.before d := eq_assemble hg ▸ Edge.sort_increasing _
  rw [eq_assemble hg] at hx
  obtain ⟨k, h, start, rfl, hk, _⟩ := exception_node hx
  obtain ⟨_, t, b, _, _, _, hb, _, _, hedge⟩ := enters_of_entry hg hk
  refine ⟨t, b, ?_, hb⟩
  refine (successors_increasing hsorted _).eq_of_mem_iff (List.pairwise_singleton _ t) fun u => ?_
  rw [mem_successors, linked_iff, List.mem_singleton]
  constructor
  · rintro ⟨e, he, hs, rfl⟩
    rw [(hedge e).1 ⟨he, hs⟩]
  · rintro rfl
    exact ⟨_, ((hedge _).2 rfl).1, rfl, rfl⟩

theorem ofBody_wellFormed (hg : ofBody body = .ok g) : WellFormed body g := by
  have hsorted : g.edges.Pairwise fun e d => e.before d := eq_assemble hg ▸ Edge.sort_increasing _
  have hinside {n t : Nat} (h : g.Linked n t) : n < g.nodes.length ∧ t < g.nodes.length := by
    rw [eq_assemble hg] at h ⊢
    exact linked_inside h
  constructor
  · rw [eq_assemble hg, assemble_blocks, ← exception_nodes]
    rfl
  · intro e he
    exact hinside ⟨e.kind, he⟩
  · exact hsorted
  · intro n t
    rw [mem_successors, linked_iff]
  · intro n t
    rw [mem_predecessors, mem_successors]
  · intro n
    exact ⟨fun t ht => (hinside (mem_successors.1 ht)).2,
      fun m hm => (hinside (mem_predecessors.1 hm)).1⟩
  · intro n
    exact ⟨successors_increasing hsorted n, predecessors_increasing hsorted n⟩
  · refine List.eq_nil_iff_forall_not_mem.2 fun n hn => ?_
    have hlinked := mem_predecessors.1 hn
    rw [eq_assemble hg] at hlinked
    exact absurd (assemble_linked hlinked).1 (Nat.lt_irrefl _)
  · refine List.eq_nil_iff_forall_not_mem.2 fun t ht => ?_
    have hlinked := mem_successors.1 ht
    rw [eq_assemble hg] at hlinked
    exact not_linked_exit hlinked
  · intro x index receives hx
    refine ⟨successors_exception hg hx, fun n hn => ?_⟩
    have hlinked := mem_predecessors.1 hn
    rw [eq_assemble hg] at hx hlinked ⊢
    exact block_of_linked_exception hx hlinked
  · intro b hb
    rw [eq_assemble hg, assemble_blocks] at hb
    exact (body.blocks_tile.bounds hb).2

end Graph

namespace Dataflow

variable {F E : Type} [DecidableEq F] {p : Dataflow F E} {facts : List F} {s : State F} {n : Nat}

/-- A run that visits the waiting nodes in some order looks up the fact of a node in a state: when it
visits the node, and when it sends to it what leaves another. -/
inductive LooksUp (p : Dataflow F E) (facts : List F) : State F → Nat → Prop
  | visited {s : State F} {n : Nat} (hr : p.Reachable (start facts) s) (hq : n ∈ s.queue) :
      LooksUp p facts s n
  | sent {s s' : State F} {n t : Nat} {fact out : F} {earlier later : List Nat}
      (hr : p.Reachable (start facts) s) (hq : n ∈ s.queue) (hf : s.facts[n]? = some fact)
      (ht : p.transfer n fact = .ok out) (hs : p.successors n = earlier ++ t :: later)
      (hsent : earlier.foldlM (p.send out) (s.pick n) = .ok s') : LooksUp p facts s' t

theorem LooksUp.inside {Proper : Nat → F → Prop} {Used : F → Prop} {rank : F → Nat} {height : Nat}
    (hl : p.Lawful Proper Used rank height) (hseeds : p.seeds = .ok facts)
    (h : p.LooksUp facts s n) : s.facts.length = p.size ∧ n < p.size := by
  cases h with
  | visited hr hq =>
      have hguarded := reachable_guarded hl hr (start_guarded hl hseeds)
      exact ⟨hguarded.length, hguarded.inside n (.inr hq)⟩
  | @sent _ _ m _ _ _ _ _ hr hq _ _ hs hsent =>
      have hguarded := reachable_guarded hl hr (start_guarded hl hseeds)
      have hmem : n ∈ p.successors m := hs ▸ List.mem_append_right _ List.mem_cons_self
      exact ⟨(foldlM_send_length hsent).trans hguarded.length, hl.closed m n hmem⟩

end Dataflow

namespace Scope

variable {s : Scope} {g : Graph}

/-- Whatever is looked up by number is there: the ends and the instructions of a block, the block that
holds an instruction, the instruction that the body refers to, and the node and the fact of a number
that the loop comes to. -/
structure InRange (s : Scope) (g : Graph) : Prop where
  ends : ∀ b ∈ g.blocks, ∃ first last, s.body.instructions[b.first]? = some first ∧
    s.body.instructions[b.last]? = some last ∧
    b.label s.body = Offset.label first.offset ++ "-" ++ Offset.label last.offset
  slices : ∀ b ∈ g.blocks, (b.instructions s.body).length = b.last + 1 - b.first
  held : ∀ i < s.body.instructions.length, g.Holds (Graph.nodeOf g.blocks i) i
  references : ∀ r ∈ s.body.references, ∃ i < s.body.instructions.length,
    s.body.indexOf? r.1 = some i
  facts : ∀ facts, (s.dataflow g).seeds = .ok facts →
    ∀ state n, (s.dataflow g).LooksUp facts state n →
      (∃ fact, state.facts[n]? = some fact) ∧ ∃ node, g.nodes[n]? = some node
  reports : ∀ sol, s.solve g = .ok sol → sol.facts.length = g.nodes.length

theorem inRange (hg : Graph.ofBody s.body = .ok g) : s.InRange g := by
  have hbounds := (Graph.ofBody_wellFormed hg).blocks
  constructor
  · intro b hb
    obtain ⟨hle, hlt⟩ := hbounds b hb
    have hfirst := List.getElem?_eq_getElem (Nat.lt_of_le_of_lt hle hlt)
    have hlast := List.getElem?_eq_getElem hlt
    refine ⟨_, _, hfirst, hlast, ?_⟩
    simp only [Block.label, hfirst, hlast]
  · intro b hb
    obtain ⟨hle, hlt⟩ := hbounds b hb
    rw [Block.instructions, List.length_take, List.length_drop]
    omega
  · intro i hi
    rw [Graph.eq_assemble hg, Graph.assemble_blocks]
    exact Graph.nodeOf_holds hi
  · intro r hr
    obtain ⟨i, hi⟩ := (Graph.ofBody_isOk_iff.1 ⟨g, hg⟩ r hr).index
    exact ⟨i, (MethodBody.indexOf?_eq_some_iff.1 hi).lt, hi⟩
  · intro facts hseeds state n hlooks
    obtain ⟨hlength, hlt⟩ := hlooks.inside (dataflow_lawful hg) hseeds
    exact ⟨⟨_, List.getElem?_eq_getElem (hlength ▸ hlt)⟩, _, List.getElem?_eq_getElem hlt⟩
  · intro sol h
    exact (solve_guarded hg h).length

theorem graph_wellFormed (hg : Graph.ofBody s.body = .ok g) :
    Graph.WellFormed s.body g ∧ s.InRange g :=
  ⟨Graph.ofBody_wellFormed hg, inRange hg⟩

def sentry : Scope where
  owner := "Sample.Widget"
  method := ⟨"Stand", ⟨"System.Void", true⟩, true, [], [], none⟩
  body := Graph.guarded
  contracts := .empty

theorem sentry_wellFormed : ∃ g, Graph.ofBody sentry.body = .ok g ∧ g.nodes.length = 12 ∧
    g.predecessors 8 = [3] ∧ g.successors 8 = [6] ∧ g.predecessors 7 = [4, 6, 10, 11] ∧
    Graph.WellFormed sentry.body g ∧ sentry.InRange g :=
  ⟨Graph.assemble sentry.body, rfl, by decide, by decide, by decide, by decide,
    graph_wellFormed rfl⟩

end Scope

end NullFlow
