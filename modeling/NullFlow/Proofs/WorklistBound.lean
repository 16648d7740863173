import Mathlib.Algebra.Group.Action.Defs
import Mathlib.Algebra.Order.BigOperators.Group.Finset
import NullFlow.Proofs.Worklist

namespace NullFlow.Dataflow

variable {F E : Type} [DecidableEq F] {p : Dataflow F E} {s s' : State F} {out : F}
  {Proper : Nat → F → Prop} {Used : F → Prop} {rank : F → Nat} {height : Nat} {node target : Nat}

/-- What holds of the fact of every node (`Proper`) and of what flows out of visited nodes (`Used`).
A fact that changes rises in `rank`, which has a bound. -/
structure Lawful (p : Dataflow F E) (Proper : Nat → F → Prop) (Used : F → Prop) (rank : F → Nat)
    (height : Nat) : Prop where
  nonempty : 0 < p.size
  closed : ∀ n, ∀ t ∈ p.successors n, t < p.size
  seed : ∀ {n f}, p.seed n = .ok f → Proper n f
  first : ∀ {f}, p.seed 0 = .ok f → Used f
  transfer : ∀ {n f out}, Used f → p.transfer n f = .ok out → Used out
  merge : ∀ {n f out m}, Proper n f → Used out → p.merge f (p.enter n out) = .ok m →
    Proper n m ∧ Used m
  rises : ∀ {n f out m}, Proper n f → Used out → p.merge f (p.enter n out) = .ok m → m ≠ f →
    rank f < rank m
  bounded : ∀ {n f}, Proper n f → rank f ≤ height

/-- What every state of the loop has in common. A node has been visited, or waits to be, at most once
more than its fact has risen. -/
structure Guarded (p : Dataflow F E) (Proper : Nat → F → Prop) (Used : F → Prop) (rank : F → Nat)
    (s : State F) : Prop where
  length : s.facts.length = p.size
  inside : ∀ n, n ∈ s.trail ∨ n ∈ s.queue → n < p.size
  proper : ∀ n f, s.facts[n]? = some f → Proper n f
  used : ∀ n f, n ∈ s.trail ∨ n ∈ s.queue → s.facts[n]? = some f → Used f
  counted : ∀ n f, s.facts[n]? = some f → s.trail.count n + s.queue.count n ≤ rank f + 1

omit [DecidableEq F] in
theorem pick_guarded (hg : p.Guarded Proper Used rank s) (hq : node ∈ s.queue) :
    p.Guarded Proper Used rank (s.pick node) := by
  have hmem (n : Nat) (hn : n ∈ (s.pick node).trail ∨ n ∈ (s.pick node).queue) :
      n ∈ s.trail ∨ n ∈ s.queue := by
    rcases hn with hn | hn
    · rcases List.mem_cons.1 hn with rfl | hn
      · exact .inr hq
      · exact .inl hn
    · exact .inr (List.mem_of_mem_erase hn)
  refine ⟨hg.length, fun n hn => hg.inside n (hmem n hn), hg.proper,
    fun n f hn => hg.used n f (hmem n hn), fun n f hf => ?_⟩
  have hold := hg.counted n f hf
  have hpos : 0 < s.queue.count node := List.count_pos_iff.2 hq
  simp only [State.pick, List.count_cons, List.count_erase]
  by_cases he : node = n
  · subst he
    simp only [beq_self_eq_true, if_true]
    omega
  · simpa [he] using hold

theorem send_lookup (h : p.send out s target = .ok s') {n : Nat} {f : F}
    (hn : s'.facts[n]? = some f) :
    (n = target ∧ ∃ fact, s.facts[n]? = some fact ∧ p.merge fact (p.enter n out) = .ok f) ∨
      (n ≠ target ∧ s.facts[n]? = some f) := by
  rcases send_cases h with ⟨hnone, rfl⟩ | ⟨fact, merged, hf, hm, hs, _, _⟩
  · refine .inr ⟨?_, hn⟩
    rintro rfl
    rw [hnone] at hn
    cases hn
  · by_cases he : n = target
    · subst he
      have hlt := (List.getElem?_eq_some_iff.1 hf).1
      rw [hs, List.getElem?_set_self hlt] at hn
      cases hn
      exact .inl ⟨rfl, fact, hf, hm⟩
    · rw [hs, List.getElem?_set_ne (Ne.symm he)] at hn
      exact .inr ⟨he, hn⟩

theorem send_met (h : p.send out s target = .ok s') {n : Nat}
    (hn : n ∈ s'.trail ∨ n ∈ s'.queue) : n = target ∨ n ∈ s.trail ∨ n ∈ s.queue := by
  rw [send_trail h] at hn
  rcases send_cases h with ⟨_, rfl⟩ | ⟨_, _, _, _, _, _, ⟨hq, _⟩ | ⟨hq, _⟩⟩
  · exact .inr hn
  · rw [hq, List.mem_append, List.mem_singleton] at hn
    tauto
  · rw [hq] at hn
    exact .inr hn

theorem send_counted (hl : p.Lawful Proper Used rank height) (hg : p.Guarded Proper Used rank s)
    (hout : Used out) (h : p.send out s target = .ok s') {n : Nat} {f : F}
    (hn : s'.facts[n]? = some f) : s'.trail.count n + s'.queue.count n ≤ rank f + 1 := by
  rw [send_trail h]
  rcases send_cases h with ⟨_, rfl⟩ | ⟨fact, merged, hf, hm, hs, _, hq⟩
  · exact hg.counted n f hn
  by_cases he : n = target
  · subst he
    have hlt := (List.getElem?_eq_some_iff.1 hf).1
    rw [hs, List.getElem?_set_self hlt] at hn
    cases hn
    have hold := hg.counted n fact hf
    by_cases hsame : f = fact
    · subst hsame
      rcases hq with ⟨hq, hnq, hv | hv⟩ | ⟨hq, _⟩
      · exact absurd rfl hv
      · simp [hq, List.count_eq_zero.2 hnq, List.count_eq_zero.2 hv]
      · rwa [hq]
    · have hrise := hl.rises (hg.proper n fact hf) hout hm hsame
      rcases hq with ⟨hq, hnq, _⟩ | ⟨hq, _⟩
      · rw [hq, List.count_append, List.count_singleton_self]
        omega
      · rw [hq]
        omega
  · rw [hs, List.getElem?_set_ne (Ne.symm he)] at hn
    have hold := hg.counted n f hn
    rcases hq with ⟨hq, _⟩ | ⟨hq, _⟩
    · have hother : [target].count n = 0 := List.count_eq_zero.2 (by simpa using he)
      rwa [hq, List.count_append, hother]
    · rwa [hq]

theorem send_guarded (hl : p.Lawful Proper Used rank height) (hg : p.Guarded Proper Used rank s)
    (hout : Used out) (ht : target < p.size) (h : p.send out s target = .ok s') :
    p.Guarded Proper Used rank s' where
  length := (send_length h).trans hg.length
  inside n hn := by
    rcases send_met h hn with rfl | hn
    · exact ht
    · exact hg.inside n hn
  proper n f hn := by
    rcases send_lookup h hn with ⟨_, fact, hf, hm⟩ | ⟨_, hf⟩
    · exact (hl.merge (hg.proper n fact hf) hout hm).1
    · exact hg.proper n f hf
  used n f hn hf := by
    rcases send_lookup h hf with ⟨_, fact, hf, hm⟩ | ⟨hne, hf⟩
    · exact (hl.merge (hg.proper n fact hf) hout hm).2
    · exact hg.used n f ((send_met h hn).resolve_left hne) hf
  counted _ _ hn := send_counted hl hg hout h hn

theorem visit_guarded (hl : p.Lawful Proper Used rank height)
    (hg : p.Guarded Proper Used rank s) (hq : node ∈ s.queue) (h : p.visit s node = .ok s') :
    p.Guarded Proper Used rank s' := by
  have hlt : node < s.facts.length := hg.length ▸ hg.inside node (.inr hq)
  have hf : s.facts[node]? = some (s.facts.get ⟨node, hlt⟩) := List.getElem?_eq_getElem hlt
  obtain ⟨out, ht, hsend⟩ := visit_cases hf h
  have hout : Used out := hl.transfer (hg.used node _ (.inr hq) hf) ht
  refine foldlM_send ?_ (pick_guarded hg hq) hsend
  intro t t' u hu ht hsend
  exact send_guarded hl ht hout (hl.closed node u hu) hsend

theorem mapM_ok {α β : Type} {k : α → Except E β} {l : List α} {l' : List β}
    (h : l.mapM k = .ok l') : List.Forall₂ (fun a b => k a = .ok b) l l' := by
  induction l generalizing l' with
  | nil =>
      cases h
      exact .nil
  | cons a l ih =>
      rw [List.mapM_cons] at h
      cases ha : k a with
      | error e => simp [ha, bind, Except.bind] at h
      | ok b =>
          cases hl : l.mapM k with
          | error e => simp [ha, hl, bind, Except.bind] at h
          | ok bs =>
              simp only [ha, hl, bind, Except.bind, pure, Except.pure, Except.ok.injEq] at h
              exact h ▸ .cons ha (ih hl)

omit [DecidableEq F] in
theorem seeds_length {facts : List F} (h : p.seeds = .ok facts) : facts.length = p.size := by
  simpa using (mapM_ok h).length_eq.symm

omit [DecidableEq F] in
theorem seeds_getElem? {facts : List F} (h : p.seeds = .ok facts) {n : Nat} {f : F}
    (hf : facts[n]? = some f) : p.seed n = .ok f := by
  obtain ⟨hlt, rfl⟩ := List.getElem?_eq_some_iff.1 hf
  have hn : n < (List.range p.size).length := (mapM_ok h).length_eq ▸ hlt
  simpa using (mapM_ok h).get hn hlt

omit [DecidableEq F] in
theorem start_guarded (hl : p.Lawful Proper Used rank height) {facts : List F}
    (h : p.seeds = .ok facts) : p.Guarded Proper Used rank (start facts) := by
  refine ⟨seeds_length h, fun n hn => ?_, fun n f hf => hl.seed (seeds_getElem? h hf),
    fun n f hn hf => ?_, fun n f _ => ?_⟩
  · simp only [start, List.not_mem_nil, List.mem_singleton, false_or] at hn
    exact hn ▸ hl.nonempty
  · simp only [start, List.not_mem_nil, List.mem_singleton, false_or] at hn
    exact hl.first (hn ▸ seeds_getElem? h hf)
  · have hle := List.count_le_length (a := n) (l := [0])
    simp only [start, List.count_nil, List.length_singleton] at hle ⊢
    omega

theorem reachable_guarded (hl : p.Lawful Proper Used rank height)
    (hr : p.Reachable s s') (hg : p.Guarded Proper Used rank s) :
    p.Guarded Proper Used rank s' := by
  induction hr with
  | refl => exact hg
  | tail _ hturn ih =>
      obtain ⟨node, hq, hv⟩ := hturn
      exact visit_guarded hl ih hq hv

/-- What picking a node and sending to a successor keep, every run keeps. -/
theorem reachable_induction (hl : p.Lawful Proper Used rank height) {I : State F → Prop}
    (pick : ∀ s node, I s → I (s.pick node))
    (send : ∀ s s' out node, ∀ t ∈ p.successors node, I s → p.send out s t = .ok s' → I s')
    (hg : p.Guarded Proper Used rank s) (hr : p.Reachable s s') (hs : I s) : I s' := by
  induction hr with
  | refl => exact hs
  | tail hr hturn ih =>
      obtain ⟨node, hq, hv⟩ := hturn
      have hg' := reachable_guarded hl hr hg
      have hlt := hg'.length ▸ hg'.inside node (.inr hq)
      obtain ⟨out, _, hsend⟩ := visit_cases (List.getElem?_eq_getElem hlt) hv
      exact foldlM_send (fun t t' u hu => send t t' out node u hu) (pick _ node ih) hsend

theorem reachable_includes (hj : p.Joining) (hl : p.Lawful Proper Used rank height)
    (hg : p.Guarded Proper Used rank s) (hr : p.Reachable s s') {x : F}
    (hx : p.Includes s node x) : p.Includes s' node x :=
  reachable_induction hl (fun _ _ h => h) (fun _ _ _ _ _ _ h hsend => send_includes hj hsend h)
    hg hr hx

theorem reachable_met (hl : p.Lawful Proper Used rank height)
    (hg : p.Guarded Proper Used rank s) (hr : p.Reachable s s')
    (hn : node ∈ s.trail ∨ node ∈ s.queue) : node ∈ s'.trail ∨ node ∈ s'.queue := by
  refine reachable_induction hl (I := fun t => node ∈ t.trail ∨ node ∈ t.queue) ?_ ?_ hg hr hn
  · intro t m ht
    by_cases hm : node = m
    · exact .inl (by simp [State.pick, hm])
    · exact ht.imp (List.mem_cons_of_mem m) (List.mem_erase_of_ne hm).2
  · intro t t' out m u _ ht hsend
    exact ht.imp (send_trail hsend ▸ ·) (send_queue hsend ·)

theorem reachable_source (hl : p.Lawful Proper Used rank height)
    (hg : p.Guarded Proper Used rank s) (hr : p.Reachable s s')
    (hn : ∀ m, node ∉ p.successors m) : s'.facts[node]? = s.facts[node]? := by
  refine reachable_induction hl (I := fun t => t.facts[node]? = s.facts[node]?)
    (fun _ _ h => h) ?_ hg hr rfl
  intro t t' out m u hu ht hsend
  have hne : u ≠ node := fun he => hn m (he ▸ hu)
  rcases send_cases hsend with ⟨_, rfl⟩ | ⟨_, _, _, _, hs, _, _⟩
  · exact ht
  · simpa [hs, hne] using ht

theorem reachable_converging (hj : p.Joining) (hl : p.Lawful Proper Used rank height)
    (hg : p.Guarded Proper Used rank s) (hr : p.Reachable s s') (hc : p.Converging s) :
    p.Converging s' := by
  induction hr with
  | refl => exact hc
  | tail hr hturn ih =>
      obtain ⟨node, hq, hv⟩ := hturn
      have hlt := (reachable_guarded hl hr hg).inside node (.inr hq)
      exact visit_converging hj hl.closed ih hlt hv

theorem length_le_of_count {l : List Nat} {nodes : Finset Nat} {k : Nat}
    (hmem : ∀ n ∈ l, n ∈ nodes) (hcount : ∀ n ∈ nodes, l.count n ≤ k) :
    l.length ≤ k * nodes.card := by
  calc l.length = ∑ n ∈ nodes, l.count n := by
        simpa using (Multiset.sum_count_eq_card (m := (l : Multiset Nat)) (by simpa using hmem)).symm
    _ ≤ nodes.card • k := Finset.sum_le_card_nsmul nodes _ k hcount
    _ = k * nodes.card := by rw [smul_eq_mul, Nat.mul_comm]

omit [DecidableEq F] in
theorem Guarded.count_le (hl : p.Lawful Proper Used rank height)
    (hg : p.Guarded Proper Used rank s) (n : Nat) :
    s.trail.count n + s.queue.count n ≤ height + 1 := by
  by_cases hn : n < s.facts.length
  · have hf : s.facts[n]? = some (s.facts.get ⟨n, hn⟩) := List.getElem?_eq_getElem hn
    exact (hg.counted n _ hf).trans (Nat.add_le_add_right (hl.bounded (hg.proper n _ hf)) 1)
  · have hout : n ∉ s.trail ∧ n ∉ s.queue := by
      rw [← not_or]
      exact fun hmem => hn (hg.length ▸ hg.inside n hmem)
    simp [List.count_eq_zero.2 hout.1, List.count_eq_zero.2 hout.2]

omit [DecidableEq F] in
theorem Guarded.visits_add_waiting_le (hl : p.Lawful Proper Used rank height)
    (hg : p.Guarded Proper Used rank s) :
    s.visits + s.queue.length ≤ p.size * (height + 1) := by
  have hinside (n : Nat) (hn : n ∈ s.trail ++ s.queue) : n ∈ Finset.range p.size :=
    Finset.mem_range.2 (hg.inside n (List.mem_append.1 hn))
  have hle := length_le_of_count (k := height + 1) hinside fun n _ => by
    rw [List.count_append]
    exact hg.count_le hl n
  rw [Finset.card_range, Nat.mul_comm, List.length_append] at hle
  exact hle

theorem visit_trail (hg : p.Guarded Proper Used rank s) (hq : node ∈ s.queue)
    (h : p.visit s node = .ok s') : s'.trail = node :: s.trail := by
  have hlt : node < s.facts.length := hg.length ▸ hg.inside node (.inr hq)
  obtain ⟨out, _, hsend⟩ := visit_cases (List.getElem?_eq_getElem hlt) h
  exact foldlM_send_trail hsend

theorem iterate_ends (hl : p.Lawful Proper Used rank height) {fuel : Nat}
    (hg : p.Guarded Proper Used rank s) (hfuel : p.size * (height + 1) ≤ fuel + s.visits) :
    p.Ends s (p.iterate fuel s) := by
  induction fuel generalizing s with
  | zero =>
      have hle := hg.visits_add_waiting_le hl
      exact .done (List.eq_nil_of_length_eq_zero (by omega))
  | succ fuel ih =>
      unfold iterate
      cases hq : s.queue with
      | nil => exact .done hq
      | cons node rest =>
          have hmem : node ∈ s.queue := by simp [hq]
          cases hv : p.visit s node with
          | error failure =>
              simp only [hv, bind, Except.bind]
              exact .failed hq hv
          | ok s' =>
              simp only [hv, bind, Except.bind]
              refine .turn hq hv (ih (visit_guarded hl hg hmem hv) ?_)
              simp only [State.visits, visit_trail hg hmem hv, List.length_cons] at hfuel ⊢
              omega

/-- The bound on the turns that `solve` allows is never what stops it. -/
theorem solve_ends (hl : p.Lawful Proper Used rank height) {facts : List F}
    (h : p.seeds = .ok facts) {bound : Nat} (hb : height ≤ bound) :
    p.Ends (start facts) (p.solve bound) := by
  simp only [solve, h]
  refine iterate_ends hl (start_guarded hl h) ?_
  simp only [State.visits, start, List.length_nil, Nat.add_zero]
  exact Nat.mul_le_mul_left _ (Nat.add_le_add_right hb 1)

end NullFlow.Dataflow
