import Mathlib.Logic.Relation
import NullFlow.Dataflow

namespace NullFlow.Dataflow

variable {F E : Type} [DecidableEq F] {p : Dataflow F E} {s s' : State F} {out : F}

def State.pick (s : State F) (node : Nat) : State F :=
  { s with queue := s.queue.erase node, trail := node :: s.trail }

def Turn (p : Dataflow F E) (s s' : State F) : Prop :=
  ∃ node ∈ s.queue, p.visit s node = .ok s'

/-- What the loop ends with when it visits the node that waited longest until none waits. -/
inductive Ends (p : Dataflow F E) : State F → Except (Failure E) (State F) → Prop
  | done {s : State F} (hq : s.queue = []) : Ends p s (.ok s)
  | failed {s : State F} {node : Nat} {rest : List Nat} {failure : Failure E}
      (hq : s.queue = node :: rest) (hv : p.visit s node = .error failure) :
      Ends p s (.error failure)
  | turn {s s' : State F} {node : Nat} {rest : List Nat} {result : Except (Failure E) (State F)}
      (hq : s.queue = node :: rest) (hv : p.visit s node = .ok s') (hs : Ends p s' result) :
      Ends p s result

abbrev Reachable (p : Dataflow F E) (s s' : State F) : Prop := Relation.ReflTransGen p.Turn s s'

theorem Ends.reachable {result : Except (Failure E) (State F)} (h : p.Ends s result)
    (hok : result = .ok s') : p.Reachable s s' ∧ s'.queue = [] := by
  induction h with
  | done hq =>
      cases hok
      exact ⟨.refl, hq⟩
  | failed => cases hok
  | turn hq hv _ ih =>
      obtain ⟨hr, hq'⟩ := ih hok
      exact ⟨.head ⟨_, by simp [hq], hv⟩ hr, hq'⟩

/-- Sending to a node outside the graph does nothing; otherwise the fact of the node grows, and it
waits if that or the visit it lacks asks for it. -/
theorem send_cases {target : Nat} (h : p.send out s target = .ok s') :
    (s.facts[target]? = none ∧ s' = s) ∨
    ∃ fact merged, s.facts[target]? = some fact ∧
      p.merge fact (p.enter target out) = .ok merged ∧ s'.facts = s.facts.set target merged ∧
      s'.trail = s.trail ∧
      ((s'.queue = s.queue ++ [target] ∧ target ∉ s.queue ∧ (merged ≠ fact ∨ target ∉ s.trail)) ∨
        (s'.queue = s.queue ∧ (target ∈ s.queue ∨ (merged = fact ∧ target ∈ s.trail)))) := by
  unfold send at h
  cases hf : s.facts[target]? with
  | none =>
      simp only [hf, Except.ok.injEq] at h
      exact .inl ⟨rfl, h.symm⟩
  | some fact =>
      simp only [hf] at h
      cases hm : p.merge fact (p.enter target out) with
      | error e => simp [hm, bind, Except.bind] at h
      | ok merged =>
          simp only [hm, bind, Except.bind, pure, Except.pure, Except.ok.injEq] at h
          refine .inr ⟨fact, merged, rfl, hm, ?_⟩
          subst h
          refine ⟨rfl, rfl, ?_⟩
          by_cases hdue : (merged ≠ fact ∨ !s.reached target) ∧ target ∉ s.queue
          · exact .inl ⟨if_pos hdue, hdue.2, by simpa [State.reached] using hdue.1⟩
          · refine .inr ⟨if_neg hdue, ?_⟩
            by_cases hq : target ∈ s.queue
            · exact .inl hq
            · simp only [hq, not_false_eq_true, and_true, not_or] at hdue
              exact .inr ⟨by simpa using hdue.1, by simpa [State.reached] using hdue.2⟩

theorem visit_cases {node : Nat} {fact : F} (hf : s.facts[node]? = some fact)
    (h : p.visit s node = .ok s') : ∃ out, p.transfer node fact = .ok out ∧
      (p.successors node).foldlM (p.send out) (s.pick node) = .ok s' := by
  simp only [visit, hf] at h
  cases ht : p.transfer node fact with
  | error e => simp [ht] at h
  | ok out =>
      simp only [ht] at h
      refine ⟨out, rfl, ?_⟩
      split at h
      · cases h
      · rename_i hs
        exact hs.trans (congrArg _ (Except.ok.inj h))

theorem foldlM_send_cons {t : Nat} {rest : List Nat}
    (h : (t :: rest).foldlM (p.send out) s = .ok s') :
    ∃ mid, p.send out s t = .ok mid ∧ rest.foldlM (p.send out) mid = .ok s' := by
  rw [List.foldlM_cons] at h
  cases ht : p.send out s t with
  | error e => simp [ht, bind, Except.bind] at h
  | ok mid =>
      simp only [ht, bind, Except.bind] at h
      exact ⟨mid, rfl, h⟩

theorem foldlM_send {I : State F → Prop} {targets : List Nat}
    (step : ∀ s s' t, t ∈ targets → I s → p.send out s t = .ok s' → I s')
    (hs : I s) (h : targets.foldlM (p.send out) s = .ok s') : I s' := by
  induction targets generalizing s with
  | nil =>
      cases h
      exact hs
  | cons t rest ih =>
      obtain ⟨mid, ht, hrest⟩ := foldlM_send_cons h
      exact ih (fun s s' u hu => step s s' u (List.mem_cons_of_mem t hu))
        (step s mid t List.mem_cons_self hs ht) hrest

/-- Merging only adds, and adds nothing twice. -/
structure Joining (p : Dataflow F E) : Prop where
  self : ∀ f, p.merge f f = .ok f
  absorbs : ∀ {f g m}, p.merge f g = .ok m → p.merge m g = .ok m
  keeps : ∀ {f g m x}, p.merge f g = .ok m → p.merge f x = .ok f → p.merge m x = .ok m

/-- Merging `x` into the fact of the node would not change it. -/
def Includes (p : Dataflow F E) (s : State F) (node : Nat) (x : F) : Prop :=
  ∃ fact, s.facts[node]? = some fact ∧ p.merge fact x = .ok fact

/-- What has left a node is part of the fact of the target, which was visited or waits. -/
def Delivered (p : Dataflow F E) (s : State F) (out : F) (target : Nat) : Prop :=
  (target ∈ s.trail ∨ target ∈ s.queue) ∧ p.Includes s target (p.enter target out)

/-- The fact of a node was transferred and delivered to all its successors. -/
def Settled (p : Dataflow F E) (s : State F) (node : Nat) : Prop :=
  ∃ fact out, s.facts[node]? = some fact ∧ p.transfer node fact = .ok out ∧
    ∀ target ∈ p.successors node, p.Delivered s out target

section Delivery

variable {target node : Nat} {out' fact : F}

theorem send_trail (h : p.send out s target = .ok s') : s'.trail = s.trail := by
  rcases send_cases h with ⟨_, rfl⟩ | ⟨_, _, _, _, _, ht, _⟩
  · rfl
  · exact ht

theorem send_queue (h : p.send out s target = .ok s') : s.queue ⊆ s'.queue := by
  rcases send_cases h with ⟨_, rfl⟩ | ⟨_, _, _, _, _, _, ⟨hq, _⟩ | ⟨hq, _⟩⟩
  · exact List.Subset.refl _
  · rw [hq]
    exact List.subset_append_left _ _
  · rw [hq]
    exact List.Subset.refl _

theorem send_delivers (hj : p.Joining) (h : p.send out s target = .ok s')
    (ht : target < s.facts.length) : p.Delivered s' out target := by
  rcases send_cases h with ⟨hn, _⟩ | ⟨fact, merged, _, hm, hf, htr, hq⟩
  · simp only [List.getElem?_eq_none_iff] at hn
    omega
  · refine ⟨?_, merged, by simp [hf, ht], hj.absorbs hm⟩
    rw [htr]
    rcases hq with ⟨hq, _⟩ | ⟨hq, h | h⟩
    · exact .inr (by simp [hq])
    · exact .inr (hq ▸ h)
    · exact .inl h.2

theorem send_includes (hj : p.Joining) (h : p.send out s target = .ok s') {x : F}
    (hx : p.Includes s node x) : p.Includes s' node x := by
  obtain ⟨fact, hf, hm⟩ := hx
  rcases send_cases h with ⟨_, rfl⟩ | ⟨fact', merged, hf', hm', hs, _, _⟩
  · exact ⟨fact, hf, hm⟩
  · by_cases ht : target = node
    · subst ht
      obtain rfl : fact = fact' := Option.some.inj (hf.symm.trans hf')
      have hlt := (List.getElem?_eq_some_iff.1 hf).1
      exact ⟨merged, by simp [hs, hlt], hj.keeps hm' hm⟩
    · exact ⟨fact, by simp [hs, ht, hf], hm⟩

theorem send_keeps (hj : p.Joining) (h : p.send out s target = .ok s')
    (hd : p.Delivered s out' node) : p.Delivered s' out' node :=
  ⟨hd.1.imp (send_trail h ▸ ·) (send_queue h ·), send_includes hj h hd.2⟩

theorem send_fact (h : p.send out s target = .ok s') (hn : node ∈ s.trail) (hq : node ∉ s'.queue)
    (hf : s.facts[node]? = some fact) : s'.facts[node]? = some fact := by
  rcases send_cases h with ⟨_, rfl⟩ | ⟨fact', merged, hf', _, hs, _, hwait⟩
  · exact hf
  · by_cases ht : target = node
    · subst ht
      obtain rfl : fact = fact' := Option.some.inj (hf.symm.trans hf')
      have hlt := (List.getElem?_eq_some_iff.1 hf).1
      rcases hwait with ⟨hq', _⟩ | ⟨hq', hw | hw⟩
      · simp [hq'] at hq
      · exact absurd (hq' ▸ hw) hq
      · simp [hs, hlt, hw.1]
    · simp [hs, ht, hf]

theorem send_settled (hj : p.Joining) (h : p.send out s target = .ok s') (hn : node ∈ s.trail)
    (hq : node ∉ s'.queue) (hs : p.Settled s node) : p.Settled s' node := by
  obtain ⟨fact, out', hf, ht, hd⟩ := hs
  exact ⟨fact, out', send_fact h hn hq hf, ht, fun u hu => send_keeps hj h (hd u hu)⟩

theorem send_length (h : p.send out s target = .ok s') : s'.facts.length = s.facts.length := by
  rcases send_cases h with ⟨_, rfl⟩ | ⟨_, _, _, _, hs, _, _⟩
  · rfl
  · simp [hs]

section Targets

variable {targets : List Nat}

theorem foldlM_send_length (h : targets.foldlM (p.send out) s = .ok s') :
    s'.facts.length = s.facts.length :=
  foldlM_send (I := fun t => t.facts.length = s.facts.length)
    (fun _ _ _ _ ht hsend => (send_length hsend).trans ht) rfl h

theorem foldlM_send_trail (h : targets.foldlM (p.send out) s = .ok s') : s'.trail = s.trail :=
  foldlM_send (I := fun t => t.trail = s.trail)
    (fun _ _ _ _ ht hsend => (send_trail hsend).trans ht) rfl h

theorem foldlM_send_queue (h : targets.foldlM (p.send out) s = .ok s') : s.queue ⊆ s'.queue :=
  foldlM_send (I := fun t => s.queue ⊆ t.queue)
    (fun _ _ _ _ ht hsend => List.Subset.trans ht (send_queue hsend)) (List.Subset.refl _) h

theorem foldlM_send_fact (h : targets.foldlM (p.send out) s = .ok s') (hn : node ∈ s.trail)
    (hq : node ∉ s'.queue) (hf : s.facts[node]? = some fact) : s'.facts[node]? = some fact := by
  induction targets generalizing s with
  | nil =>
      cases h
      exact hf
  | cons t rest ih =>
      obtain ⟨mid, hsend, hrest⟩ := foldlM_send_cons h
      have hq' : node ∉ mid.queue := fun hm => hq (foldlM_send_queue hrest hm)
      exact ih hrest (send_trail hsend ▸ hn) (send_fact hsend hn hq' hf)

theorem foldlM_send_settled (hj : p.Joining) (h : targets.foldlM (p.send out) s = .ok s')
    (hn : node ∈ s.trail) (hq : node ∉ s'.queue) (hs : p.Settled s node) :
    p.Settled s' node := by
  induction targets generalizing s with
  | nil =>
      cases h
      exact hs
  | cons t rest ih =>
      obtain ⟨mid, hsend, hrest⟩ := foldlM_send_cons h
      have hq' : node ∉ mid.queue := fun hm => hq (foldlM_send_queue hrest hm)
      exact ih hrest (send_trail hsend ▸ hn) (send_settled hj hsend hn hq' hs)

theorem foldlM_send_delivers (hj : p.Joining)
    (hlt : ∀ t ∈ targets, t < s.facts.length) (h : targets.foldlM (p.send out) s = .ok s') :
    ∀ t ∈ targets, p.Delivered s' out t := by
  induction targets generalizing s with
  | nil => simp
  | cons t rest ih =>
      obtain ⟨mid, hsend, hrest⟩ := foldlM_send_cons h
      intro u hu
      rcases List.mem_cons.1 hu with rfl | hu
      · have hd := send_delivers hj hsend (hlt _ List.mem_cons_self)
        exact foldlM_send (fun _ _ _ _ hd hs => send_keeps hj hs hd) hd hrest
      · exact ih (fun v hv => send_length hsend ▸ hlt v (List.mem_cons_of_mem t hv)) hrest u hu

end Targets

def Converging (p : Dataflow F E) (s : State F) : Prop :=
  s.facts.length = p.size ∧ ∀ n ∈ s.trail, n ∉ s.queue → p.Settled s n

omit [DecidableEq F] in
theorem pick_settled {n : Nat} (hs : p.Settled s n) :
    p.Settled (s.pick node) n := by
  obtain ⟨fact, out, hf, ht, hd⟩ := hs
  refine ⟨fact, out, hf, ht, fun u hu => ⟨?_, (hd u hu).2⟩⟩
  rcases (hd u hu).1 with hv | hw
  · exact .inl (List.mem_cons_of_mem node hv)
  · by_cases hu' : u = node
    · exact .inl (by simp [State.pick, hu'])
    · exact .inr ((List.mem_erase_of_ne hu').2 hw)

theorem visit_converging (hj : p.Joining) (hc : ∀ n, ∀ t ∈ p.successors n, t < p.size)
    (hi : p.Converging s) (hlt : node < p.size)
    (h : p.visit s node = .ok s') : p.Converging s' := by
  obtain ⟨hlen, hset⟩ := hi
  have hf : s.facts[node]? = some (s.facts.get ⟨node, hlen ▸ hlt⟩) :=
    List.getElem?_eq_getElem (hlen ▸ hlt)
  obtain ⟨out, ht, hsend⟩ := visit_cases hf h
  have hd := foldlM_send_delivers hj (fun t ht => hlen ▸ hc node t ht) hsend
  refine ⟨(foldlM_send_length hsend).trans hlen, fun n hn hnq => ?_⟩
  rw [foldlM_send_trail hsend] at hn
  by_cases he : n = node
  -- The visited node itself is settled only at the end, by what was delivered.
  · subst he
    exact ⟨_, out, foldlM_send_fact hsend hn hnq hf, ht, hd⟩
  · have hvisited : n ∈ s.trail := List.mem_of_ne_of_mem he hn
    have hidle : n ∉ s.queue := by
      intro hm
      exact hnq (foldlM_send_queue hsend ((List.mem_erase_of_ne he).2 hm))
    exact foldlM_send_settled hj hsend hn hnq (pick_settled (hset n hvisited hidle))

end Delivery

end NullFlow.Dataflow
