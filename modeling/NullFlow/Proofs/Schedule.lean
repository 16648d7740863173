import NullFlow.Proofs.WorklistBound

namespace NullFlow.Dataflow

variable {F E : Type} [DecidableEq F] {p : Dataflow F E} {s s' : State F} {out : F}
  {Within Met : Nat → F → Prop} {node target : Nat}

/-- Bounds that no visit leaves: `Within` for the fact of every node, and `Met` for the fact of a
node that waits or was visited. -/
structure Confining (p : Dataflow F E) (Within Met : Nat → F → Prop) : Prop where
  seed : ∀ {n f}, p.seed n = .ok f → Within n f
  first : ∀ {f}, p.seed 0 = .ok f → Met 0 f
  within : ∀ {n f}, Met n f → Within n f
  visit : ∀ {n f}, Met n f → ∃ out, p.transfer n f = .ok out ∧
    ∀ t ∈ p.successors n, ∀ fact, Within t fact →
      ∃ m, p.merge fact (p.enter t out) = .ok m ∧ Met t m

structure Confined (Within Met : Nat → F → Prop) (s : State F) : Prop where
  within : ∀ n f, s.facts[n]? = some f → Within n f
  met : ∀ n f, n ∈ s.trail ∨ n ∈ s.queue → s.facts[n]? = some f → Met n f

/-- Bounds that no visit leaves if it succeeds at all. -/
structure Preserving (p : Dataflow F E) (Within Met : Nat → F → Prop) : Prop where
  seed : ∀ {n f}, p.seed n = .ok f → Within n f
  first : ∀ {f}, p.seed 0 = .ok f → Met 0 f
  within : ∀ {n f}, Met n f → Within n f
  visit : ∀ {n f out}, Met n f → p.transfer n f = .ok out → ∀ t ∈ p.successors n, ∀ fact m,
    Within t fact → p.merge fact (p.enter t out) = .ok m → Met t m

omit [DecidableEq F] in
theorem Confining.preserving (hc : p.Confining Within Met) : p.Preserving Within Met where
  seed := hc.seed
  first := hc.first
  within := hc.within
  visit hmet htransfer t ht fact m hfact hm := by
    obtain ⟨_, htransfer', hsend⟩ := hc.visit hmet
    obtain rfl := Except.ok.inj (htransfer.symm.trans htransfer')
    obtain ⟨_, hm', hmet'⟩ := hsend t ht fact hfact
    exact Except.ok.inj (hm.symm.trans hm') ▸ hmet'

omit [DecidableEq F] in
theorem start_confined (hp : p.Preserving Within Met) {facts : List F} (h : p.seeds = .ok facts) :
    Confined Within Met (start facts) := by
  refine ⟨fun n f hf => hp.seed (seeds_getElem? h hf), fun n f hn hf => ?_⟩
  simp only [start, List.not_mem_nil, List.mem_singleton, false_or] at hn
  subst hn
  exact hp.first (seeds_getElem? h hf)

omit [DecidableEq F] in
theorem pick_confined (hs : Confined Within Met s) (hq : node ∈ s.queue) :
    Confined Within Met (s.pick node) := by
  refine ⟨hs.within, fun n f hn hf => hs.met n f ?_ hf⟩
  rcases hn with hn | hn
  · rcases List.mem_cons.1 hn with rfl | hn
    · exact .inr hq
    · exact .inl hn
  · exact .inr (List.mem_of_mem_erase hn)

theorem Confined.send (hs : Confined Within Met s) (hw : ∀ {n f}, Met n f → Within n f)
    (ht : ∀ fact m, Within target fact → p.merge fact (p.enter target out) = .ok m → Met target m)
    (h : p.send out s target = .ok s') : Confined Within Met s' := by
  refine ⟨fun n f hf => ?_, fun n f hn hf => ?_⟩
  · rcases send_lookup h hf with ⟨rfl, fact, hfact, hm⟩ | ⟨_, hf⟩
    · exact hw (ht fact f (hs.within n fact hfact) hm)
    · exact hs.within n f hf
  · rcases send_lookup h hf with ⟨rfl, fact, hfact, hm⟩ | ⟨hne, hf⟩
    · exact ht fact f (hs.within n fact hfact) hm
    · exact hs.met n f ((send_met h hn).resolve_left hne) hf

theorem visit_preserved (hp : p.Preserving Within Met) (hs : Confined Within Met s)
    (hq : node ∈ s.queue) (h : p.visit s node = .ok s') : Confined Within Met s' := by
  cases hf : s.facts[node]? with
  | none =>
      simp only [visit, hf, Except.ok.injEq] at h
      subst h
      exact ⟨hs.within, fun n f hn => hs.met n f (hn.imp id List.mem_of_mem_erase)⟩
  | some fact =>
      obtain ⟨out, htransfer, hsend⟩ := visit_cases hf h
      have hmet := hs.met node fact (.inr hq) hf
      refine foldlM_send (fun t t' u hu ht hsend => ?_) (pick_confined hs hq) hsend
      exact ht.send hp.within (hp.visit hmet htransfer u hu) hsend

theorem reachable_preserved (hp : p.Preserving Within Met) (hr : p.Reachable s s')
    (hs : Confined Within Met s) : Confined Within Met s' := by
  induction hr with
  | refl => exact hs
  | tail _ hturn ih =>
      obtain ⟨node, hq, hv⟩ := hturn
      exact visit_preserved hp ih hq hv

theorem send_ok (hm : ∀ fact, s.facts[target]? = some fact →
      ∃ m, p.merge fact (p.enter target out) = .ok m) : ∃ s', p.send out s target = .ok s' := by
  unfold send
  cases hf : s.facts[target]? with
  | none => exact ⟨s, rfl⟩
  | some fact =>
      obtain ⟨m, hmerge⟩ := hm fact hf
      simp only [hmerge, bind, Except.bind]
      exact ⟨_, rfl⟩

theorem send_confined (hc : p.Confining Within Met) (hs : Confined Within Met s)
    (ht : ∀ fact, Within target fact →
      ∃ m, p.merge fact (p.enter target out) = .ok m ∧ Met target m) :
    ∃ s', p.send out s target = .ok s' ∧ Confined Within Met s' := by
  obtain ⟨s', hsend⟩ : ∃ s', p.send out s target = .ok s' := by
    apply send_ok
    intro fact hf
    obtain ⟨m, hm, _⟩ := ht fact (hs.within target fact hf)
    exact ⟨m, hm⟩
  refine ⟨s', hsend, hs.send hc.within (fun fact m hfact hm => ?_) hsend⟩
  obtain ⟨m', hm', hmet⟩ := ht fact hfact
  exact Except.ok.inj (hm.symm.trans hm') ▸ hmet

theorem foldlM_send_confined (hc : p.Confining Within Met) {targets : List Nat}
    (ht : ∀ t ∈ targets, ∀ fact, Within t fact →
      ∃ m, p.merge fact (p.enter t out) = .ok m ∧ Met t m) (hs : Confined Within Met s) :
    ∃ s', targets.foldlM (p.send out) s = .ok s' ∧ Confined Within Met s' := by
  induction targets generalizing s with
  | nil => exact ⟨s, rfl, hs⟩
  | cons t rest ih =>
      obtain ⟨mid, hsend, hmid⟩ := send_confined hc hs (ht t List.mem_cons_self)
      obtain ⟨s', hrest, hs'⟩ := ih (fun u hu => ht u (List.mem_cons_of_mem t hu)) hmid
      refine ⟨s', ?_, hs'⟩
      rw [List.foldlM_cons, hsend]
      exact hrest

theorem visit_confined (hc : p.Confining Within Met) (hs : Confined Within Met s)
    (hq : node ∈ s.queue) : ∃ s', p.visit s node = .ok s' ∧ Confined Within Met s' := by
  unfold visit
  cases hf : s.facts[node]? with
  | none =>
      refine ⟨_, rfl, hs.within, fun n f hn hf => hs.met n f ?_ hf⟩
      exact hn.imp id List.mem_of_mem_erase
  | some fact =>
      obtain ⟨out, ht, hsend⟩ := hc.visit (hs.met node fact (.inr hq) hf)
      obtain ⟨s', hfold, hs'⟩ := foldlM_send_confined hc hsend (pick_confined hs hq)
      refine ⟨s', ?_, hs'⟩
      simp only [ht]
      rw [State.pick] at hfold
      rw [hfold]

theorem Ends.ok_of_confined (hc : p.Confining Within Met) {result : Except (Failure E) (State F)}
    (h : p.Ends s result) (hs : Confined Within Met s) : ∃ s', result = .ok s' := by
  induction h with
  | done => exact ⟨_, rfl⟩
  | failed hq hv =>
      obtain ⟨_, hv', _⟩ := visit_confined hc hs (by rw [hq]; exact List.mem_cons_self)
      rw [hv] at hv'
      cases hv'
  | turn hq hv _ ih =>
      obtain ⟨_, hv', hs'⟩ := visit_confined hc hs (by rw [hq]; exact List.mem_cons_self)
      exact ih (Except.ok.inj (hv.symm.trans hv') ▸ hs')

section Lawful

variable {Proper : Nat → F → Prop} {Used : F → Prop} {rank : F → Nat} {height : Nat}

/-- There is no endless run: with every turn one of the visits that are left is used up. -/
theorem turn_acc (hl : p.Lawful Proper Used rank height) (hg : p.Guarded Proper Used rank s) :
    Acc (fun next now => p.Turn now next) s := by
  generalize hk : p.size * (height + 1) - s.visits = k
  induction k using Nat.strong_induction_on generalizing s with
  | _ k ih =>
      refine ⟨s, fun next hturn => ?_⟩
      obtain ⟨node, hq, hv⟩ := hturn
      have hnext := visit_guarded hl hg hq hv
      have hle := hnext.visits_add_waiting_le hl
      have hvisits : next.visits = s.visits + 1 := by
        simp only [State.visits, visit_trail hg hq hv, List.length_cons]
      exact ih (p.size * (height + 1) - next.visits) (by omega) hnext rfl

theorem reachable_unmet (hl : p.Lawful Proper Used rank height)
    (hg : p.Guarded Proper Used rank s) (hr : p.Reachable s s') :
    ∀ n, n ∉ s'.trail → n ∉ s'.queue → s'.facts[n]? = s.facts[n]? := by
  refine reachable_induction hl
    (I := fun t => ∀ n, n ∉ t.trail → n ∉ t.queue → t.facts[n]? = s.facts[n]?)
    ?_ ?_ hg hr (fun _ _ _ => rfl)
  · intro t node ht n hn hq
    simp only [State.pick, List.mem_cons, not_or] at hn
    exact ht n hn.2 fun hm => hq ((List.mem_erase_of_ne hn.1).2 hm)
  · intro t t' out node u _ ht hsend n hn hq
    rw [send_trail hsend] at hn
    have hold := ht n hn fun hm => hq (send_queue hsend hm)
    rcases send_cases hsend with ⟨_, rfl⟩ | ⟨_, _, _, _, hs, _, hwait⟩
    · exact hold
    · have hne : u ≠ n := by
        rintro rfl
        rcases hwait with ⟨hq', _⟩ | ⟨hq', hw | hw⟩
        · exact hq (by simp [hq'])
        · exact hq (hq' ▸ hw)
        · exact hn hw.2
      rw [hs, List.getElem?_set_ne hne]
      exact hold

end Lawful

end NullFlow.Dataflow
