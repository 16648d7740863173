import NullFlow.Proofs.Reachability

namespace NullFlow.Dataflow

variable {F E : Type} [DecidableEq F] {p : Dataflow F E} {s s' : State F} {out : F} {node : Nat}
  {rest : List Nat}

/-- Where the loop is: between two visits, or in one, with what leaves the node and the successors to
which it has not been sent yet. -/
inductive Stage (F : Type) where
  | waiting (s : State F)
  | sending (out : F) (targets : List Nat) (s : State F)

def Stage.state : Stage F → State F
  | .waiting s => s
  | .sending _ _ s => s

inductive Advances (p : Dataflow F E) : Stage F → Stage F → Prop
  | skip {s : State F} {node : Nat} {rest : List Nat} (hq : s.queue = node :: rest)
      (hf : s.facts[node]? = none) :
      Advances p (.waiting s) (.waiting { s with queue := s.queue.erase node })
  | pick {s : State F} {node : Nat} {rest : List Nat} {fact out : F} (hq : s.queue = node :: rest)
      (hf : s.facts[node]? = some fact) (ht : p.transfer node fact = .ok out) :
      Advances p (.waiting s) (.sending out (p.successors node) (s.pick node))
  | send {s s' : State F} {out : F} {t : Nat} {rest : List Nat} (h : p.send out s t = .ok s') :
      Advances p (.sending out (t :: rest) s) (.sending out rest s')
  | finish {s : State F} {out : F} : Advances p (.sending out [] s) (.waiting s)

inductive Fails (p : Dataflow F E) : Stage F → Failure E → Prop
  | transfer {s : State F} {node : Nat} {rest : List Nat} {fact : F} {cause : E}
      (hq : s.queue = node :: rest) (hf : s.facts[node]? = some fact)
      (ht : p.transfer node fact = .error cause) : Fails p (.waiting s) ⟨s.trail, cause⟩
  | merge {s : State F} {out fact : F} {t : Nat} {rest : List Nat} {cause : E}
      (hf : s.facts[t]? = some fact) (hm : p.merge fact (p.enter t out) = .error cause) :
      Fails p (.sending out (t :: rest) s) ⟨s.trail, cause⟩

abbrev Leads (p : Dataflow F E) (a b : Stage F) : Prop := Relation.ReflTransGen p.Advances a b

theorem foldlM_send_leads {targets : List Nat} (h : targets.foldlM (p.send out) s = .ok s') :
    p.Leads (.sending out targets s) (.sending out [] s') := by
  induction targets generalizing s with
  | nil =>
      cases h
      exact .refl
  | cons t rest ih =>
      obtain ⟨mid, hsend, hrest⟩ := foldlM_send_cons h
      exact .head (.send hsend) (ih hrest)

theorem send_error {cause : E} (h : p.send out s node = .error cause) :
    ∃ fact, s.facts[node]? = some fact ∧ p.merge fact (p.enter node out) = .error cause := by
  unfold send at h
  cases hf : s.facts[node]? with
  | none => simp [hf] at h
  | some fact =>
      refine ⟨fact, rfl, ?_⟩
      cases hm : p.merge fact (p.enter node out) with
      | error e => simpa [hf, hm, bind, Except.bind] using h
      | ok merged => simp [hf, hm, bind, Except.bind, pure, Except.pure] at h

theorem foldlM_send_fails {targets : List Nat} {cause : E}
    (h : targets.foldlM (p.send out) s = .error cause) :
    ∃ stage, p.Leads (.sending out targets s) stage ∧ p.Fails stage ⟨s.trail, cause⟩ := by
  induction targets generalizing s with
  | nil => cases h
  | cons t rest ih =>
      rw [List.foldlM_cons] at h
      cases hsend : p.send out s t with
      | error e =>
          simp only [hsend, bind, Except.bind, Except.error.injEq] at h
          obtain ⟨fact, hf, hm⟩ := send_error hsend
          exact ⟨_, .refl, .merge hf (h ▸ hm)⟩
      | ok mid =>
          simp only [hsend, bind, Except.bind] at h
          obtain ⟨stage, hlead, hfail⟩ := ih h
          exact ⟨stage, .head (.send hsend) hlead, send_trail hsend ▸ hfail⟩

theorem visit_leads (hq : s.queue = node :: rest) (h : p.visit s node = .ok s') :
    p.Leads (.waiting s) (.waiting s') := by
  cases hf : s.facts[node]? with
  | none =>
      simp only [visit, hf, Except.ok.injEq] at h
      subst h
      exact .single (.skip hq hf)
  | some fact =>
      obtain ⟨out, ht, hsend⟩ := visit_cases hf h
      exact .head (.pick hq hf ht) ((foldlM_send_leads hsend).tail .finish)

theorem visit_fails {failure : Failure E} (hq : s.queue = node :: rest)
    (h : p.visit s node = .error failure) :
    ∃ stage, p.Leads (.waiting s) stage ∧ p.Fails stage failure := by
  unfold visit at h
  cases hf : s.facts[node]? with
  | none => simp [hf] at h
  | some fact =>
      simp only [hf] at h
      cases ht : p.transfer node fact with
      | error cause =>
          simp only [ht, Except.error.injEq] at h
          subst h
          exact ⟨_, .refl, .transfer hq hf ht⟩
      | ok out =>
          simp only [ht] at h
          split at h
          · rename_i cause hsend
            cases h
            obtain ⟨stage, hlead, hfail⟩ := foldlM_send_fails hsend
            exact ⟨stage, .head (.pick hq hf ht) hlead, hfail⟩
          · cases h

theorem Ends.leads {result : Except (Failure E) (State F)} (h : p.Ends s result)
    (hok : result = .ok s') : p.Leads (.waiting s) (.waiting s') := by
  induction h with
  | done =>
      cases hok
      exact .refl
  | failed => cases hok
  | turn hq hv _ ih => exact (visit_leads hq hv).trans (ih hok)

theorem Ends.fails {result : Except (Failure E) (State F)} {failure : Failure E}
    (h : p.Ends s result) (herror : result = .error failure) :
    ∃ stage, p.Leads (.waiting s) stage ∧ p.Fails stage failure := by
  induction h with
  | done => cases herror
  | failed hq hv =>
      cases herror
      exact visit_fails hq hv
  | turn hq hv _ ih =>
      obtain ⟨stage, hlead, hfail⟩ := ih herror
      exact ⟨stage, (visit_leads hq hv).trans hlead, hfail⟩

section Invariants

variable {Proper : Nat → F → Prop} {Used : F → Prop} {rank : F → Nat} {height : Nat}
  {Inside : Nat → Prop} {a b : Stage F}

/-- What is being sent comes from a visited node, to successors of it. -/
def Stage.Guarded (p : Dataflow F E) (Proper : Nat → F → Prop) (Used : F → Prop) (rank : F → Nat) :
    Stage F → Prop
  | .waiting s => p.Guarded Proper Used rank s
  | .sending out targets s =>
    p.Guarded Proper Used rank s ∧ Used out ∧ ∀ t ∈ targets, t < p.size

def Stage.Keeps (Inside : Nat → Prop) : Stage F → Prop
  | .waiting s => s.Keeps Inside
  | .sending _ targets s => s.Keeps Inside ∧ ∀ t ∈ targets, Inside t

omit [DecidableEq F] in
theorem Stage.Guarded.state (h : a.Guarded p Proper Used rank) :
    p.Guarded Proper Used rank a.state := by
  cases a with
  | waiting s => exact h
  | sending out targets s => exact h.1

theorem Advances.guarded (hl : p.Lawful Proper Used rank height) (h : p.Advances a b)
    (ha : a.Guarded p Proper Used rank) : b.Guarded p Proper Used rank := by
  cases h with
  | skip hq hf =>
      have hlt := ha.inside _ (.inr (hq ▸ List.mem_cons_self))
      rw [List.getElem?_eq_none_iff, ha.length] at hf
      omega
  | pick hq hf ht =>
      have hmem := hq ▸ List.mem_cons_self
      exact ⟨pick_guarded ha hmem, hl.transfer (ha.used _ _ (.inr hmem) hf) ht, hl.closed _⟩
  | send hsend =>
      obtain ⟨hs, hout, hinside⟩ := ha
      exact ⟨send_guarded hl hs hout (hinside _ List.mem_cons_self) hsend, hout,
        fun t ht => hinside t (List.mem_cons_of_mem _ ht)⟩
  | finish => exact ha.1

theorem Advances.keeps (hc : p.Closed Inside) (h : p.Advances a b) (ha : a.Keeps Inside) :
    b.Keeps Inside := by
  cases h with
  | skip => exact fun n hn => ha n (hn.imp id List.mem_of_mem_erase)
  | pick hq =>
      have hmem := hq ▸ List.mem_cons_self
      exact ⟨State.Keeps.pick ha hmem, hc _ (ha _ (.inr hmem))⟩
  | send hsend =>
      obtain ⟨hs, hinside⟩ := ha
      exact ⟨hs.send (hinside _ List.mem_cons_self) hsend,
        fun t ht => hinside t (List.mem_cons_of_mem _ ht)⟩
  | finish => exact ha.1

theorem Leads.guarded (hl : p.Lawful Proper Used rank height) (h : p.Leads a b)
    (ha : a.Guarded p Proper Used rank) : b.Guarded p Proper Used rank := by
  induction h with
  | refl => exact ha
  | tail _ hstep ih => exact hstep.guarded hl ih

theorem Leads.keeps (hc : p.Closed Inside) (h : p.Leads a b) (ha : a.Keeps Inside) :
    b.Keeps Inside := by
  induction h with
  | refl => exact ha
  | tail _ hstep ih => exact hstep.keeps hc ih

end Invariants

end NullFlow.Dataflow
