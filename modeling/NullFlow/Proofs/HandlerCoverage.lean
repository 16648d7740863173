import NullFlow.Proofs.Convergence

namespace NullFlow

theorem Nullity.le_iff_of_used {a b : Nullity} (ha : a ≠ unused) : a ≤ b ↔ b = unknown ∨ a = b := by
  cases a with
  | unused => exact absurd rfl ha
  | null | nonNull | unknown => cases b <;> decide

theorem Slots.below_iff_getElem? {l l' : List Nullity} (h : l.length = l'.length) :
    Below l l' ↔ ∀ j : Nat, ∀ v ∈ l[j]?, ∀ w ∈ l'[j]?, v ≤ w := by
  rw [Below, List.forall₂_iff_get]
  constructor
  · rintro ⟨_, hget⟩ j v hv w hw
    obtain ⟨hj, rfl⟩ := List.getElem?_eq_some_iff.1 hv
    obtain ⟨hj', rfl⟩ := List.getElem?_eq_some_iff.1 hw
    exact hget j hj hj'
  · intro hall
    refine ⟨h, fun j hj hj' => ?_⟩
    exact hall j _ (List.getElem?_eq_getElem hj) _ (List.getElem?_eq_getElem hj')

theorem Slots.le_of_replicate {a v : Nullity} {count : Nat} {l : List Nullity}
    (h : Below (List.replicate count a) l) (hv : v ∈ l) : a ≤ v := by
  induction l generalizing count with
  | nil => cases hv
  | cons w l ih =>
      cases count with
      | zero => cases h
      | succ count =>
          obtain ⟨hw, hl⟩ := List.forall₂_cons.1 h
          rcases List.mem_cons.1 hv with rfl | hv
          · exact hw
          · exact ih hl hv

namespace Frame

/-- The locals and arguments of a frame lie below those of a fact. -/
def Covers (fact f : Frame) : Prop := ∀ kind, Slots.Below (f.slots kind) (fact.slots kind)

variable {sh : Shape} {f g : Frame}

theorem slots_length (h : f.shape = sh) (h' : g.shape = sh) (kind : SlotKind) :
    (f.slots kind).length = (g.slots kind).length := by
  have hs := h.trans h'.symm
  cases kind with
  | localVar => exact congrArg Shape.locals hs
  | argument => exact congrArg Shape.args hs

theorem Live.slot_ne_unused (h : f.Live sh) {kind : SlotKind} {j : Nat} {v : Nullity}
    (hv : (f.slots kind)[j]? = some v) : v ≠ .unused := by
  rintro rfl
  cases kind with
  | localVar => exact h.locals (List.mem_of_getElem? hv)
  | argument => exact h.args (List.mem_of_getElem? hv)

end Frame

namespace Scope

variable {s : Scope} {g : Graph} {sol : Solution} {n x k : Nat} {b : Block}

/-- The node `x` is a way into a handler that protects the first instruction of the block `b`, which
is the node `n`. -/
def Protects (s : Scope) (g : Graph) (x n : Nat) (b : Block) : Prop :=
  ∃ (index : Nat) (receives : Bool) (h : ExceptionHandler) (i : Instruction),
    g.nodes[x]? = some (.exception index receives) ∧ s.body.handlers[index]? = some h ∧
    g.nodes[n]? = some (.block b) ∧ s.body.instructions[b.first]? = some i ∧ h.protects i.offset

theorem seed_slots {index : Nat} {receives : Bool} {f : Frame}
    (h : s.seed (.exception index receives) = .ok f) : f.slots = s.entry.slots := by
  cases receives with
  | false =>
      cases h
      rfl
  | true => exact Frame.push_slots (mapError_eq_ok.1 h)

theorem handler_locals (hg : Graph.ofBody s.body = .ok g) (h : s.solve g = .ok sol)
    {index : Nat} {receives : Bool} {caught : Frame}
    (hx : g.nodes[x]? = some (.exception index receives)) (hc : sol.facts[x]? = some caught) :
    ∀ v ∈ caught.locals, v = .null ∨ v = .unknown := by
  obtain ⟨fact, seed, hfact, hseed, hle⟩ := fact_above_seed hg h hx
  obtain rfl : caught = fact := Option.some.inj (hc.symm.trans hfact)
  have hbelow := Frame.slots_below hle .localVar
  rw [seed_slots hseed] at hbelow
  intro v hv
  have hnull : .null ≤ v := Slots.le_of_replicate hbelow hv
  rcases (Nullity.le_iff_of_used (by decide)).1 hnull with hv | hv
  · exact .inr hv
  · exact .inl hv.symm

theorem covers_iff {out mid caught : Frame} (hmid : mid.Live s.shape)
    (hcaught : caught.shape = s.shape) (hout : caught.Covers out)
    (hkept : ∀ kind j, (∀ i ∈ (b.instructions s.body).drop k, i.written? ≠ some (kind, j)) →
      (out.slots kind)[j]? = (mid.slots kind)[j]?) :
    caught.Covers mid ↔ ∀ kind j,
      (∃ i ∈ (b.instructions s.body).drop k, i.written? = some (kind, j)) →
      ∀ v ∈ (mid.slots kind)[j]?, ∀ w ∈ (caught.slots kind)[j]?, w = .unknown ∨ v = w := by
  have hlen (kind : SlotKind) := Frame.slots_length hmid.shape hcaught kind
  constructor
  · intro hcov kind j _ v hv w hw
    have hle := (Slots.below_iff_getElem? (hlen kind)).1 (hcov kind) j v hv w hw
    exact (Nullity.le_iff_of_used (hmid.slot_ne_unused hv)).1 hle
  · intro hwritten kind
    refine (Slots.below_iff_getElem? (hlen kind)).2 fun j v hv w hw => ?_
    by_cases hj : ∃ i ∈ (b.instructions s.body).drop k, i.written? = some (kind, j)
    · exact (Nullity.le_iff_of_used (hmid.slot_ne_unused hv)).2 (hwritten kind j hj v hv w hw)
    · have hsame := hkept kind j fun i hi he => hj ⟨i, hi, he⟩
      have hlen' := (hout kind).length_eq
      exact (Slots.below_iff_getElem? hlen').1 (hout kind) j v (hsame.trans hv) w hw

/-- The fact of a handler covers the frame before an instruction of a protected block exactly when it
knows of the values, there, of the slots the block writes from that instruction on. -/
theorem handler_covers_iff (hg : Graph.ofBody s.body = .ok g) (h : s.solve g = .ok sol)
    (hp : s.Protects g x n b) (hn : sol.reached n) (k : Nat) :
    ∃ fact mid caught, sol.facts[n]? = some fact ∧ s.before b k fact = .ok mid ∧
      sol.facts[x]? = some caught ∧ (∀ v ∈ caught.locals, v = .null ∨ v = .unknown) ∧
      (caught.Covers mid ↔ ∀ kind j,
        (∃ i ∈ (b.instructions s.body).drop k, i.written? = some (kind, j)) →
        ∀ v ∈ (mid.slots kind)[j]?, ∀ w ∈ (caught.slots kind)[j]?, w = .unknown ∨ v = w) := by
  obtain ⟨index, receives, handler, first, hx, hh, hb, hfirst, hprotects⟩ := hp
  have hn := Solution.reached_iff.1 hn
  have hguarded := solve_guarded hg h
  obtain ⟨fact, out, hfact, ht⟩ := reached_transfer hg h hn
  have hs := Graph.protected_successor hg hb hx hh hfirst hprotects
  obtain ⟨_, caught, hcaught, hle⟩ := successor_fact hg h hn hfact ht hs
  obtain ⟨findings, he⟩ := dataflow_transfer.1 ht
  rw [getD_node hb] at he
  obtain ⟨mid, _, _, hmid, hrest⟩ := before_ok he k
  refine ⟨fact, mid, caught, hfact, hmid, hcaught, handler_locals hg h hx hcaught, ?_⟩
  apply covers_iff
  · exact before_live (hguarded.used n fact (.inl hn) hfact) hmid
  · exact (hguarded.proper x caught hcaught).1.shape
  · intro kind
    rw [← arrive_slots (g.nodes.getD x .exit) out]
    exact Frame.slots_below hle kind
  · intro kind j hw
    exact execute_slots hrest hw

theorem retry_protects : retry.Protects retryGraph 7 2 ⟨0, 5⟩ :=
  ⟨0, true, _, _, rfl, rfl, rfl, rfl, rfl⟩

theorem retry_handler_covers : retry.Protects retryGraph 7 2 ⟨0, 5⟩ ∧ retrySolution.reached 2 ∧
    ∃ fact mid caught, retrySolution.facts[2]? = some fact ∧
      retry.before ⟨0, 5⟩ 5 fact = .ok mid ∧ retrySolution.facts[7]? = some caught ∧
      caught.Covers mid := by
  obtain ⟨fact, mid, caught, hfact, hmid, hcaught, _, hiff⟩ :=
    handler_covers_iff rfl rfl retry_protects rfl 5
  refine ⟨retry_protects, rfl, fact, mid, caught, hfact, hmid, hcaught, hiff.2 ?_⟩
  rintro kind j ⟨i, hi, hw⟩
  obtain rfl := List.mem_singleton.1 hi
  cases hw

/-- The local holds a string while the call is made, and is cleared behind it. The handler's fact has
it null. -/
theorem retry_handler_not_covers : Graph.ofBody retry.body = .ok retryGraph ∧
    retry.solve retryGraph = .ok retrySolution ∧ retry.Protects retryGraph 7 2 ⟨0, 5⟩ ∧
    retrySolution.reached 2 ∧ ∃ fact mid caught, retrySolution.facts[2]? = some fact ∧
      retry.before ⟨0, 5⟩ 2 fact = .ok mid ∧ retrySolution.facts[7]? = some caught ∧
      mid.locals = [.nonNull] ∧ caught.locals = [.null] ∧ ¬ caught.Covers mid := by
  refine ⟨rfl, rfl, retry_protects, rfl, _, _, _, rfl, rfl, rfl, rfl, rfl, fun hcov => ?_⟩
  exact absurd (Slots.getD_le (hcov .localVar) 0) (by decide)

end Scope

end NullFlow
