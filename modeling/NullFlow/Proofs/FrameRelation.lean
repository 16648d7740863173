import NullFlow.Proofs.FrameOrder

namespace NullFlow

theorem bind_eq_ok {ε α β : Type} {x : Except ε α} {k : α → Except ε β} {b : β} :
    (x >>= k) = .ok b ↔ ∃ a, x = .ok a ∧ k a = .ok b := by
  cases x <;> simp [bind, Except.bind]

theorem pure_eq_ok {ε α : Type} {a b : α} : (pure a : Except ε α) = .ok b ↔ a = b :=
  Except.ok.injEq a b ▸ Iff.rfl

theorem map_eq_ok {ε α β : Type} {x : Except ε α} {k : α → β} {b : β} :
    x.map k = .ok b ↔ ∃ a, x = .ok a ∧ k a = b := by
  cases x <;> simp [Except.map]

theorem mapError_eq_ok {ε ε' α : Type} {x : Except ε α} {k : ε → ε'} {a : α} :
    x.mapError k = .ok a ↔ x = .ok a := by
  cases x <;> simp [Except.mapError]

theorem toOption_eq_some {ε α : Type} {x : Except ε α} {a : α} :
    x.toOption = some a ↔ x = .ok a := by
  cases x <;> simp [Except.toOption]

/-- Two computations fail with the same error, or succeed with related results. -/
inductive Agree {ε α β : Type} (R : α → β → Prop) : Except ε α → Except ε β → Prop
  | error (e : ε) : Agree R (.error e) (.error e)
  | ok {a : α} {b : β} (h : R a b) : Agree R (.ok a) (.ok b)

namespace Agree

variable {ε α α' β β' : Type} {R : α → β → Prop} {S : α' → β' → Prop}

theorem pure {a : α} {b : β} (h : R a b) :
    Agree R (Pure.pure a : Except ε α) (Pure.pure b : Except ε β) :=
  .ok h

theorem bind {x : Except ε α} {y : Except ε β} {k : α → Except ε α'} {k' : β → Except ε β'}
    (h : Agree R x y) (hk : ∀ a b, R a b → Agree S (k a) (k' b)) : Agree S (x >>= k) (y >>= k') := by
  cases h with
  | error e => exact .error e
  | ok h => exact hk _ _ h

theorem imp {R' : α → β → Prop} {x : Except ε α} {y : Except ε β} (h : Agree R x y)
    (hi : ∀ a b, R a b → R' a b) : Agree R' x y := by
  cases h with
  | error e => exact .error e
  | ok h => exact .ok (hi _ _ h)

theorem attach {x : Except ε α} {y : Except ε β} (h : Agree R x y) :
    Agree (fun a b => x = .ok a ∧ y = .ok b ∧ R a b) x y := by
  cases h with
  | error e => exact .error e
  | ok h => exact .ok ⟨rfl, rfl, h⟩

theorem mapM {γ : Type} {k : γ → Except ε α} {k' : γ → Except ε β} {l : List γ}
    (h : ∀ c ∈ l, Agree R (k c) (k' c)) : Agree (List.Forall₂ R) (l.mapM k) (l.mapM k') := by
  induction l with
  | nil => exact .ok .nil
  | cons c l ih =>
      rw [List.mapM_cons, List.mapM_cons]
      refine (h c List.mem_cons_self).bind fun a b hab => ?_
      refine (ih fun c hc => h c (List.mem_cons_of_mem _ hc)).bind fun as bs hl => ?_
      exact .pure (.cons hab hl)

theorem of_map_eq {γ : Type} {k : α → γ} {k' : β → γ} {x : Except ε α} {y : Except ε β}
    (h : x.map k = y.map k') : Agree (fun a b => k a = k' b) x y := by
  cases x with
  | error e => cases y with
    | error e' => exact Except.error.inj h ▸ .error e
    | ok b => cases h
  | ok a => cases y with
    | error e => cases h
    | ok b => exact .ok (Except.ok.inj h)

theorem same (x : Except ε α) : Agree (· = ·) x x := by
  cases x with
  | error e => exact .error e
  | ok a => exact .ok rfl

theorem ok_left {x : Except ε α} {y : Except ε β} {a : α} (h : Agree R x y) (hx : x = .ok a) :
    ∃ b, y = .ok b ∧ R a b := by
  subst hx
  cases h with
  | ok h => exact ⟨_, rfl, h⟩

theorem ok_right {x : Except ε α} {y : Except ε β} {b : β} (h : Agree R x y) (hy : y = .ok b) :
    ∃ a, x = .ok a ∧ R a b := by
  subst hy
  cases h with
  | ok h => exact ⟨_, rfl, h⟩

end Agree

namespace Slots

variable {r : Nullity → Nullity → Prop} {l l' : List Nullity} {v w : Nullity}

theorem getD_set (l : List Nullity) (i : Nat) (v : Nullity) (j : Nat) :
    (l.set i v).getD j .unused = if i = j ∧ i < l.length then v else l.getD j .unused := by
  grind

theorem set_rel (h : List.Forall₂ r l l') (hv : r v w) (i : Nat) :
    List.Forall₂ r (l.set i v) (l'.set i w) := by
  induction h generalizing i with
  | nil => exact .nil
  | cons hd tl ih => cases i with
    | zero => exact .cons hv tl
    | succ i => exact .cons hd (ih i)

theorem readSlot_rel (h : List.Forall₂ r l l') (kind : SlotKind) (i : Nat) :
    Agree r (Frame.readSlot kind l i) (Frame.readSlot kind l' i) := by
  have hlen := h.length_eq
  by_cases hi : i < l.length
  · have hi' : i < l'.length := hlen ▸ hi
    simp only [Frame.readSlot, List.getElem?_eq_getElem hi, List.getElem?_eq_getElem hi']
    exact .ok (h.get hi hi')
  · have hi' : ¬ i < l'.length := hlen ▸ hi
    simp only [Frame.readSlot, List.getElem?_eq_none (Nat.le_of_not_lt hi),
      List.getElem?_eq_none (Nat.le_of_not_lt hi'), hlen]
    exact .error _

theorem writeSlot_rel (h : List.Forall₂ r l l') (hv : r v w) (kind : SlotKind) (i : Nat) :
    Agree (fun a b => List.Forall₂ r a b ∧ a.length = l.length)
      (Frame.writeSlot kind l i v) (Frame.writeSlot kind l' i w) := by
  simp only [Frame.writeSlot, h.length_eq]
  split
  · exact .ok ⟨set_rel h hv i, by simp [h.length_eq]⟩
  · exact .error _

end Slots

namespace Frame

variable {sh : Shape} {r : Nullity → Nullity → Prop} {f g : Frame} {v w : Nullity}

/-- Frames of one shape and depth with related values. Slots above the depth are unused in both. -/
structure Rel (sh : Shape) (r : Nullity → Nullity → Prop) (f g : Frame) : Prop where
  left : f.shape = sh
  right : g.shape = sh
  depth : f.depth = g.depth
  fits : f.depth ≤ sh.stack
  live : ∀ i < f.depth, r (f.stack.getD i .unused) (g.stack.getD i .unused)
  free : ∀ i, f.depth ≤ i → f.stack.getD i .unused = .unused ∧ g.stack.getD i .unused = .unused
  locals : List.Forall₂ r f.locals g.locals
  args : List.Forall₂ r f.args g.args

namespace Rel

theorem stack_length (h : Rel sh r f g) : f.stack.length = sh.stack ∧ g.stack.length = sh.stack :=
  ⟨congrArg Shape.stack h.left, congrArg Shape.stack h.right⟩

theorem push (h : Rel sh r f g) (hv : r v w) : Agree (Rel sh r) (f.push v) (g.push w) := by
  obtain ⟨hf, hg⟩ := h.stack_length
  simp only [Frame.push, hf, hg, ← h.depth]
  split
  · rename_i hlt
    refine .ok ⟨?_, ?_, rfl, hlt, ?_, ?_, h.locals, h.args⟩
    · simpa [shape] using h.left
    · simpa [shape] using h.right
    · intro i hi
      simp only [Slots.getD_set, hf, hg, hlt, and_true]
      split
      · exact hv
      · exact h.live i (by dsimp only at hi; omega)
    · intro i hi
      simp only [Slots.getD_set]
      rw [if_neg (by dsimp only at hi; omega), if_neg (by dsimp only at hi; omega)]
      exact h.free i (by dsimp only at hi; omega)
  · exact .error _

theorem peek (h : Rel sh r f g) (offset : Nat) : Agree r (f.peek offset) (g.peek offset) := by
  simp only [Frame.peek, ← h.depth]
  split
  · exact .ok (h.live _ (by omega))
  · exact .error _

theorem dropTop (h : Rel sh r f g) : Rel sh r f.dropTop g.dropTop := by
  refine ⟨?_, ?_, ?_, ?_, ?_, ?_, h.locals, h.args⟩
  · simpa [Frame.dropTop, shape] using h.left
  · simpa [Frame.dropTop, shape] using h.right
  · simp [Frame.dropTop, h.depth]
  · exact (Nat.sub_le _ _).trans h.fits
  · intro i hi
    simp only [Frame.dropTop] at hi
    simp only [Frame.dropTop, Slots.getD_set, ← h.depth]
    rw [if_neg (by omega), if_neg (by omega)]
    exact h.live i (by omega)
  · intro i hi
    simp only [Frame.dropTop] at hi
    obtain ⟨hf, hg⟩ := h.stack_length
    simp only [Frame.dropTop, Slots.getD_set, ← h.depth, hf, hg]
    split
    · exact ⟨rfl, rfl⟩
    · exact h.free i (by have := h.fits; omega)

theorem pop (h : Rel sh r f g) :
    Agree (fun a b => r a.1 b.1 ∧ Rel sh r a.2 b.2) f.pop g.pop :=
  (h.peek 0).bind fun _ _ hv => .pure ⟨hv, h.dropTop⟩

theorem dropTops (h : Rel sh r f g) (count : Nat) :
    Rel sh r (Frame.dropTops count f) (Frame.dropTops count g) := by
  induction count generalizing f g with
  | zero => exact h
  | succ count ih => exact ih h.dropTop

theorem popN (h : Rel sh r f g) (count : Nat) : Agree (Rel sh r) (f.popN count) (g.popN count) := by
  simp only [Frame.popN, ← h.depth]
  split
  · exact .ok (h.dropTops count)
  · exact .error _

theorem clearStack (h : Rel sh r f g) : Rel sh r f.clearStack g.clearStack := by
  refine ⟨?_, ?_, rfl, Nat.zero_le _, ?_, ?_, h.locals, h.args⟩
  · simpa [Frame.clearStack, shape] using h.left
  · simpa [Frame.clearStack, shape] using h.right
  · intro i hi
    exact absurd hi (Nat.not_lt_zero i)
  · intro i _
    constructor <;> grind [Frame.clearStack]

theorem getLocal (h : Rel sh r f g) (index : Nat) :
    Agree r (f.getLocal index) (g.getLocal index) :=
  Slots.readSlot_rel h.locals .localVar index

theorem getArg (h : Rel sh r f g) (index : Nat) : Agree r (f.getArg index) (g.getArg index) :=
  Slots.readSlot_rel h.args .argument index

theorem setLocal (h : Rel sh r f g) (hv : r v w) (index : Nat) :
    Agree (Rel sh r) (f.setLocal index v) (g.setLocal index w) := by
  refine (Slots.writeSlot_rel h.locals hv .localVar index).bind fun l l' hl => .pure ?_
  have hf := h.left
  have hg := h.right
  simp only [shape] at hf hg
  exact ⟨by simp [shape, hl.2, hf], by simp [shape, ← hl.1.length_eq, hl.2, h.locals.length_eq, hg],
    h.depth, h.fits, h.live, h.free, hl.1, h.args⟩

theorem setArg (h : Rel sh r f g) (hv : r v w) (index : Nat) :
    Agree (Rel sh r) (f.setArg index v) (g.setArg index w) := by
  refine (Slots.writeSlot_rel h.args hv .argument index).bind fun l l' hl => .pure ?_
  have hf := h.left
  have hg := h.right
  simp only [shape] at hf hg
  exact ⟨by simp [shape, hl.2, hf], by simp [shape, ← hl.1.length_eq, hl.2, h.args.length_eq, hg],
    h.depth, h.fits, h.live, h.free, h.locals, hl.1⟩

end Rel

end Frame

end NullFlow
