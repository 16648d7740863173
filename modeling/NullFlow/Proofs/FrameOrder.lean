import Mathlib.Order.Lattice
import Mathlib.Data.List.Forall2
import NullFlow.Frame

namespace NullFlow

namespace Nullity

instance : Max Nullity := ⟨merge⟩

instance : SemilatticeSup Nullity :=
  SemilatticeSup.mk'
    (by intro a b; cases a <;> cases b <;> rfl)
    (by intro a b c; cases a <;> cases b <;> cases c <;> rfl)
    (by intro a; cases a <;> rfl)

instance : DecidableLE Nullity := fun a b => inferInstanceAs (Decidable (merge a b = b))

theorem merge_eq_left_iff {a b : Nullity} : a.merge b = a ↔ b ≤ a := sup_eq_left

theorem unused_le (a : Nullity) : unused ≤ a := rfl

theorem merge_eq_unused {a b : Nullity} : a.merge b = unused ↔ a = unused ∧ b = unused := by
  cases a <;> cases b <;> decide

theorem eq_null_of_le {a : Nullity} (h : a ≤ null) (ha : a ≠ unused) : a = null := by
  cases a with
  | null => rfl
  | unused => exact absurd rfl ha
  | nonNull | unknown => exact absurd h (by decide)

theorem level_le (a : Nullity) : a.level ≤ 2 := by
  cases a <;> decide

theorem merge_eq_or_level_lt (a b : Nullity) : a.merge b = a ∨ a.level < (a.merge b).level := by
  cases a <;> cases b <;> decide

end Nullity

namespace Slots

abbrev Below (l l' : List Nullity) : Prop := List.Forall₂ (· ≤ ·) l l'

variable {l l' l'' : List Nullity}

theorem Below.trans (h : Below l l') (h' : Below l' l'') : Below l l'' := by
  induction h generalizing l'' with
  | nil => exact h'
  | cons hd _ ih =>
      cases h' with
      | cons hd' h' => exact .cons (hd.trans hd') (ih h')

theorem zipWith_merge_eq_left_iff (h : l.length = l'.length) :
    List.zipWith Nullity.merge l l' = l ↔ Below l' l := by
  induction l generalizing l' with
  | nil => cases l' with
    | nil => simp [Below]
    | cons b l' => simp at h
  | cons a l ih => cases l' with
    | nil => simp at h
    | cons b l' =>
        simp only [List.length_cons, Nat.add_right_cancel_iff] at h
        simp [Below, Nullity.merge_eq_left_iff, ih h]

theorem below_zipWith_left (h : l.length = l'.length) :
    Below l (List.zipWith Nullity.merge l l') := by
  induction l generalizing l' with
  | nil => simp [Below]
  | cons a l ih => cases l' with
    | nil => simp at h
    | cons b l' =>
        simp only [List.length_cons, Nat.add_right_cancel_iff] at h
        exact .cons (le_sup_left (a := a) (b := b)) (ih h)

theorem below_zipWith_right (h : l.length = l'.length) :
    Below l' (List.zipWith Nullity.merge l l') := by
  induction l generalizing l' with
  | nil => cases l' with
    | nil => simp [Below]
    | cons b l' => simp at h
  | cons a l ih => cases l' with
    | nil => simp at h
    | cons b l' =>
        simp only [List.length_cons, Nat.add_right_cancel_iff] at h
        exact .cons (le_sup_right (a := a) (b := b)) (ih h)

theorem replicate_unused_below (l : List Nullity) :
    Below (List.replicate l.length .unused) l := by
  induction l with
  | nil => exact .nil
  | cons a l ih => exact .cons (Nullity.unused_le a) ih

def rank : List Nullity → Nat
  | [] => 0
  | a :: l => a.level + rank l

theorem rank_le (l : List Nullity) : rank l ≤ 2 * l.length := by
  induction l with
  | nil => exact le_rfl
  | cons a l ih =>
      have ha := a.level_le
      simp only [rank, List.length_cons]
      omega

theorem zipWith_merge_eq_or_rank_lt (h : l.length = l'.length) :
    List.zipWith Nullity.merge l l' = l ∨ rank l < rank (List.zipWith Nullity.merge l l') := by
  induction l generalizing l' with
  | nil => simp
  | cons a l ih => cases l' with
    | nil => simp at h
    | cons b l' =>
        simp only [List.length_cons, Nat.add_right_cancel_iff] at h
        simp only [rank, List.zipWith_cons_cons, List.cons.injEq]
        have hl := ih h
        rcases a.merge_eq_or_level_lt b with ha | ha <;> rcases hl with hl | hl
        · exact .inl ⟨ha, hl⟩
        · exact .inr (by rw [ha]; omega)
        · exact .inr (by rw [hl]; omega)
        · exact .inr (by omega)

theorem rank_le_of_eq_or_lt (h : l' = l ∨ rank l < rank l') : rank l ≤ rank l' := by
  rcases h with rfl | h
  · exact le_rfl
  · exact h.le

end Slots

structure Shape where
  stack : Nat
  locals : Nat
  args : Nat
  deriving DecidableEq

namespace Frame

variable {f g h : Frame}

def shape (f : Frame) : Shape := ⟨f.stack.length, f.locals.length, f.args.length⟩

/-- What `merge` gives for frames of one shape. -/
def join (f g : Frame) : Frame where
  stack := List.zipWith Nullity.merge f.stack g.stack
  depth := max f.depth g.depth
  locals := List.zipWith Nullity.merge f.locals g.locals
  args := List.zipWith Nullity.merge f.args g.args

theorem merge_eq_ok_iff : f.merge g = .ok h ↔ f.shape = g.shape ∧ h = f.join g := by
  simp only [merge, shape, Shape.mk.injEq]
  split
  · simp_all [join, eq_comm]
  · simp_all

theorem join_shape (hs : f.shape = g.shape) : (f.join g).shape = f.shape := by
  simp only [shape, Shape.mk.injEq] at hs
  simp [shape, join, hs]

/-- A frame is below another when merging it into that one leaves it as it is. -/
instance : LE Frame := ⟨fun f g => g.merge f = .ok g⟩

theorem le_iff_merge : f ≤ g ↔ g.merge f = .ok g := Iff.rfl

theorem le_iff : f ≤ g ↔ f.depth ≤ g.depth ∧ Slots.Below f.stack g.stack ∧
    Slots.Below f.locals g.locals ∧ Slots.Below f.args g.args := by
  rw [le_iff_merge, merge_eq_ok_iff]
  constructor
  · rintro ⟨hs, he⟩
    simp only [shape, Shape.mk.injEq] at hs
    have hd : g.depth = max g.depth f.depth := congrArg Frame.depth he
    have hst := congrArg Frame.stack he
    have hl := congrArg Frame.locals he
    have ha := congrArg Frame.args he
    exact ⟨by omega, (Slots.zipWith_merge_eq_left_iff hs.1).1 hst.symm,
      (Slots.zipWith_merge_eq_left_iff hs.2.1).1 hl.symm,
      (Slots.zipWith_merge_eq_left_iff hs.2.2).1 ha.symm⟩
  · rintro ⟨hd, hst, hl, ha⟩
    refine ⟨by simp [shape, hst.length_eq, hl.length_eq, ha.length_eq], ?_⟩
    simp [join, (Slots.zipWith_merge_eq_left_iff hst.length_eq.symm).2 hst,
      (Slots.zipWith_merge_eq_left_iff hl.length_eq.symm).2 hl,
      (Slots.zipWith_merge_eq_left_iff ha.length_eq.symm).2 ha, hd]

instance : Preorder Frame where
  le_refl f := le_iff.2 ⟨le_rfl, List.forall₂_refl _, List.forall₂_refl _, List.forall₂_refl _⟩
  le_trans f g h hfg hgh := by
    rw [le_iff] at hfg hgh ⊢
    exact ⟨hfg.1.trans hgh.1, hfg.2.1.trans hgh.2.1, hfg.2.2.1.trans hgh.2.2.1,
      hfg.2.2.2.trans hgh.2.2.2⟩

theorem le_of_merge_left (hm : f.merge g = .ok h) : f ≤ h := by
  obtain ⟨hs, rfl⟩ := merge_eq_ok_iff.1 hm
  simp only [shape, Shape.mk.injEq] at hs
  exact le_iff.2 ⟨Nat.le_max_left _ _, Slots.below_zipWith_left hs.1,
    Slots.below_zipWith_left hs.2.1, Slots.below_zipWith_left hs.2.2⟩

theorem le_of_merge_right (hm : f.merge g = .ok h) : g ≤ h := by
  obtain ⟨hs, rfl⟩ := merge_eq_ok_iff.1 hm
  simp only [shape, Shape.mk.injEq] at hs
  exact le_iff.2 ⟨Nat.le_max_right _ _, Slots.below_zipWith_right hs.1,
    Slots.below_zipWith_right hs.2.1, Slots.below_zipWith_right hs.2.2⟩

def rank (f : Frame) : Nat := Slots.rank f.stack + Slots.rank f.locals + Slots.rank f.args

theorem rank_le (f : Frame) : f.rank ≤ 2 * (f.shape.stack + f.shape.locals + f.shape.args) := by
  have hs := Slots.rank_le f.stack
  have hl := Slots.rank_le f.locals
  have ha := Slots.rank_le f.args
  simp only [rank, shape]
  omega

/-- Merging raises the rank, or changes no slot and the depth at most. -/
theorem join_eq_or_rank_lt (hs : f.shape = g.shape) :
    f.join g = { f with depth := max f.depth g.depth } ∨ f.rank < (f.join g).rank := by
  simp only [shape, Shape.mk.injEq] at hs
  have hst := Slots.zipWith_merge_eq_or_rank_lt hs.1
  have hl := Slots.zipWith_merge_eq_or_rank_lt hs.2.1
  have ha := Slots.zipWith_merge_eq_or_rank_lt hs.2.2
  by_cases hrank : f.rank < (f.join g).rank
  · exact .inr hrank
  · left
    have hle := Slots.rank_le_of_eq_or_lt hst
    have hle' := Slots.rank_le_of_eq_or_lt hl
    have hle'' := Slots.rank_le_of_eq_or_lt ha
    simp only [rank, join] at hrank
    have est := hst.resolve_right (by omega)
    have el := hl.resolve_right (by omega)
    have ea := ha.resolve_right (by omega)
    simp only [join, est, el, ea]

theorem blank_le (f : Frame) : blank f.stack.length f.locals.length f.args.length ≤ f :=
  le_iff.2 ⟨Nat.zero_le _, Slots.replicate_unused_below _, Slots.replicate_unused_below _,
    Slots.replicate_unused_below _⟩

end Frame

end NullFlow
