import Mathlib.Order.Bounds.Basic
import NullFlow.Proofs.FrameView

namespace NullFlow

/-- What is known of a slot grows from nothing to one of two certainties, and from these to either. -/
def Nullity.Under (a b : Nullity) : Prop := a = b ∨ a = .unused ∨ b = .unknown

theorem Nullity.le_iff_under {a b : Nullity} : a ≤ b ↔ a.Under b := by
  unfold Under
  cases a <;> cases b <;> decide

theorem Slots.below_iff_under {l l' : List Nullity} :
    Below l l' ↔ List.Forall₂ Nullity.Under l l' := by
  constructor
  · exact fun h => h.imp fun _ _ => Nullity.le_iff_under.1
  · exact fun h => h.imp fun _ _ => Nullity.le_iff_under.2

namespace Frame

variable {sh : Shape} {f g h k : Frame}

theorem merge_of_shape (hs : f.shape = g.shape) : f.merge g = .ok (f.join g) :=
  merge_eq_ok_iff.2 ⟨hs, rfl⟩

theorem merge_of_shape_ne (hs : f.shape ≠ g.shape) : f.merge g = .error .incompatibleMerge := by
  apply if_neg
  simpa [shape] using hs

theorem le_iff_under : f ≤ g ↔ f.depth ≤ g.depth ∧ List.Forall₂ Nullity.Under f.stack g.stack ∧
    List.Forall₂ Nullity.Under f.locals g.locals ∧ List.Forall₂ Nullity.Under f.args g.args := by
  simp only [le_iff, Slots.below_iff_under]

theorem join_le_iff (hs : f.shape = g.shape) : f.join g ≤ k ↔ f ≤ k ∧ g ≤ k := by
  have hm := merge_of_shape hs
  constructor
  · intro hk
    exact ⟨(le_of_merge_left hm).trans hk, (le_of_merge_right hm).trans hk⟩
  · rintro ⟨hf, hg⟩
    exact join_le hf hg

theorem isLUB_join (hs : f.shape = g.shape) : IsLUB {f, g} (f.join g) := by
  apply isLUB_iff_le_iff.2
  intro k
  simp [join_le_iff hs, upperBounds]

theorem join_comm (hs : f.shape = g.shape) : f.join g = g.join f := by
  apply eq_of_forall_ge_iff
  intro k
  rw [join_le_iff hs, join_le_iff hs.symm, and_comm]

theorem join_assoc (hfg : f.shape = g.shape) (hgh : g.shape = h.shape) :
    (f.join g).join h = f.join (g.join h) := by
  have hleft : (f.join g).shape = h.shape := (join_shape hfg).trans (hfg.trans hgh)
  have hright : f.shape = (g.join h).shape := hfg.trans (join_shape hgh).symm
  apply eq_of_forall_ge_iff
  intro k
  rw [join_le_iff hleft, join_le_iff hfg, join_le_iff hright, join_le_iff hgh, and_assoc]

theorem Trim.join (hf : f.Trim sh) (hg : g.Trim sh) : (f.join g).Trim sh := by
  have hs := hf.shape.trans hg.shape.symm
  refine ⟨(join_shape hs).trans hf.shape, fun i hi => ?_⟩
  obtain ⟨hfi, hgi⟩ := Nat.max_le.1 hi
  change (List.zipWith Nullity.merge f.stack g.stack).getD i .unused = .unused
  rw [Slots.getD_zipWith_merge (congrArg Shape.stack hs), hf.free i hfi, hg.free i hgi]
  rfl

theorem blank_shape (sh : Shape) : (blank sh.stack sh.locals sh.args).shape = sh := by
  simp [blank, withSlots, shape]

theorem blank_trim (sh : Shape) : (blank sh.stack sh.locals sh.args).Trim sh := by
  refine ⟨blank_shape sh, fun i _ => ?_⟩
  change (List.replicate sh.stack Nullity.unused).getD i .unused = .unused
  grind

theorem blank_le_of_shape (hs : f.shape = sh) : blank sh.stack sh.locals sh.args ≤ f := by
  subst hs
  exact f.blank_le

theorem foldlM_merge {l : List Frame} (hl : ∀ g ∈ f :: l, g.Trim sh) :
    ∃ h, l.foldlM merge f = .ok h ∧ h.Trim sh ∧ IsLUB {g | g ∈ f :: l} h := by
  induction l generalizing f with
  | nil => exact ⟨f, rfl, hl f List.mem_cons_self, by simp⟩
  | cons g l ih =>
      obtain ⟨hf, hg, hl⟩ : f.Trim sh ∧ g.Trim sh ∧ ∀ g ∈ l, g.Trim sh := by simpa using hl
      have hs := hf.shape.trans hg.shape.symm
      obtain ⟨h, hfold, htrim, hlub⟩ := ih (List.forall_mem_cons.2 ⟨hf.join hg, hl⟩)
      refine ⟨h, ?_, htrim, isLUB_iff_le_iff.2 fun k => ?_⟩
      · rw [List.foldlM_cons, merge_of_shape hs]
        exact hfold
      · rw [isLUB_iff_le_iff.1 hlub k]
        simp [upperBounds, join_le_iff hs, and_assoc]

/-- The frame after another was merged into it. One that is refused leaves it as it was. -/
def absorb (f g : Frame) : Frame :=
  match f.merge g with
  | .ok merged => merged
  | .error _ => f

theorem absorb_of_shape (hs : f.shape = g.shape) : f.absorb g = f.join g := by
  rw [absorb, merge_of_shape hs]

theorem absorb_of_shape_ne (hs : f.shape ≠ g.shape) : f.absorb g = f := by
  rw [absorb, merge_of_shape_ne hs]

def weight (f : Frame) : Nat := f.rank + f.depth

theorem weight_lt_absorb (hne : f.absorb g ≠ f) : f.weight < (f.absorb g).weight := by
  by_cases hs : f.shape = g.shape
  · rw [absorb_of_shape hs] at hne ⊢
    simp only [weight]
    rcases join_eq_or_rank_lt hs with he | hlt
    · have hdeeper : f.depth < g.depth := by
        by_contra hle
        rw [Nat.max_eq_left (Nat.le_of_not_lt hle)] at he
        exact hne he
      rw [he]
      change f.rank + f.depth < f.rank + max f.depth g.depth
      omega
    · have hdepth : f.depth ≤ (f.join g).depth := Nat.le_max_left _ _
      omega
  · exact absurd (absorb_of_shape_ne hs) hne

/-- Frames of one shape, with no stack slot in use from the depth on, and what merging makes of them.
The order is the one in which a frame lies below those that merging it leaves as they are. -/
structure Semilattice (sh : Shape) : Prop where
  closed : ∀ f g : Frame, f.Trim sh → g.Trim sh →
    ∃ h, f.merge g = .ok h ∧ h.Trim sh ∧ h.depth = max f.depth g.depth
  comm : ∀ f g : Frame, f.Trim sh → g.Trim sh → f.merge g = g.merge f
  assoc : ∀ f g h : Frame, f.Trim sh → g.Trim sh → h.Trim sh →
    (f.merge g >>= fun m => m.merge h) = (g.merge h >>= fun m => f.merge m)
  idem : ∀ f : Frame, f.Trim sh → f.merge f = .ok f
  identity : (blank sh.stack sh.locals sh.args).Trim sh ∧ ∀ f : Frame, f.Trim sh →
    (blank sh.stack sh.locals sh.args).merge f = .ok f ∧
      f.merge (blank sh.stack sh.locals sh.args) = .ok f
  order : ∀ f g : Frame, f.Trim sh → g.Trim sh → (f ≤ g ↔ g.merge f = .ok g) ∧ (f ≤ g ↔
    f.depth ≤ g.depth ∧ List.Forall₂ Nullity.Under f.stack g.stack ∧
      List.Forall₂ Nullity.Under f.locals g.locals ∧ List.Forall₂ Nullity.Under f.args g.args)
  least : ∀ f g h : Frame, f.Trim sh → g.Trim sh → f.merge g = .ok h → IsLUB {f, g} h
  rearranged : ∀ (f f' : Frame) (l l' : List Frame), (∀ g ∈ f :: l, g.Trim sh) →
    (∀ g, g ∈ f :: l ↔ g ∈ f' :: l') → ∃ h, l.foldlM merge f = .ok h ∧ l'.foldlM merge f' = .ok h
  rises : ∀ f g : Frame, f.Trim sh → f.absorb g ≠ f → f.weight < (f.absorb g).weight
  -- No operation makes a frame deeper than its stack: the one that would is a push, and it fails.
  bounded : ∀ f : Frame, f.Trim sh → f.depth ≤ sh.stack →
    f.weight ≤ 2 * (sh.stack + sh.locals + sh.args) + sh.stack
  refused : ∀ f g : Frame, f.shape = sh → g.shape ≠ sh →
    f.merge g = .error .incompatibleMerge ∧ f.absorb g = f

theorem merge_semilattice (sh : Shape) : Semilattice sh where
  closed f g hf hg := ⟨_, merge_of_shape (hf.shape.trans hg.shape.symm), hf.join hg, rfl⟩
  comm f g hf hg := by
    have hs := hf.shape.trans hg.shape.symm
    rw [merge_of_shape hs, merge_of_shape hs.symm, join_comm hs]
  assoc f g h hf hg hh := by
    have hfg := hf.shape.trans hg.shape.symm
    have hgh := hg.shape.trans hh.shape.symm
    have hleft := (hf.join hg).shape.trans hh.shape.symm
    have hright := hf.shape.trans (hg.join hh).shape.symm
    calc (f.merge g >>= fun m => m.merge h)
        = (f.join g).merge h := by simp only [merge_of_shape hfg, bind, Except.bind]
      _ = .ok (f.join (g.join h)) := by rw [merge_of_shape hleft, join_assoc hfg hgh]
      _ = f.merge (g.join h) := (merge_of_shape hright).symm
      _ = (g.merge h >>= fun m => f.merge m) := by simp only [merge_of_shape hgh, bind, Except.bind]
  idem f _ := le_iff_merge.1 le_rfl
  identity := by
    refine ⟨blank_trim sh, fun f hf => ?_⟩
    have hs := (blank_shape sh).trans hf.shape.symm
    have hmerge := le_iff_merge.1 (blank_le_of_shape hf.shape)
    refine ⟨?_, hmerge⟩
    rw [merge_of_shape hs, join_comm hs, ← merge_of_shape hs.symm, hmerge]
  order f g _ _ := ⟨le_iff_merge, le_iff_under⟩
  least f g h _ _ hm := by
    obtain ⟨hs, rfl⟩ := merge_eq_ok_iff.1 hm
    exact isLUB_join hs
  rearranged f f' l l' hl hsame := by
    obtain ⟨h, hfold, _, hlub⟩ := foldlM_merge hl
    obtain ⟨h', hfold', _, hlub'⟩ := foldlM_merge fun g hg => hl g ((hsame g).2 hg)
    have hset : {g | g ∈ f :: l} = {g | g ∈ f' :: l'} := Set.ext hsame
    rw [hset] at hlub
    rw [hlub'.unique hlub] at hfold'
    exact ⟨h, hfold, hfold'⟩
  rises f g _ := weight_lt_absorb
  bounded f hf hfits := by
    have hrank := f.rank_le
    rw [hf.shape] at hrank
    unfold weight
    omega
  refused f g hf hg := by
    have hs : f.shape ≠ g.shape := fun he => hg (he.symm.trans hf)
    exact ⟨merge_of_shape_ne hs, absorb_of_shape_ne hs⟩

def early : Frame := ⟨[.unused, .unused], 0, [.null], [.nonNull]⟩

def late : Frame := ⟨[.null, .unused], 1, [.nonNull], [.nonNull]⟩

theorem early_late_merge : early.Trim ⟨2, 1, 1⟩ ∧ late.Trim ⟨2, 1, 1⟩ ∧
    early.merge late = .ok ⟨[.null, .unused], 1, [.unknown], [.nonNull]⟩ ∧
    [late, early, late].foldlM merge early = [early].foldlM merge late ∧
    early.weight < (early.absorb late).weight ∧
    early.merge (blank 1 1 1) = .error .incompatibleMerge := by
  have hlaws := merge_semilattice ⟨2, 1, 1⟩
  have hearly : early.Trim ⟨2, 1, 1⟩ := ⟨rfl, by rintro (_ | _ | i) _ <;> rfl⟩
  have hlate : late.Trim ⟨2, 1, 1⟩ := by
    refine ⟨rfl, ?_⟩
    rintro (_ | _ | i) hi
    · cases hi
    · rfl
    · rfl
  have hboth : ∀ g ∈ [early, late, early, late], g.Trim ⟨2, 1, 1⟩ := by simp [hearly, hlate]
  have hsame (g : Frame) : g ∈ [early, late, early, late] ↔ g ∈ [late, early] := by
    simp only [List.mem_cons, List.not_mem_nil, or_false]
    tauto
  obtain ⟨h, hfold, hfold'⟩ := hlaws.rearranged early late [late, early, late] [early] hboth hsame
  exact ⟨hearly, hlate, by decide, hfold.trans hfold'.symm, hlaws.rises early late hearly (by decide),
    (hlaws.refused early (blank 1 1 1) hearly.shape (by decide)).1⟩

end Frame

end NullFlow
