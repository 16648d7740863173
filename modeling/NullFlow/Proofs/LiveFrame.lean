import NullFlow.Proofs.FrameRelation

namespace NullFlow

namespace Slots

variable {r : Nullity → Nullity → Prop} {l l' : List Nullity}

theorem unused_notMem (h : List.Forall₂ r l l') (hr : ∀ a b, r a b → a ≠ .unused) :
    .unused ∉ l := by
  induction h with
  | nil => simp
  | cons hd _ ih => simp [ih, (hr _ _ hd).symm]

theorem getD_le (h : Below l l') (i : Nat) : l.getD i .unused ≤ l'.getD i .unused := by
  induction h generalizing i with
  | nil => exact le_rfl
  | cons hd _ ih => cases i with
    | zero => exact hd
    | succ i => exact ih i

theorem below_of_getD (hlen : l.length = l'.length)
    (h : ∀ i, l.getD i .unused ≤ l'.getD i .unused) : Below l l' := by
  refine List.forall₂_iff_get.2 ⟨hlen, fun i hi hi' => ?_⟩
  have hle := h i
  simp only [List.getD_eq_getElem?_getD, List.getElem?_eq_getElem hi,
    List.getElem?_eq_getElem hi', Option.getD_some] at hle
  exact hle

theorem getD_zipWith_merge (h : l.length = l'.length) (i : Nat) :
    (List.zipWith Nullity.merge l l').getD i .unused =
      (l.getD i .unused).merge (l'.getD i .unused) := by
  induction l generalizing l' i with
  | nil => cases l' with
    | nil => rfl
    | cons b l' => simp at h
  | cons a l ih => cases l' with
    | nil => simp at h
    | cons b l' => cases i with
      | zero => rfl
      | succ i => exact ih (Nat.succ.inj h) i

theorem unused_notMem_zipWith_merge (h : l.length = l'.length) (hl : .unused ∉ l') :
    .unused ∉ List.zipWith Nullity.merge l l' := by
  induction l generalizing l' with
  | nil => simp
  | cons a l ih => cases l' with
    | nil => simp at h
    | cons b l' =>
        simp only [List.mem_cons, not_or] at hl
        simp only [List.zipWith_cons_cons, List.mem_cons, not_or]
        refine ⟨fun hu => hl.1 (Nullity.merge_eq_unused.1 hu.symm).2.symm, ?_⟩
        exact ih (Nat.succ.inj h) hl.2

end Slots

namespace Frame

variable {sh : Shape} {r : Nullity → Nullity → Prop} {f g h : Frame}

/-- The stack holds a value in every slot below the depth and in no other. -/
structure Tidy (sh : Shape) (f : Frame) : Prop where
  shape : f.shape = sh
  fits : f.depth ≤ sh.stack
  unused_iff : ∀ i < sh.stack, f.stack.getD i .unused = .unused ↔ f.depth ≤ i

/-- A tidy frame whose locals and arguments all hold a value as well. -/
structure Live (sh : Shape) (f : Frame) : Prop extends Tidy sh f where
  locals : .unused ∉ f.locals
  args : .unused ∉ f.args

theorem Tidy.free (h : Tidy sh f) {i : Nat} (hi : f.depth ≤ i) :
    f.stack.getD i .unused = .unused := by
  by_cases hlt : i < sh.stack
  · exact (h.unused_iff i hlt).2 hi
  · have hlen : f.stack.length = sh.stack := congrArg Shape.stack h.shape
    rw [List.getD_eq_getElem?_getD, List.getElem?_eq_none (by omega), Option.getD_none]

theorem Rel.live_left (h : Rel sh r f g) (hr : ∀ a b, r a b → a ≠ .unused) : Live sh f := by
  refine ⟨⟨h.left, h.fits, ?_⟩, Slots.unused_notMem h.locals hr, Slots.unused_notMem h.args hr⟩
  intro i _
  constructor
  · intro hu
    by_contra hd
    exact hr _ _ (h.live i (by omega)) hu
  · intro hd
    exact (h.free i hd).1

theorem live_iff_rel : Live sh f ↔ Rel sh (fun a b => a = b ∧ a ≠ .unused) f f := by
  constructor
  · intro h
    refine ⟨h.shape, h.shape, rfl, h.fits, ?_, ?_, ?_, ?_⟩
    · intro i hi
      have hlt := hi.trans_le h.fits
      exact ⟨rfl, fun hu => absurd ((h.unused_iff i hlt).1 hu) (by omega)⟩
    · intro i hi
      exact ⟨h.free hi, h.free hi⟩
    · exact List.forall₂_same.2 fun x hx => ⟨rfl, fun hu => h.locals (hu ▸ hx)⟩
    · exact List.forall₂_same.2 fun x hx => ⟨rfl, fun hu => h.args (hu ▸ hx)⟩
  · intro h
    exact h.live_left fun _ _ hab => hab.2

theorem Tidy.join (hf : Tidy sh f) (hg : Tidy sh g) : Tidy sh (f.join g) := by
  have hs : f.shape = g.shape := hf.shape.trans hg.shape.symm
  refine ⟨(join_shape hs).trans hf.shape, Nat.max_le.2 ⟨hf.fits, hg.fits⟩, fun i hi => ?_⟩
  calc (f.join g).stack.getD i .unused = .unused
      ↔ (f.stack.getD i .unused).merge (g.stack.getD i .unused) = .unused := by
        rw [← Slots.getD_zipWith_merge (congrArg Shape.stack hs)]; rfl
    _ ↔ f.depth ≤ i ∧ g.depth ≤ i := by
        rw [Nullity.merge_eq_unused, hf.unused_iff i hi, hg.unused_iff i hi]
    _ ↔ (f.join g).depth ≤ i := Nat.max_le.symm

theorem Tidy.join_live (hf : Tidy sh f) (hg : Live sh g) : Live sh (f.join g) := by
  have hs : f.shape = g.shape := hf.shape.trans hg.shape.symm
  exact ⟨hf.join hg.toTidy,
    Slots.unused_notMem_zipWith_merge (congrArg Shape.locals hs) hg.locals,
    Slots.unused_notMem_zipWith_merge (congrArg Shape.args hs) hg.args⟩

/-- A deeper stack alone would leave the rank as it is, but the slots it brings into use rise. -/
theorem Tidy.rank_lt_join (hf : Tidy sh f) (hg : Tidy sh g) (hne : f.join g ≠ f) :
    f.rank < (f.join g).rank := by
  have hs : f.shape = g.shape := hf.shape.trans hg.shape.symm
  rcases join_eq_or_rank_lt hs with he | hlt
  · have hdepth : g.depth ≤ f.depth := by
      by_contra hd
      have hlt : f.depth < sh.stack := (Nat.lt_of_not_le hd).trans_le hg.fits
      have hstack : List.zipWith Nullity.merge f.stack g.stack = f.stack :=
        congrArg Frame.stack he
      have hslot := Slots.getD_zipWith_merge (congrArg Shape.stack hs) f.depth
      rw [hstack, hf.free le_rfl] at hslot
      have hu := (Nullity.merge_eq_unused.1 hslot.symm).2
      exact hd ((hg.unused_iff _ hlt).1 hu)
    rw [Nat.max_eq_left hdepth] at he
    exact absurd he hne
  · exact hlt

end Frame

def Nullity.Traced (a b : Nullity) : Prop := a ≠ .unused ∧ a ≤ b

theorem Slots.traced {l l' : List Nullity} (h : Below l l') (hl : .unused ∉ l) :
    List.Forall₂ Nullity.Traced l l' := by
  induction h with
  | nil => exact .nil
  | cons hd _ ih =>
      simp only [List.mem_cons, not_or] at hl
      exact .cons ⟨fun hu => hl.1 hu.symm, hd⟩ (ih hl.2)

namespace Frame

variable {sh : Shape} {f g : Frame}

theorem Rel.below {r : Nullity → Nullity → Prop} (h : Rel sh r f g) (hr : ∀ a b, r a b → a ≤ b) :
    f ≤ g := by
  have hlen := h.stack_length
  refine le_iff.2 ⟨h.depth.le, ?_, h.locals.imp hr, h.args.imp hr⟩
  refine Slots.below_of_getD (hlen.1.trans hlen.2.symm) fun i => ?_
  by_cases hi : i < f.depth
  · exact hr _ _ (h.live i hi)
  · rw [(h.free i (Nat.le_of_not_lt hi)).1]
    exact Nullity.unused_le _

theorem Rel.le (h : Rel sh Nullity.Traced f g) : f ≤ g :=
  h.below fun _ _ hab => hab.2

theorem Live.traced (hf : Live sh f) (hg : Tidy sh g) (hd : f.depth = g.depth) (hle : f ≤ g) :
    Rel sh Nullity.Traced f g := by
  obtain ⟨_, hst, hl, ha⟩ := le_iff.1 hle
  refine ⟨hf.shape, hg.shape, hd, hf.fits, ?_, ?_, Slots.traced hl hf.locals, Slots.traced ha hf.args⟩
  · intro i hi
    have hlt := hi.trans_le hf.fits
    exact ⟨fun hu => absurd ((hf.unused_iff i hlt).1 hu) (by omega), Slots.getD_le hst i⟩
  · intro i hi
    exact ⟨hf.free hi, hg.free (hd ▸ hi)⟩

end Frame

end NullFlow
