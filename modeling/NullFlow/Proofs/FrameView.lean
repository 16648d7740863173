import NullFlow.Proofs.LiveFrame

namespace NullFlow

namespace Nullity

/-- A way to look at values which respects merging and sees whether a slot is in use. -/
structure View where
  see : Nullity → Nullity
  see_merge : ∀ a b, see (a.merge b) = (see a).merge (see b)
  see_unused : ∀ a, see a = .unused ↔ a = .unused

instance : CoeFun View fun _ => Nullity → Nullity := ⟨View.see⟩

namespace View

variable {φ : View} {a b : Nullity}

def all : View := ⟨id, fun _ _ => rfl, fun _ => Iff.rfl⟩

def nulls : View where
  see
    | .nonNull => .unknown
    | a => a
  see_merge a b := by cases a <;> cases b <;> rfl
  see_unused a := by cases a <;> decide

/-- Only whether a slot is in use is seen. -/
def used : View where
  see
    | .unused => .unused
    | _ => .unknown
  see_merge a b := by cases a <;> cases b <;> rfl
  see_unused a := by cases a <;> decide

theorem nulls_eq_null : nulls a = .null ↔ a = .null := by
  cases a <;> decide

theorem mono (h : a ≤ b) : φ a ≤ φ b := by
  have hb : a.merge b = b := sup_eq_right.2 h
  have hsee := φ.see_merge a b
  rw [hb] at hsee
  exact sup_eq_right.1 hsee.symm

def Traced (φ : View) (a b : Nullity) : Prop := a ≠ .unused ∧ φ a ≤ φ b

theorem Traced.used_right (h : φ.Traced a b) : b ≠ .unused := by
  intro hb
  have hle := h.2
  rw [hb, (φ.see_unused .unused).2 rfl] at hle
  have hmerge : (φ a).merge .unused = .unused := sup_eq_right.2 hle
  exact h.1 ((φ.see_unused a).1 (merge_eq_unused.1 hmerge).1)

theorem used_traced (ha : a ≠ .unused) (hb : b ≠ .unused) : used.Traced a b := by
  refine ⟨ha, ?_⟩
  cases b with
  | unused => exact absurd rfl hb
  | null | nonNull | unknown => cases a <;> decide

end View

end Nullity

namespace Slots

variable {φ : Nullity.View} {l l' l'' : List Nullity}

theorem Below.antisymm (h : Below l l') (h' : Below l' l) : l = l' := by
  induction h with
  | nil => rfl
  | cons hd _ ih =>
      cases h' with
      | cons hd' h' => rw [le_antisymm hd hd', ih h']

theorem zipWith_merge_below (h : Below l l'') (h' : Below l' l'') :
    Below (List.zipWith Nullity.merge l l') l'' := by
  induction h generalizing l' with
  | nil =>
      cases h'
      exact .nil
  | cons hd _ ih =>
      cases h' with
      | cons hd' h' => exact .cons (sup_le hd hd') (ih h')

theorem Below.map (h : Below l l') : Below (l.map φ) (l'.map φ) := by
  induction h with
  | nil => exact .nil
  | cons hd _ ih => exact .cons (Nullity.View.mono hd) ih

theorem map_zipWith_merge (φ : Nullity.View) (l l' : List Nullity) :
    (List.zipWith Nullity.merge l l').map φ =
      List.zipWith Nullity.merge (l.map φ) (l'.map φ) := by
  simp only [List.map_zipWith, List.zipWith_map, φ.see_merge]

theorem getD_map (φ : Nullity.View) (l : List Nullity) (i : Nat) :
    (l.map φ).getD i .unused = φ (l.getD i .unused) := by
  have hu := (φ.see_unused .unused).2 rfl
  by_cases hi : i < l.length
  · simp [hi]
  · simp [Nat.le_of_not_lt hi, hu]

theorem traced_of_map (hle : Below (l.map φ) (l'.map φ))
    (hu : .unused ∉ l) : List.Forall₂ φ.Traced l l' := by
  simp only [Below, List.forall₂_map_left_iff, List.forall₂_map_right_iff] at hle
  induction hle with
  | nil => exact .nil
  | cons hd _ ih =>
      simp only [List.mem_cons, not_or] at hu
      exact .cons ⟨fun he => hu.1 he.symm, hd⟩ (ih hu.2)

theorem forall₂_both {r r' : Nullity → Nullity → Prop} (h : List.Forall₂ r l l')
    (h' : List.Forall₂ r' l' l) : List.Forall₂ (fun a b => r a b ∧ r' b a) l l' := by
  induction h with
  | nil => exact .nil
  | cons hd _ ih =>
      cases h' with
      | cons hd' h' => exact .cons ⟨hd, hd'⟩ (ih h')

end Slots

namespace Frame

variable {sh : Shape} {φ : Nullity.View} {f g h : Frame} {v : Nullity}

instance : PartialOrder Frame where
  le_antisymm f g hfg hgf := by
    obtain ⟨hd, hst, hl, ha⟩ := le_iff.1 hfg
    obtain ⟨hd', hst', hl', ha'⟩ := le_iff.1 hgf
    cases f
    cases g
    simp only [Frame.mk.injEq]
    exact ⟨hst.antisymm hst', Nat.le_antisymm hd hd', hl.antisymm hl', ha.antisymm ha'⟩

theorem join_le (hf : f ≤ h) (hg : g ≤ h) : f.join g ≤ h := by
  obtain ⟨hd, hst, hl, ha⟩ := le_iff.1 hf
  obtain ⟨hd', hst', hl', ha'⟩ := le_iff.1 hg
  exact le_iff.2 ⟨Nat.max_le.2 ⟨hd, hd'⟩, Slots.zipWith_merge_below hst hst',
    Slots.zipWith_merge_below hl hl', Slots.zipWith_merge_below ha ha'⟩

def view (φ : Nullity.View) (f : Frame) : Frame where
  stack := f.stack.map φ
  depth := f.depth
  locals := f.locals.map φ
  args := f.args.map φ

theorem view_all (f : Frame) : f.view .all = f := by
  simp [view, Nullity.View.all]

theorem view_join (φ : Nullity.View) (f g : Frame) :
    (f.join g).view φ = (f.view φ).join (g.view φ) := by
  simp only [view, join, Slots.map_zipWith_merge]

theorem view_mono (hle : f ≤ g) : f.view φ ≤ g.view φ := by
  obtain ⟨hd, hst, hl, ha⟩ := le_iff.1 hle
  exact le_iff.2 ⟨hd, hst.map, hl.map, ha.map⟩

theorem push_view (φ : Nullity.View) (f : Frame) (v : Nullity) :
    (f.view φ).push (φ v) = (f.push v).map (view φ) := by
  simp only [push, view, List.length_map]
  split
  · simp [Except.map, view, List.map_set]
  · rfl

/-- No stack slot from the depth on is in use. Whether those below it are is left open. -/
structure Trim (sh : Shape) (f : Frame) : Prop where
  shape : f.shape = sh
  free : ∀ i, f.depth ≤ i → f.stack.getD i .unused = .unused

theorem Tidy.trim (hf : f.Tidy sh) : f.Trim sh := ⟨hf.shape, fun _ hi => hf.free hi⟩

theorem Trim.drop_eq (hf : f.Trim sh) :
    f.stack.drop f.depth = List.replicate (f.stack.length - f.depth) .unused := by
  refine List.eq_replicate_iff.2 ⟨List.length_drop, fun v hv => ?_⟩
  obtain ⟨i, hi⟩ := List.mem_iff_getElem?.1 hv
  rw [List.getElem?_drop] at hi
  have hfree := hf.free _ (Nat.le_add_right f.depth i)
  rwa [List.getD_eq_getElem?_getD, hi] at hfree

theorem Rel.view_le (hr : Rel sh φ.Traced f g) : f.view φ ≤ g.view φ := by
  obtain ⟨hf, hg⟩ := hr.stack_length
  refine le_iff.2 ⟨hr.depth.le, ?_, ?_, ?_⟩
  · refine Slots.below_of_getD (by simp [view, hf, hg]) fun i => ?_
    simp only [view, Slots.getD_map]
    by_cases hi : i < f.depth
    · exact (hr.live i hi).2
    · obtain ⟨hu, hu'⟩ := hr.free i (Nat.le_of_not_lt hi)
      rw [hu, hu']
  · simp only [view, Slots.Below, List.forall₂_map_left_iff, List.forall₂_map_right_iff]
    exact hr.locals.imp fun _ _ hab => hab.2
  · simp only [view, Slots.Below, List.forall₂_map_left_iff, List.forall₂_map_right_iff]
    exact hr.args.imp fun _ _ hab => hab.2

theorem Rel.traced_left (hr : Rel sh φ.Traced f g) : f.Live sh :=
  hr.live_left fun _ _ hab => hab.1

theorem Rel.flip {r : Nullity → Nullity → Prop} (hr : Rel sh r f g) :
    Rel sh (fun a b => r b a) g f where
  left := hr.right
  right := hr.left
  depth := hr.depth.symm
  fits := hr.depth ▸ hr.fits
  live i hi := hr.live i (hr.depth ▸ hi)
  free i hi := (hr.free i (hr.depth ▸ hi)).symm
  locals := hr.locals.flip
  args := hr.args.flip

theorem Rel.traced_right (hr : Rel sh φ.Traced f g) : g.Live sh :=
  hr.flip.live_left fun _ _ hab => hab.used_right

theorem Live.traced_view (hf : f.Live sh) (hg : g.Trim sh) (hd : f.depth = g.depth)
    (hle : f.view φ ≤ g.view φ) : Rel sh φ.Traced f g := by
  obtain ⟨_, hst, hl, ha⟩ := le_iff.1 hle
  refine ⟨hf.shape, hg.shape, hd, hf.fits, ?_, ?_, Slots.traced_of_map hl hf.locals,
    Slots.traced_of_map ha hf.args⟩
  · intro i hi
    have hlt := hi.trans_le hf.fits
    have hslot := Slots.getD_le hst i
    simp only [view, Slots.getD_map] at hslot
    exact ⟨fun hu => absurd ((hf.unused_iff i hlt).1 hu) (by omega), hslot⟩
  · intro i hi
    exact ⟨hf.free hi, hg.free i (hd ▸ hi)⟩

theorem Rel.both {r r' : Nullity → Nullity → Prop} (hr : Rel sh r f g) (hr' : Rel sh r' g f) :
    Rel sh (fun a b => r a b ∧ r' b a) f g where
  left := hr.left
  right := hr.right
  depth := hr.depth
  fits := hr.fits
  live i hi := ⟨hr.live i hi, hr'.live i (hr.depth ▸ hi)⟩
  free := hr.free
  locals := Slots.forall₂_both hr.locals hr'.locals
  args := Slots.forall₂_both hr.args hr'.args

theorem Live.traced_both (hf : f.Live sh) (hg : g.Live sh) (hsee : f.view φ = g.view φ) :
    Rel sh (fun a b => φ.Traced a b ∧ φ.Traced b a) f g := by
  have hd : (f.view φ).depth = (g.view φ).depth := congrArg Frame.depth hsee
  exact (hf.traced_view hg.trim hd hsee.le).both (hg.traced_view hf.trim hd.symm hsee.ge)

theorem Live.traced_used (hf : f.Live sh) (hg : g.Live sh) (hd : f.depth = g.depth) :
    Rel sh Nullity.View.used.Traced f g := by
  have hs := hf.shape.trans hg.shape.symm
  have hslots {l l' : List Nullity} (hlen : l.length = l'.length) (hl : .unused ∉ l)
      (hl' : .unused ∉ l') : List.Forall₂ Nullity.View.used.Traced l l' := by
    refine List.forall₂_iff_get.2 ⟨hlen, fun i hi hi' => Nullity.View.used_traced ?_ ?_⟩
    · exact fun hu => hl (hu ▸ List.get_mem l ⟨i, hi⟩)
    · exact fun hu => hl' (hu ▸ List.get_mem l' ⟨i, hi'⟩)
  refine ⟨hf.shape, hg.shape, hd, hf.fits, fun i hi => ?_, fun i hi => ?_,
    hslots (congrArg Shape.locals hs) hf.locals hg.locals,
    hslots (congrArg Shape.args hs) hf.args hg.args⟩
  · have hlt := hi.trans_le hf.fits
    refine Nullity.View.used_traced (fun hu => ?_) (fun hu => ?_)
    · exact absurd ((hf.unused_iff i hlt).1 hu) (by omega)
    · exact absurd ((hg.unused_iff i hlt).1 hu) (by omega)
  · exact ⟨hf.free hi, hg.free (hd ▸ hi)⟩

end Frame

end NullFlow
