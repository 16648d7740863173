import Mathlib.Data.List.Induction
import Mathlib.Data.Prod.Lex
import Mathlib.Data.String.Basic
import NullFlow.Inspection

namespace NullFlow

namespace Keyed

variable {α κ : Type} [LinearOrder κ] {key : α → κ} {a b : α} {l : List α}

def insert (key : α → κ) (a : α) : List α → List α
  | [] => [a]
  | b :: rest =>
    if key a < key b then a :: b :: rest
    else if key b < key a then b :: insert key a rest else b :: rest

def sort (key : α → κ) (l : List α) : List α :=
  l.foldl (fun sorted a => insert key a sorted) []

def Sorted (key : α → κ) (l : List α) : Prop := l.Pairwise (key · < key ·)

theorem mem_insert_of_new (h : ∀ c ∈ l, key c ≠ key a) :
    b ∈ insert key a l ↔ b = a ∨ b ∈ l := by
  induction l with
  | nil => simp [insert]
  | cons c rest ih =>
      obtain ⟨hc, hrest⟩ := List.forall_mem_cons.1 h
      rw [insert]
      rcases lt_or_gt_of_ne hc with hlt | hlt
      · rw [if_neg hlt.not_gt, if_pos hlt, List.mem_cons, ih hrest, List.mem_cons]
        exact or_left_comm
      · rw [if_pos hlt, List.mem_cons]

theorem insert_of_old (hl : Sorted key l) (h : ∃ c ∈ l, key c = key a) : insert key a l = l := by
  induction l with
  | nil => obtain ⟨c, hc, _⟩ := h; cases hc
  | cons c rest ih =>
      obtain ⟨hc, hrest⟩ := List.pairwise_cons.1 hl
      obtain ⟨d, hd, hkey⟩ := h
      rcases List.mem_cons.1 hd with rfl | hd
      · rw [insert, hkey, if_neg (lt_irrefl _), if_neg (lt_irrefl _)]
      · have hlt : key c < key a := hkey ▸ hc d hd
        rw [insert, if_neg hlt.not_gt, if_pos hlt, ih hrest ⟨d, hd, hkey⟩]

theorem Sorted.insert (hl : Sorted key l) (a : α) : Sorted key (insert key a l) := by
  by_cases h : ∃ c ∈ l, key c = key a
  · rw [insert_of_old hl h]
    exact hl
  · push Not at h
    induction l with
    | nil => exact List.pairwise_singleton _ _
    | cons c rest ih =>
        obtain ⟨hbehind, hsorted⟩ := List.pairwise_cons.1 hl
        obtain ⟨hc, hrest⟩ := List.forall_mem_cons.1 h
        rw [Keyed.insert]
        rcases lt_or_gt_of_ne hc with hlt | hlt
        · rw [if_neg hlt.not_gt, if_pos hlt]
          refine List.pairwise_cons.2 ⟨fun d hd => ?_, ih hsorted hrest⟩
          rcases (mem_insert_of_new hrest).1 hd with rfl | hd
          · exact hlt
          · exact hbehind d hd
        · rw [if_pos hlt]
          refine List.pairwise_cons.2 ⟨List.forall_mem_cons.2 ⟨hlt, fun d hd => ?_⟩, hl⟩
          exact hlt.trans (hbehind d hd)

theorem sort_concat (key : α → κ) (l : List α) (a : α) :
    sort key (l ++ [a]) = insert key a (sort key l) := by
  rw [sort, List.foldl_append]
  rfl

theorem sort_sorted (key : α → κ) (l : List α) : Sorted key (sort key l) := by
  induction l using List.reverseRecOn with
  | nil => exact List.Pairwise.nil
  | append_singleton l a ih =>
      rw [sort_concat]
      exact ih.insert a

/-- Of the elements with one key the first is kept. -/
theorem mem_sort : b ∈ sort key l ↔ l.find? (fun c => key c = key b) = some b := by
  induction l using List.reverseRecOn generalizing b with
  | nil => simp [sort]
  | append_singleton l a ih =>
      rw [sort_concat, List.find?_append]
      by_cases h : ∃ c ∈ sort key l, key c = key a
      -- The new element is dropped, so a search for its key must have ended before it.
      · rw [insert_of_old (sort_sorted key l) h, ih]
        obtain ⟨c, hc, hkey⟩ := h
        by_cases hb : key a = key b
        · rw [ih, hkey, hb] at hc
          rw [hc, Option.some_or]
        · rw [List.find?_singleton, if_neg (by simpa using hb), Option.or_none]
      · push Not at h
        rw [mem_insert_of_new h, ih]
        have hnew : l.find? (fun c => key c = key a) = none := by
          refine Option.eq_none_iff_forall_ne_some.2 fun c hc => ?_
          have hkey : key c = key a := by simpa using List.find?_some hc
          exact h c (ih.2 (by rw [hkey]; exact hc)) hkey
        by_cases hb : key a = key b
        · rw [← hb, hnew, List.find?_singleton]
          simp [eq_comm]
        · have hne : b ≠ a := fun hba => hb (congrArg key hba).symm
          rw [List.find?_singleton, if_neg (by simpa using hb), Option.or_none]
          simp [hne]

theorem mem_of_mem_sort (h : b ∈ sort key l) : b ∈ l :=
  List.mem_of_find?_eq_some (mem_sort.1 h)

theorem exists_mem_sort (key : α → κ) (h : b ∈ l) :
    ∃ c ∈ sort key l, key c = key b ∧ l.find? (fun d => key d = key b) = some c := by
  have hsome : (l.find? fun d => key d = key b).isSome :=
    List.find?_isSome.2 ⟨b, h, decide_eq_true rfl⟩
  obtain ⟨c, hc⟩ := Option.isSome_iff_exists.1 hsome
  have hkey : key c = key b := by simpa using List.find?_some hc
  exact ⟨c, mem_sort.2 (by rw [hkey]; exact hc), hkey, hc⟩

theorem eq_of_mem_sort (ha : a ∈ sort key l) (hb : b ∈ sort key l) (h : key a = key b) :
    a = b := by
  rw [mem_sort, h] at ha
  exact Option.some.inj (ha.symm.trans (mem_sort.1 hb))

theorem mem_sort_of_injective (hk : Function.Injective key) : b ∈ sort key l ↔ b ∈ l := by
  refine ⟨mem_of_mem_sort, fun h => ?_⟩
  obtain ⟨c, hc, hkey, _⟩ := exists_mem_sort key h
  exact hk hkey ▸ hc

end Keyed

theorem Member.text_injective : Function.Injective Member.text := by
  intro a b h
  have hletters := congrArg String.toList h
  cases a <;> cases b <;> simp [Member.text] at hletters ⊢ <;>
    exact String.toList_injective hletters

theorem Issue.message_injective : Function.Injective Issue.message := by
  intro a b h
  have hhead := congrArg (fun text : String => text.toList.head?) h
  cases a with
  | nullReceiver member =>
      cases b with
      | nullReceiver member' =>
          rw [message, message, String.append_left_inj, String.append_right_inj] at h
          rw [Member.text_injective h]
      | nullInto sink | maybeNullInto sink => cases sink <;> simp [message] at hhead
  | nullInto sink | maybeNullInto sink =>
      cases b with
      | nullReceiver member => cases sink <;> simp [message] at hhead
      | nullInto sink' | maybeNullInto sink' =>
          revert h
          cases sink <;> cases sink' <;> decide

namespace Finding

variable {f : Finding} {l : List Finding}

def key (f : Finding) : ℕ ×ₗ String := toLex (f.offset, f.message)

theorem key_injective : Function.Injective key := by
  rintro ⟨offset, issue⟩ ⟨offset', issue'⟩ h
  obtain ⟨ho, hm⟩ := Prod.mk.inj (toLex.injective h)
  obtain rfl : offset = offset' := ho
  obtain rfl : issue = issue' := Issue.message_injective hm
  rfl

theorem before_iff {f g : Finding} : f.before g ↔ f.key < g.key := by
  simp [before, key, Prod.Lex.toLex_lt_toLex]

theorem insert_eq (f : Finding) (l : List Finding) : insert f l = Keyed.insert key f l := by
  induction l with
  | nil => rfl
  | cons g rest ih => simp only [insert, Keyed.insert, before_iff, ih]

theorem sort_eq (l : List Finding) : sort l = Keyed.sort key l := by
  simp only [sort, Keyed.sort, insert_eq]

theorem mem_sort : f ∈ sort l ↔ f ∈ l := by
  rw [sort_eq, Keyed.mem_sort_of_injective key_injective]

end Finding

namespace Result

def key (r : Result) : String ×ₗ String ×ₗ ℕ ×ₗ String :=
  toLex (r.rule, toLex (r.location, r.finding.key))

theorem key_eq_iff {r r' : Result} : r.key = r'.key ↔
    r.rule = r'.rule ∧ r.location = r'.location ∧ r.finding = r'.finding := by
  simp only [key, toLex.injective.eq_iff, Prod.mk.injEq, Finding.key_injective.eq_iff]

theorem before_iff {r r' : Result} : r.before r' ↔ r.key < r'.key := by
  simp [before, key, Prod.Lex.toLex_lt_toLex, Finding.before_iff]

theorem insert_eq (r : Result) (l : List Result) : insert r l = Keyed.insert key r l := by
  induction l with
  | nil => rfl
  | cons g rest ih => simp only [insert, Keyed.insert, before_iff, ih]

theorem sort_eq (l : List Result) : sort l = Keyed.sort key l := by
  simp only [sort, Keyed.sort, insert_eq]

end Result

end NullFlow
