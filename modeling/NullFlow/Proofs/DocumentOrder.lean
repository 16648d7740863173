import Mathlib.Data.List.Induction
import Mathlib.Data.Nat.Notation
import Mathlib.Tactic.Common
import NullFlow.Inspection
import NullFlow.Proofs.TypeTree

namespace NullFlow

/-- The list gives what stands at each place, once for each place and in the order of the places. -/
def Enumerates {α : Type} (stands : List ℕ → α → Prop) (l : List α) : Prop :=
  ∃ placed : List (List ℕ × α), placed.map (·.2) = l ∧ placed.Pairwise (fun p q => p.1 < q.1) ∧
    ∀ place a, (place, a) ∈ placed ↔ stands place a

inductive Within {α β : Type} (l : List β) (stands : β → List ℕ → α → Prop) : List ℕ → α → Prop
  | mk {k : ℕ} {b : β} {place : List ℕ} {a : α} : l[k]? = some b → stands b place a →
      Within l stands (k :: place) a

variable {α β : Type} {l : List β} {stands : β → List ℕ → α → Prop} {place : List ℕ} {a : α} {b : β}

theorem within_concat : Within (l ++ [b]) stands place a ↔
    Within l stands place a ∨ ∃ rest, place = l.length :: rest ∧ stands b rest a := by
  constructor
  · rintro ⟨hk, ha⟩
    rename_i k c rest
    by_cases hlt : k < l.length
    · rw [List.getElem?_append_left hlt] at hk
      exact .inl ⟨hk, ha⟩
    · rw [List.getElem?_append_right (by omega), List.getElem?_singleton] at hk
      obtain ⟨hzero, rfl⟩ : k - l.length = 0 ∧ b = c := by simpa using hk
      obtain rfl : k = l.length := by omega
      exact .inr ⟨rest, rfl, ha⟩
  · rintro (⟨hk, ha⟩ | ⟨rest, rfl, ha⟩)
    · exact ⟨List.getElem?_append_left (List.getElem?_eq_some_iff.1 hk).1 ▸ hk, ha⟩
    · exact ⟨List.getElem?_concat_length, ha⟩

namespace Enumerates

theorem congr {l : List α} {stands stands' : List ℕ → α → Prop} (h : Enumerates stands l)
    (hstands : ∀ place a, stands place a ↔ stands' place a) : Enumerates stands' l := by
  obtain ⟨placed, hl, hplaces, hmem⟩ := h
  exact ⟨placed, hl, hplaces, fun place a => (hmem place a).trans (hstands place a)⟩

theorem mem_iff {l : List α} {stands : List ℕ → α → Prop} (h : Enumerates stands l) :
    a ∈ l ↔ ∃ place, stands place a := by
  obtain ⟨placed, rfl, _, hmem⟩ := h
  simp [hmem]

theorem map {γ : Type} {l : List α} {stands : List ℕ → α → Prop} (h : Enumerates stands l)
    (f : α → γ) : Enumerates (fun place c => ∃ a, stands place a ∧ f a = c) (l.map f) := by
  obtain ⟨placed, rfl, hplaces, hmem⟩ := h
  refine ⟨placed.map fun p => (p.1, f p.2), by simp, List.pairwise_map.2 hplaces, ?_⟩
  intro place c
  simp [hmem]

theorem flatMap {f : β → List α} (h : ∀ b ∈ l, Enumerates (stands b) (f b)) :
    Enumerates (Within l stands) (l.flatMap f) := by
  induction l using List.reverseRecOn with
  | nil =>
      refine ⟨[], rfl, .nil, ?_⟩
      rintro place a
      exact ⟨fun hmem => (List.not_mem_nil hmem).elim, fun ⟨hk, _⟩ => by simp at hk⟩
  | append_singleton l b ih =>
      obtain ⟨placed, hl, hplaces, hmem⟩ := ih fun c hc => h c (List.mem_append_left _ hc)
      obtain ⟨last, hb, hlast, hmemLast⟩ := h b (by simp)
      refine ⟨placed ++ last.map fun p => (l.length :: p.1, p.2), ?_, ?_, ?_⟩
      · simp [hl, ← hb]
      · refine List.pairwise_append.2 ⟨hplaces, ?_, ?_⟩
        · exact List.pairwise_map.2 (hlast.imp fun hlt => List.cons_lt_cons_iff.2 (.inr ⟨rfl, hlt⟩))
        · rintro ⟨place, a⟩ hp q hq
          obtain ⟨q, _, rfl⟩ := List.mem_map.1 hq
          obtain ⟨hk, _⟩ := (hmem place a).1 hp
          have hlt := (List.getElem?_eq_some_iff.1 hk).1
          exact List.cons_lt_cons_iff.2 (.inl hlt)
      · intro place a
        rw [within_concat, ← hmem, List.mem_append]
        simp [← hmemLast, and_comm, eq_comm]

theorem cons {first : α} {tail : List α} (h : Enumerates (Within l stands) tail) :
    Enumerates (fun place a => (place = [] ∧ a = first) ∨ Within l stands place a)
      (first :: tail) := by
  obtain ⟨placed, rfl, hplaces, hmem⟩ := h
  refine ⟨([], first) :: placed, rfl, List.pairwise_cons.2 ⟨?_, hplaces⟩, ?_⟩
  · rintro ⟨place, a⟩ hp
    obtain ⟨_, _⟩ := (hmem place a).1 hp
    exact List.nil_lt_cons _ _
  · intro place a
    simp [← hmem]

end Enumerates

namespace TypeDef

inductive At : TypeDef → List ℕ → TypeDef → Prop
  | here {t : TypeDef} : At t [] t
  | nested {t u v : TypeDef} {k : ℕ} {place : List ℕ} : t.nested[k]? = some u → At u place v →
      At t (k :: place) v

theorem at_iff {t u : TypeDef} {place : List ℕ} :
    t.At place u ↔ (place = [] ∧ u = t) ∨ Within t.nested At place u := by
  constructor
  · rintro (_ | ⟨hk, hu⟩)
    · exact .inl ⟨rfl, rfl⟩
    · exact .inr ⟨hk, hu⟩
  · rintro (⟨rfl, rfl⟩ | ⟨hk, hu⟩)
    · exact .here
    · exact .nested hk hu

theorem enumerates_withNested (t : TypeDef) : Enumerates t.At t.withNested := by
  have hnested : Enumerates (Within t.nested At) (allNested t.nested) := by
    rw [allNested_eq]
    exact .flatMap fun u hu => enumerates_withNested u
  rw [withNested_eq]
  exact hnested.cons.congr fun _ _ => at_iff.symm
termination_by t
decreasing_by exact sizeOf_lt_of_mem_nested hu

end TypeDef

/-- A type of the subjects with the subject it is in: the place names the subject, the module in it
and the type in the module, and then leads down the nested types. -/
inductive Subject.TypeAt (subjects : List Subject) : List ℕ → Subject × TypeDef → Prop
  | mk {k j i : ℕ} {place : List ℕ} {x : Subject} {m : Module} {t u : TypeDef} :
      subjects[k]? = some x → x.assembly.modules[j]? = some m → m.types[i]? = some t →
      t.At place u → TypeAt subjects (k :: j :: i :: place) (x, u)

theorem Assembly.enumerates_types (assembly : Assembly) :
    Enumerates (Within assembly.modules fun m => Within m.types TypeDef.At) assembly.types := by
  refine .flatMap fun m _ => ?_
  rw [TypeDef.allNested_eq]
  exact .flatMap fun t _ => t.enumerates_withNested

theorem Subject.enumerates_types (subjects : List Subject) :
    Enumerates (TypeAt subjects) (subjects.flatMap fun x => x.assembly.types.map fun t => (x, t)) := by
  have htypes := Enumerates.flatMap (l := subjects) fun x _ =>
    x.assembly.enumerates_types.map fun t => (x, t)
  refine htypes.congr fun place p => ⟨?_, ?_⟩
  · rintro ⟨hx, _, ⟨hm, ht, hu⟩, rfl⟩
    exact ⟨hx, hm, ht, hu⟩
  · rintro ⟨hx, hm, ht, hu⟩
    exact ⟨hx, _, ⟨hm, ht, hu⟩, rfl⟩

end NullFlow
