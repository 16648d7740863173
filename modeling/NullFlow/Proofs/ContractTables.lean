import Mathlib.Data.List.Basic
import NullFlow.Contracts

namespace NullFlow

theorem NameSet.mem_insert {name n : String} {set : NameSet} :
    n ∈ NameSet.insert name set ↔ n = name ∨ n ∈ set := by
  induction set with
  | nil => simp [NameSet.insert]
  | cons m set ih =>
      unfold NameSet.insert
      split
      · simp
      · split
        · rename_i heq
          simp [heq]
        · simp only [List.mem_cons, ih]
          tauto

namespace MemberName

theorem split_at_last {c : Char} {front front' tail tail' : List Char} (h : c ∉ tail)
    (h' : c ∉ tail') (heq : front ++ c :: tail = front' ++ c :: tail') :
    front = front' ∧ tail = tail' := by
  rcases List.append_eq_append_iff.1 heq with ⟨between, rfl, hrest⟩ | ⟨between, rfl, hrest⟩
  · cases between with
    | nil => simpa using hrest
    | cons d between =>
        obtain ⟨rfl, rfl⟩ := List.cons.inj hrest
        simp at h
  · cases between with
    | nil => simpa using hrest.symm
    | cons d between =>
        obtain ⟨rfl, rfl⟩ := List.cons.inj hrest
        simp at h'

theorem split_at_first {c : Char} {front front' tail tail' : List Char} (h : c ∉ front)
    (h' : c ∉ front') (heq : front ++ c :: tail = front' ++ c :: tail') :
    front = front' ∧ tail = tail' := by
  have hback : tail.reverse ++ c :: front.reverse = tail'.reverse ++ c :: front'.reverse := by
    simpa using congrArg List.reverse heq
  obtain ⟨htail, hfront⟩ := split_at_last (by simpa using h) (by simpa using h') hback
  exact ⟨List.reverse_injective hfront, List.reverse_injective htail⟩

theorem slash_notMem_toDigits (index : Nat) : '/' ∉ Nat.toDigits 10 index := by
  intro h
  have hdigit := Nat.isDigit_of_mem_toDigits (by decide) (by decide) h
  exact absurd hdigit (by decide)

theorem parameter_inj {method method' : String} {index index' : Nat} :
    parameter method index = parameter method' index' ↔ method = method' ∧ index = index' := by
  constructor
  · intro h
    have hchars : method.toList ++ '/' :: Nat.toDigits 10 index =
        method'.toList ++ '/' :: Nat.toDigits 10 index' := by
      simpa [parameter, ← String.toList_inj] using h
    obtain ⟨hmethod, hdigits⟩ :=
      split_at_last (slash_notMem_toDigits index) (slash_notMem_toDigits index') hchars
    have hindex := congrArg (Nat.ofDigitChars 10 · 0) hdigits
    simp only [Nat.ofDigitChars_ten_toDigits] at hindex
    exact ⟨String.toList_inj.1 hmethod, hindex⟩
  · rintro ⟨rfl, rfl⟩
    rfl

end MemberName

namespace Contracts

variable {table : Contracts} {marker owner : String} {c d : Contract}

def Declares (table : Contracts) : Contract → Prop
  | .method name => name ∈ table.methods
  | .parameter key => key ∈ table.parameters
  | .field name => name ∈ table.fields

theorem method_iff {name : String} : table.method name ↔ table.Declares (.method name) :=
  List.contains_iff_mem

theorem parameter_iff {method : String} {index : Nat} :
    table.parameter method index ↔ table.Declares (.parameter (MemberName.parameter method index)) :=
  List.contains_iff_mem

theorem field_iff {name : String} : table.field name ↔ table.Declares (.field name) :=
  List.contains_iff_mem

theorem declares_insert : (table.insert c).Declares d ↔ d = c ∨ table.Declares d := by
  cases c <;> cases d <;> simp [insert, Declares, NameSet.mem_insert]

theorem declares_insertAll {contracts : List Contract} :
    (table.insertAll contracts).Declares d ↔ d ∈ contracts ∨ table.Declares d := by
  induction contracts generalizing table with
  | nil => simp [insertAll]
  | cons c contracts ih =>
      have hrest : ((table.insert c).insertAll contracts).Declares d ↔ _ := ih
      rw [declares_insert] at hrest
      rw [insertAll, List.foldl_cons, ← insertAll, hrest, List.mem_cons]
      tauto

theorem not_declares_empty : ¬ empty.Declares d := by
  cases d <;> simp [empty, Declares]

theorem declares_collect {assemblies : List Assembly} :
    (collect assemblies marker).Declares d ↔ ∃ a ∈ assemblies, ∃ t ∈ a.types, d ∈ ofType marker t := by
  simp only [collect, declares_insertAll, not_declares_empty, or_false, List.mem_flatMap]

theorem mem_ofMethod {m : MethodDef} : d ∈ ofMethod marker owner m ↔
    (∃ index p, m.parameters[index]? = some p ∧ p.attributes.has marker ∧
      d = .parameter (MemberName.parameter (m.fullName owner) index)) ∨
    m.attributes.has marker ∧ d = .method (m.fullName owner) := by
  have hparameters : (∃ x ∈ m.parameters.zipIdx, (if x.1.attributes.has marker then
        some (Contract.parameter (MemberName.parameter (m.fullName owner) x.2)) else none) = some d) ↔
      ∃ index p, m.parameters[index]? = some p ∧ p.attributes.has marker ∧
        d = .parameter (MemberName.parameter (m.fullName owner) index) := by
    constructor
    · rintro ⟨⟨p, index⟩, hp, hd⟩
      split at hd
      · exact ⟨index, p, List.mk_mem_zipIdx_iff_getElem?.1 hp, ‹_›, (Option.some.inj hd).symm⟩
      · cases hd
    · rintro ⟨index, p, hp, hmark, rfl⟩
      exact ⟨(p, index), List.mk_mem_zipIdx_iff_getElem?.2 hp, if_pos hmark⟩
  simp only [ofMethod, List.mem_append, List.mem_filterMap, hparameters]
  split <;> simp_all

theorem mem_ofType {t : TypeDef} : d ∈ ofType marker t ↔
    (∃ m ∈ t.methods, d ∈ ofMethod marker t.fullName m) ∨
    ∃ f ∈ t.fields, f.attributes.has marker ∧ d = .field (f.fullName t.fullName) := by
  simp only [ofType, List.mem_append, List.mem_flatMap, ofField]
  refine or_congr_right (exists_congr fun f => and_congr_right fun _ => ?_)
  split <;> simp_all

end Contracts

end NullFlow
