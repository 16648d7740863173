import NullFlow.Metadata

namespace NullFlow.TypeDef

inductive Replaced (R : TypeDef → TypeDef → Prop) : TypeDef → TypeDef → Prop
  | here {t t' : TypeDef} : R t t' → Replaced R t t'
  | nested {t t' : TypeDef} {name : String} {fields : List FieldDef} {methods : List MethodDef}
      {ts ts' : List TypeDef} : Replaced R t t' →
      Replaced R (.mk name fields methods (ts ++ t :: ts')) (.mk name fields methods (ts ++ t' :: ts'))

theorem withNested_eq (t : TypeDef) : t.withNested = t :: allNested t.nested := by
  cases t
  rfl

theorem allNested_eq (ts : List TypeDef) : allNested ts = ts.flatMap withNested := by
  induction ts with
  | nil => rfl
  | cons t rest ih => rw [allNested, ih, List.flatMap_cons]

mutual

theorem methodCount_eq : (t : TypeDef) →
    t.methodCount = (t.withNested.flatMap (·.methods)).length
  | .mk _ _ _ nested => by
    rw [methodCount, withNested, List.flatMap_cons, List.length_append, countNested_eq nested]
    rfl

theorem countNested_eq : (ts : List TypeDef) →
    countNested ts = ((allNested ts).flatMap (·.methods)).length
  | [] => rfl
  | t :: rest => by
    rw [countNested, allNested, List.flatMap_append, List.length_append, methodCount_eq t,
      countNested_eq rest]

end

theorem sizeOf_lt_of_mem_nested {t u : TypeDef} (h : u ∈ t.nested) : sizeOf u < sizeOf t := by
  cases t
  have := List.sizeOf_lt_of_mem h
  simp only [nested] at this
  simp only [mk.sizeOf_spec]
  omega

end NullFlow.TypeDef
