import Mathlib.Data.List.Sort
import Mathlib.Logic.Relation
import NullFlow.Proofs.ContractTables
import NullFlow.Proofs.DocumentOrder
import NullFlow.Proofs.ResultOrder

namespace NullFlow

namespace NameSet

variable {name n : String} {names : List String} {set : NameSet}

theorem insert_increasing (h : set.Pairwise (· < ·)) : (insert name set).Pairwise (· < ·) := by
  induction set with
  | nil => exact List.pairwise_singleton _ _
  | cons m set ih =>
      obtain ⟨hm, hset⟩ := List.pairwise_cons.1 h
      unfold insert
      split
      · rename_i hlt
        refine List.pairwise_cons.2 ⟨?_, h⟩
        exact List.forall_mem_cons.2 ⟨hlt, fun n hn => hlt.trans (hm n hn)⟩
      · split
        · exact h
        · rename_i hlt hne
          refine List.pairwise_cons.2 ⟨fun n hn => ?_, ih hset⟩
          rcases mem_insert.1 hn with rfl | hn
          · exact lt_of_le_of_ne (not_lt.1 hlt) (Ne.symm hne)
          · exact hm n hn

theorem insertAll_increasing (h : set.Pairwise (· < ·)) :
    (insertAll names set).Pairwise (· < ·) := by
  induction names generalizing set with
  | nil => exact h
  | cons name names ih => exact ih (insert_increasing h)

theorem mem_insertAll : n ∈ insertAll names set ↔ n ∈ names ∨ n ∈ set := by
  induction names generalizing set with
  | nil => simp [insertAll]
  | cons name names ih =>
      have hrest : n ∈ insertAll names (insert name set) ↔ _ := ih
      rw [mem_insert] at hrest
      rw [insertAll, List.foldl_cons, ← insertAll, hrest, List.mem_cons]
      tauto

end NameSet

namespace Contracts

variable {table table' : Contracts} {marker : String} {c d : Contract}

structure Increasing (table : Contracts) : Prop where
  methods : table.methods.Pairwise (· < ·)
  parameters : table.parameters.Pairwise (· < ·)
  fields : table.fields.Pairwise (· < ·)

theorem Increasing.insert (h : table.Increasing) : (table.insert c).Increasing := by
  cases c with
  | method name => exact { h with methods := NameSet.insert_increasing h.methods }
  | parameter key => exact { h with parameters := NameSet.insert_increasing h.parameters }
  | field name => exact { h with fields := NameSet.insert_increasing h.fields }

theorem Increasing.insertAll {contracts : List Contract} (h : table.Increasing) :
    (table.insertAll contracts).Increasing := by
  induction contracts generalizing table with
  | nil => exact h
  | cons c contracts ih => exact ih h.insert

theorem collect_increasing (assemblies : List Assembly) (marker : String) :
    (collect assemblies marker).Increasing :=
  Increasing.insertAll ⟨.nil, .nil, .nil⟩

theorem Increasing.ext (h : table.Increasing) (h' : table'.Increasing)
    (hd : ∀ d, table.Declares d ↔ table'.Declares d) : table = table' := by
  have hmethods := h.methods.eq_of_mem_iff h'.methods fun name => hd (.method name)
  have hparameters := h.parameters.eq_of_mem_iff h'.parameters fun key => hd (.parameter key)
  have hfields := h.fields.eq_of_mem_iff h'.fields fun name => hd (.field name)
  cases table
  cases table'
  simp_all

def union (table more : Contracts) : Contracts where
  methods := NameSet.insertAll more.methods table.methods
  parameters := NameSet.insertAll more.parameters table.parameters
  fields := NameSet.insertAll more.fields table.fields

theorem declares_union : (table.union table').Declares d ↔ table.Declares d ∨ table'.Declares d := by
  cases d <;> exact NameSet.mem_insertAll.trans or_comm

theorem Increasing.union (h : table.Increasing) : (table.union table').Increasing where
  methods := NameSet.insertAll_increasing h.methods
  parameters := NameSet.insertAll_increasing h.parameters
  fields := NameSet.insertAll_increasing h.fields

theorem collect_append (assemblies more : List Assembly) (marker : String) :
    collect (assemblies ++ more) marker =
      (collect assemblies marker).union (collect more marker) := by
  refine (collect_increasing _ _).ext (collect_increasing _ _).union fun d => ?_
  simp only [declares_union, declares_collect, List.mem_append, or_and_right, exists_or]

end Contracts

/-- A list comes in another order, or one of its members is replaced. -/
inductive Reordered {α : Type} (R : α → α → Prop) : List α → List α → Prop
  | order {l l' : List α} : l.Perm l' → Reordered R l l'
  | inside {a a' : α} {l l' : List α} : R a a' → Reordered R (l ++ a :: l') (l ++ a' :: l')

theorem perm_flatMap_inside {α β : Type} {f : α → List β} {a a' : α} (l l' : List α)
    (h : (f a).Perm (f a')) : ((l ++ a :: l').flatMap f).Perm ((l ++ a' :: l').flatMap f) := by
  rw [List.flatMap_append, List.flatMap_append, List.flatMap_cons, List.flatMap_cons]
  exact (h.append_right _).append_left _

theorem Reordered.flatMap {α β : Type} {R : α → α → Prop} {f : α → List β} {l l' : List α}
    (h : Reordered R l l') (hf : ∀ a a', R a a' → (f a).Perm (f a')) :
    (l.flatMap f).Perm (l'.flatMap f) := by
  cases h with
  | order h => exact h.flatMap_right f
  | inside h => exact perm_flatMap_inside _ _ (hf _ _ h)

inductive TypeDef.Shuffled : TypeDef → TypeDef → Prop
  | fields {name : String} {fs fs' : List FieldDef} {methods : List MethodDef}
      {nested : List TypeDef} : fs.Perm fs' →
      Shuffled (.mk name fs methods nested) (.mk name fs' methods nested)
  | permuted {t t' : TypeDef} : Permuted t t' → Shuffled t t'

inductive Module.Shuffled : Module → Module → Prop
  | types {name : String} {ts ts' : List TypeDef} :
      Reordered (TypeDef.Replaced TypeDef.Shuffled) ts ts' → Shuffled ⟨name, ts⟩ ⟨name, ts'⟩

inductive Assembly.Shuffled : Assembly → Assembly → Prop
  | modules {name : String} {ms ms' : List Module} :
      Reordered Module.Shuffled ms ms' → Shuffled ⟨name, ms⟩ ⟨name, ms'⟩

def Assembly.Rearranged : List Assembly → List Assembly → Prop :=
  Relation.ReflTransGen (Reordered Assembly.Shuffled)

namespace Contracts

variable {marker : String}

def ofTree (marker : String) (t : TypeDef) : List Contract :=
  t.withNested.flatMap (ofType marker)

theorem ofTree_eq (t : TypeDef) :
    ofTree marker t = ofType marker t ++ t.nested.flatMap (ofTree marker) := by
  rw [ofTree, TypeDef.withNested_eq, List.flatMap_cons, TypeDef.allNested_eq, List.flatMap_assoc]
  rfl

theorem flatMap_types (a : Assembly) :
    a.types.flatMap (ofType marker) =
      a.modules.flatMap fun m => m.types.flatMap (ofTree marker) := by
  simp only [Assembly.types, TypeDef.allNested_eq, List.flatMap_assoc]
  rfl

theorem ofTree_shuffled {t t' : TypeDef} (h : t.Shuffled t') :
    (ofTree marker t).Perm (ofTree marker t') := by
  rw [ofTree_eq, ofTree_eq]
  cases h with
  | fields h => exact ((h.flatMap_right _).append_left _).append_right _
  | permuted h =>
      cases h with
      | methods h => exact ((h.flatMap_right _).append_right _).append_right _
      | nested h => exact (h.flatMap_right _).append_left _

theorem ofTree_replaced {t t' : TypeDef} (h : TypeDef.Replaced TypeDef.Shuffled t t') :
    (ofTree marker t).Perm (ofTree marker t') := by
  induction h with
  | here h => exact ofTree_shuffled h
  | nested _ ih =>
      rw [ofTree_eq, ofTree_eq]
      exact (perm_flatMap_inside _ _ ih).append_left _

theorem flatMap_shuffled (marker : String) {a a' : Assembly} (h : a.Shuffled a') :
    (a.types.flatMap (ofType marker)).Perm (a'.types.flatMap (ofType marker)) := by
  obtain ⟨h⟩ := h
  rw [flatMap_types, flatMap_types]
  refine h.flatMap fun m m' hm => ?_
  obtain ⟨hm⟩ := hm
  exact hm.flatMap fun _ _ ht => ofTree_replaced ht

theorem collect_rearranged {assemblies assemblies' : List Assembly}
    (h : Assembly.Rearranged assemblies assemblies') :
    collect assemblies' marker = collect assemblies marker := by
  induction h with
  | refl => rfl
  | tail _ hstep ih =>
      rw [← ih]
      -- the declarations come in another order, which a table does not keep
      refine (collect_increasing _ _).ext (collect_increasing _ _) fun d => ?_
      have hfound := hstep.flatMap fun _ _ h => flatMap_shuffled marker h
      simp only [collect, declares_insertAll, hfound.mem_iff]

end Contracts

def Attributes.resolved (attributes : Attributes) : Attributes :=
  attributes.filter Option.isSome

theorem Attributes.has_resolved (attributes : Attributes) (marker : String) :
    attributes.resolved.has marker = attributes.has marker := by
  rw [Bool.eq_iff_iff, has, has, List.contains_iff_mem, List.contains_iff_mem, resolved,
    List.mem_filter]
  simp

def ParameterDef.resolved (p : ParameterDef) : ParameterDef :=
  { p with attributes := p.attributes.resolved }

def FieldDef.resolved (f : FieldDef) : FieldDef :=
  { f with attributes := f.attributes.resolved }

def MethodDef.resolved (m : MethodDef) : MethodDef :=
  { m with
    parameters := m.parameters.map ParameterDef.resolved
    attributes := m.attributes.resolved }

mutual

def TypeDef.resolved : TypeDef → TypeDef
  | .mk name fields methods nested =>
    .mk name (fields.map FieldDef.resolved) (methods.map MethodDef.resolved) (allResolved nested)

def TypeDef.allResolved : List TypeDef → List TypeDef
  | [] => []
  | t :: rest => t.resolved :: allResolved rest

end

theorem TypeDef.allResolved_eq (ts : List TypeDef) : allResolved ts = ts.map resolved := by
  induction ts with
  | nil => rfl
  | cons t rest ih => rw [allResolved, ih, List.map_cons]

theorem TypeDef.nested_resolved (t : TypeDef) : t.resolved.nested = t.nested.map resolved := by
  cases t
  exact allResolved_eq _

def Module.resolved (m : Module) : Module :=
  { m with types := m.types.map TypeDef.resolved }

def Assembly.resolved (a : Assembly) : Assembly :=
  { a with modules := a.modules.map Module.resolved }

namespace Contracts

variable {marker : String}

theorem ofMethod_resolved (owner : String) (m : MethodDef) :
    ofMethod marker owner m.resolved = ofMethod marker owner m := by
  have hname : m.resolved.fullName owner = m.fullName owner := by
    simp [MethodDef.fullName, MethodDef.resolved, Function.comp_def, ParameterDef.resolved]
  simp only [ofMethod, hname]
  simp [MethodDef.resolved, List.zipIdx_map, List.filterMap_map, ParameterDef.resolved,
    Attributes.has_resolved]

theorem ofField_resolved (owner : String) (f : FieldDef) :
    ofField marker owner f.resolved = ofField marker owner f := by
  simp only [ofField, FieldDef.resolved, Attributes.has_resolved]
  rfl

theorem ofType_resolved (t : TypeDef) : ofType marker t.resolved = ofType marker t := by
  cases t
  simp [ofType, TypeDef.resolved, TypeDef.methods, TypeDef.fields, TypeDef.fullName,
    List.flatMap_map, ofMethod_resolved, ofField_resolved]

theorem ofTree_resolved (t : TypeDef) : ofTree marker t.resolved = ofTree marker t := by
  rw [ofTree_eq, ofTree_eq, ofType_resolved, TypeDef.nested_resolved, List.flatMap_map]
  congr 1
  exact List.flatMap_congr fun u hu => ofTree_resolved u
termination_by t
decreasing_by exact TypeDef.sizeOf_lt_of_mem_nested hu

theorem collect_resolved (assemblies : List Assembly) (marker : String) :
    collect (assemblies.map Assembly.resolved) marker = collect assemblies marker := by
  have hfound (a : Assembly) :
      a.resolved.types.flatMap (ofType marker) = a.types.flatMap (ofType marker) := by
    simp only [flatMap_types, Assembly.resolved, Module.resolved, List.flatMap_map, ofTree_resolved]
  simp only [collect, List.flatMap_map, hfound]

end Contracts

/-- A type of a module of the assemblies, or one nested in such a type at any depth. -/
def TypeDef.Among (t : TypeDef) (assemblies : List Assembly) : Prop :=
  ∃ a ∈ assemblies, ∃ module ∈ a.modules, ∃ outer ∈ module.types, ∃ place, outer.At place t

theorem Assembly.mem_types {a : Assembly} {t : TypeDef} : t ∈ a.types ↔
    ∃ module ∈ a.modules, ∃ outer ∈ module.types, ∃ place, outer.At place t := by
  simp only [types, TypeDef.allNested_eq, List.mem_flatMap,
    (TypeDef.enumerates_withNested _).mem_iff]

def MethodDef.Defined (m : MethodDef) (assemblies : List Assembly) (name : String) : Prop :=
  ∃ t : TypeDef, t.Among assemblies ∧ m ∈ t.methods ∧ m.fullName t.fullName = name

def FieldDef.Defined (f : FieldDef) (assemblies : List Assembly) (name : String) : Prop :=
  ∃ t : TypeDef, t.Among assemblies ∧ f ∈ t.fields ∧ f.fullName t.fullName = name

/-- The reference gives the declaring type, the name and the names of the types of a definition. -/
structure MethodRef.Repeats (ref : MethodRef) (owner : String) (m : MethodDef) : Prop where
  declaringType : ref.declaringType = owner
  name : ref.name = m.name
  returnType : ref.returnType.fullName = m.returnType.fullName
  parameters : ref.parameters.map (·.fullName) = m.parameters.map (·.parameterType.fullName)

theorem MethodRef.Repeats.fullName {ref : MethodRef} {owner : String} {m : MethodDef}
    (h : ref.Repeats owner m) : ref.fullName = m.fullName owner := by
  rw [MethodRef.fullName, MethodDef.fullName, h.declaringType, h.name, h.returnType, h.parameters]

structure FieldRef.Repeats (ref : FieldRef) (owner : String) (f : FieldDef) : Prop where
  declaringType : ref.declaringType = owner
  name : ref.name = f.name
  fieldType : ref.fieldType.fullName = f.fieldType.fullName

theorem FieldRef.Repeats.fullName {ref : FieldRef} {owner : String} {f : FieldDef}
    (h : ref.Repeats owner f) : ref.fullName = f.fullName owner := by
  rw [FieldRef.fullName, FieldDef.fullName, h.declaringType, h.name, h.fieldType]

namespace Attributes

def Marked (attributes : Attributes) (marker : String) : Prop :=
  some marker ∈ attributes

theorem has_iff {attributes : Attributes} {marker : String} :
    attributes.has marker ↔ attributes.Marked marker :=
  List.contains_iff_mem

end Attributes

def MethodDef.MarkedAt (m : MethodDef) (index : Nat) (marker : String) : Prop :=
  ∃ p, m.parameters[index]? = some p ∧ p.attributes.Marked marker

namespace Contracts

variable {assemblies : List Assembly} {marker name : String} {index : Nat} {d : Contract}

theorem declares_collect_iff : (collect assemblies marker).Declares d ↔
    ∃ t : TypeDef, t.Among assemblies ∧ d ∈ ofType marker t := by
  rw [declares_collect]
  simp only [TypeDef.Among, Assembly.mem_types]
  constructor
  · rintro ⟨a, ha, t, ht, hd⟩
    exact ⟨t, ⟨a, ha, ht⟩, hd⟩
  · rintro ⟨t, ⟨a, ha, ht⟩, hd⟩
    exact ⟨a, ha, t, ht, hd⟩

theorem collect_method_iff : (collect assemblies marker).method name ↔
    ∃ m : MethodDef, m.Defined assemblies name ∧ m.attributes.Marked marker := by
  simp only [method_iff, declares_collect_iff, mem_ofType, mem_ofMethod, Attributes.has_iff]
  constructor
  · rintro ⟨t, ht, ⟨m, hm, ⟨_, _, _, _, hd⟩ | ⟨hmark, hd⟩⟩ | ⟨_, _, _, hd⟩⟩
    · cases hd
    · exact ⟨m, ⟨t, ht, hm, (Contract.method.inj hd).symm⟩, hmark⟩
    · cases hd
  · rintro ⟨m, ⟨t, ht, hm, rfl⟩, hmark⟩
    exact ⟨t, ht, .inl ⟨m, hm, .inr ⟨hmark, rfl⟩⟩⟩

theorem collect_parameter_iff : (collect assemblies marker).parameter name index ↔
    ∃ m : MethodDef, m.Defined assemblies name ∧ m.MarkedAt index marker := by
  simp only [parameter_iff, declares_collect_iff, mem_ofType, mem_ofMethod, Attributes.has_iff]
  constructor
  · rintro ⟨t, ht, ⟨m, hm, ⟨k, p, hp, hmark, hd⟩ | ⟨_, hd⟩⟩ | ⟨_, _, _, hd⟩⟩
    · -- the entry was made from a name and an index of its own, which the text gives back
      obtain ⟨rfl, rfl⟩ := MemberName.parameter_inj.1 (Contract.parameter.inj hd)
      exact ⟨m, ⟨t, ht, hm, rfl⟩, p, hp, hmark⟩
    · cases hd
    · cases hd
  · rintro ⟨m, ⟨t, ht, hm, rfl⟩, p, hp, hmark⟩
    exact ⟨t, ht, .inl ⟨m, hm, .inl ⟨index, p, hp, hmark, rfl⟩⟩⟩

theorem collect_field_iff : (collect assemblies marker).field name ↔
    ∃ f : FieldDef, f.Defined assemblies name ∧ f.attributes.Marked marker := by
  simp only [field_iff, declares_collect_iff, mem_ofType, mem_ofMethod, Attributes.has_iff]
  constructor
  · rintro ⟨t, ht, ⟨m, _, ⟨_, _, _, _, hd⟩ | ⟨_, hd⟩⟩ | ⟨f, hf, hmark, hd⟩⟩
    · cases hd
    · cases hd
    · exact ⟨f, ⟨t, ht, hf, (Contract.field.inj hd).symm⟩, hmark⟩
  · rintro ⟨f, ⟨t, ht, hf, rfl⟩, hmark⟩
    exact ⟨t, ht, .inr ⟨f, hf, hmark, rfl⟩⟩

theorem exists_iff_or_ne {α : Type} {P Q : α → Prop} {a : α} (ha : P a) :
    (∃ b, P b ∧ Q b) ↔ Q a ∨ ∃ b, b ≠ a ∧ P b ∧ Q b := by
  constructor
  · rintro ⟨b, hP, hQ⟩
    by_cases h : b = a
    · exact .inl (h ▸ hQ)
    · exact .inr ⟨b, h, hP, hQ⟩
  · rintro (hQ | ⟨b, _, hP, hQ⟩)
    · exact ⟨a, ha, hQ⟩
    · exact ⟨b, hP, hQ⟩

/-- What the table collected from some assemblies says. References see the definition they repeat,
and other definitions only where these have the same full name. -/
structure Faithful (assemblies : List Assembly) (marker : String) (table : Contracts) : Prop where
  method : ∀ name, table.method name ↔
    ∃ m : MethodDef, m.Defined assemblies name ∧ m.attributes.Marked marker
  parameter : ∀ name index, table.parameter name index ↔
    ∃ m : MethodDef, m.Defined assemblies name ∧ m.MarkedAt index marker
  field : ∀ name, table.field name ↔
    ∃ f : FieldDef, f.Defined assemblies name ∧ f.attributes.Marked marker
  resolved : collect (assemblies.map Assembly.resolved) marker = table
  rearranged : ∀ assemblies', Assembly.Rearranged assemblies assemblies' →
    collect assemblies' marker = table
  union : ∀ more, collect (assemblies ++ more) marker = table.union (collect more marker)
  methodRef : ∀ t : TypeDef, t.Among assemblies → ∀ m ∈ t.methods, ∀ ref : MethodRef,
    ref.Repeats t.fullName m →
    (table.method ref.fullName ↔ m.attributes.Marked marker ∨ ∃ m' : MethodDef, m' ≠ m ∧
      m'.Defined assemblies ref.fullName ∧ m'.attributes.Marked marker) ∧
    ∀ index, table.parameter ref.fullName index ↔ m.MarkedAt index marker ∨ ∃ m' : MethodDef,
      m' ≠ m ∧ m'.Defined assemblies ref.fullName ∧ m'.MarkedAt index marker
  fieldRef : ∀ t : TypeDef, t.Among assemblies → ∀ f ∈ t.fields, ∀ ref : FieldRef,
    ref.Repeats t.fullName f →
    (table.field ref.fullName ↔ f.attributes.Marked marker ∨ ∃ f' : FieldDef, f' ≠ f ∧
      f'.Defined assemblies ref.fullName ∧ f'.attributes.Marked marker)

theorem collect_faithful (assemblies : List Assembly) (marker : String) :
    Faithful assemblies marker (collect assemblies marker) where
  method _ := collect_method_iff
  parameter _ _ := collect_parameter_iff
  field _ := collect_field_iff
  resolved := collect_resolved assemblies marker
  rearranged _ := collect_rearranged
  union more := collect_append assemblies more marker
  methodRef t ht m hm ref href := by
    have hdefined : m.Defined assemblies ref.fullName := ⟨t, ht, hm, href.fullName.symm⟩
    exact ⟨collect_method_iff.trans (exists_iff_or_ne hdefined),
      fun index => collect_parameter_iff.trans (exists_iff_or_ne hdefined)⟩
  fieldRef t ht f hf ref href := by
    have hdefined : f.Defined assemblies ref.fullName := ⟨t, ht, hf, href.fullName.symm⟩
    exact collect_field_iff.trans (exists_iff_or_ne hdefined)

def hang : MethodDef where
  name := "Hang"
  returnType := ⟨"System.Object", false⟩
  hasThis := true
  parameters := [⟨"height", ⟨"System.Int32", true⟩, [none]⟩,
    ⟨"picture", ⟨"System.String", false⟩, [none, some defaultMarker]⟩]
  attributes := [none]
  body := none

def hangAnywhere : MethodDef :=
  { hang with parameters := [], attributes := [some defaultMarker] }

def nail (methods : List MethodDef) : TypeDef :=
  .mk "Sample.Room/Wall/Nail" [⟨"hook", ⟨"System.Object", false⟩, []⟩] methods []

def room (methods : List MethodDef) : Assembly :=
  ⟨"Sample", [⟨"Sample.dll",
    [.mk "Sample.Room" [] [] [.mk "Sample.Room/Wall" [] [] [nail methods]]]⟩]⟩

def hangRef : MethodRef where
  declaringType := "Sample.Room/Wall/Nail"
  name := "Hang"
  hasThis := true
  parameters := [⟨"System.Int32", true⟩, ⟨"System.String", false⟩]
  returnType := ⟨"System.Object", false⟩
  unresolved := false

theorem nail_among (methods : List MethodDef) : (nail methods).Among [room methods] :=
  ⟨_, List.mem_singleton_self _, _, List.mem_singleton_self _, _, List.mem_singleton_self _,
    [0, 0], .nested rfl (.nested rfl .here)⟩

theorem room_rearranged {methods methods' : List MethodDef} (h : methods.Perm methods') :
    Assembly.Rearranged [room methods] [room methods'] := by
  have hnail : (nail methods).Shuffled (nail methods') := .permuted (.methods h)
  have hwall := @TypeDef.Replaced.nested _ _ _ "Sample.Room/Wall" [] [] [] [] (.here hnail)
  have hroom := @TypeDef.Replaced.nested _ _ _ "Sample.Room" [] [] [] [] hwall
  have hmodule := @Module.Shuffled.types "Sample.dll" _ _ (@Reordered.inside _ _ _ _ [] [] hroom)
  have hassembly := @Assembly.Shuffled.modules "Sample" _ _ (@Reordered.inside _ _ _ _ [] [] hmodule)
  exact .single (@Reordered.inside _ _ _ _ [] [] hassembly)

theorem room_faithful :
    let table := collect [room [hang, hangAnywhere]] defaultMarker
    hangRef.Repeats "Sample.Room/Wall/Nail" hang ∧ table.parameter hangRef.fullName 1 ∧
    table.parameter hangRef.fullName 0 = false ∧ table.method hangRef.fullName = false ∧
    collect [room [hangAnywhere, hang]] defaultMarker = table := by
  intro table
  have hfaithful := collect_faithful [room [hang, hangAnywhere]] defaultMarker
  have href : hangRef.Repeats "Sample.Room/Wall/Nail" hang := ⟨rfl, rfl, rfl, rfl⟩
  have hmarked : hang.MarkedAt 1 defaultMarker := ⟨_, rfl, .tail _ (.head _)⟩
  have hlookup := (hfaithful.methodRef _ (nail_among _) hang (.head _) hangRef href).2 1
  exact ⟨href, hlookup.2 (.inl hmarked), by decide +kernel, by decide +kernel,
    hfaithful.rearranged _ (room_rearranged (.swap _ _ _))⟩

end Contracts

end NullFlow
