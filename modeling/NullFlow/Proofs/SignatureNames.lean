import NullFlow.Proofs.MarkedMembers

namespace NullFlow

namespace MemberName

/-- How many angle brackets are open behind a character. None must be closed that is not open, and
outside of all there is no comma. -/
def nesting (depth : Nat) (c : Char) : Option Nat :=
  if c = '<' then some (depth + 1)
  else if c = '>' then if depth = 0 then none else some (depth - 1)
  else if c = ',' ∧ depth = 0 then none
  else some depth

def Closes (depth : Nat) (cs : List Char) : Prop := cs.foldlM nesting depth = some 0

instance (depth : Nat) (cs : List Char) : Decidable (Closes depth cs) :=
  inferInstanceAs (Decidable (_ = _))

variable {depth : Nat} {c : Char} {p p' tail tail' : List Char} {ps ps' : List (List Char)}

theorem closes_nil : Closes depth [] ↔ depth = 0 := by
  simp [Closes]

theorem closes_cons : Closes depth (c :: p) ↔ ∃ d, nesting depth c = some d ∧ Closes d p := by
  simp [Closes, Option.bind_eq_some_iff]

theorem not_closes_comma : ¬ Closes 0 (',' :: p) := by
  rw [closes_cons]
  rintro ⟨d, hd, _⟩
  cases hd

theorem Closes.split (h : Closes depth p) (h' : Closes depth p') (ht : ∀ c ∈ tail.head?, c = ',')
    (ht' : ∀ c ∈ tail'.head?, c = ',') (heq : p ++ tail = p' ++ tail') : p = p' ∧ tail = tail' := by
  induction p generalizing depth p' with
  | nil =>
      cases p' with
      | nil => exact ⟨rfl, heq⟩
      | cons c p' =>
          obtain rfl := closes_nil.1 h
          obtain rfl : tail = c :: (p' ++ tail') := heq
          obtain rfl := ht c rfl
          exact absurd h' not_closes_comma
  | cons c p ih =>
      cases p' with
      | nil =>
          obtain rfl := closes_nil.1 h'
          obtain rfl : c :: (p ++ tail) = tail' := heq
          obtain rfl := ht' c rfl
          exact absurd h not_closes_comma
      | cons c' p' =>
          obtain ⟨rfl, hrest⟩ := List.cons.inj heq
          obtain ⟨d, hd, h⟩ := closes_cons.1 h
          obtain ⟨d', hd', h'⟩ := closes_cons.1 h'
          obtain rfl := Option.some.inj (hd.symm.trans hd')
          obtain ⟨rfl, htail⟩ := ih h h' hrest
          exact ⟨rfl, htail⟩

def listed (ps : List (List Char)) : List Char := ps.flatMap fun p => ',' :: p

theorem listed_head (ps : List (List Char)) : ∀ c ∈ (listed ps).head?, c = ',' := by
  cases ps <;> simp [listed]

theorem listed_injective (h : ∀ p ∈ ps, Closes 0 p) (h' : ∀ p ∈ ps', Closes 0 p)
    (heq : listed ps = listed ps') : ps = ps' := by
  induction ps generalizing ps' with
  | nil => cases ps' with
    | nil => rfl
    | cons p' ps' => simp [listed] at heq
  | cons p ps ih => cases ps' with
    | nil => simp [listed] at heq
    | cons p' ps' =>
        obtain ⟨hp, hps⟩ := List.forall_mem_cons.1 h
        obtain ⟨hp', hps'⟩ := List.forall_mem_cons.1 h'
        have happend : p ++ listed ps = p' ++ listed ps' := (List.cons.inj heq).2
        obtain ⟨rfl, hrest⟩ := hp.split hp' (listed_head ps) (listed_head ps') happend
        rw [ih hps hps' hrest]

theorem comma_intercalate (p : List Char) (ps : List (List Char)) :
    ',' :: [','].intercalate (p :: ps) = listed (p :: ps) := by
  induction ps generalizing p with
  | nil => simp [listed]
  | cons q ps ih =>
      rw [List.intercalate_cons_cons, List.append_assoc, List.singleton_append, ih]
      rfl

theorem intercalate_injective (h : ∀ p ∈ ps, p ≠ [] ∧ Closes 0 p)
    (h' : ∀ p ∈ ps', p ≠ [] ∧ Closes 0 p)
    (heq : [','].intercalate ps = [','].intercalate ps') : ps = ps' := by
  -- Without the texts being there, no text and one empty text would be joined to the same.
  have hempty {q : List Char} {qs : List (List Char)} (hq : q ≠ []) :
      [','].intercalate (q :: qs) ≠ [] := by
    cases qs with
    | nil => simpa using hq
    | cons r qs => simp [List.intercalate_cons_cons]
  cases ps with
  | nil => cases ps' with
    | nil => rfl
    | cons p' ps' => exact absurd heq.symm (hempty (h' p' List.mem_cons_self).1)
  | cons p ps => cases ps' with
    | nil => exact absurd heq (hempty (h p List.mem_cons_self).1)
    | cons p' ps' =>
        apply listed_injective
        · exact fun q hq => (h q hq).2
        · exact fun q hq => (h' q hq).2
        · rw [← comma_intercalate, ← comma_intercalate, heq]

structure Signature where
  returnType : String
  owner : String
  name : String
  parameters : List String
  deriving DecidableEq

namespace Signature

variable {s s' : Signature}

def fullName (s : Signature) : String := method s.returnType s.owner s.name s.parameters

/-- Each part lacks the character that ends it, and the types of parameters have their commas in
angle brackets. -/
structure Legible (s : Signature) : Prop where
  returnType : ' ' ∉ s.returnType.toList
  owner : ':' ∉ s.owner.toList
  name : '(' ∉ s.name.toList
  parameters : ∀ p ∈ s.parameters, p ≠ "" ∧ Closes 0 p.toList

theorem toList_fullName (s : Signature) : s.fullName.toList =
    s.returnType.toList ++ ' ' :: (s.owner.toList ++ ':' :: ':' :: (s.name.toList ++
      '(' :: ([','].intercalate (s.parameters.map String.toList) ++ [')']))) := by
  simp [fullName, method, String.toList_intercalate]

theorem Legible.closes (h : s.Legible) :
    ∀ p ∈ s.parameters.map String.toList, p ≠ [] ∧ Closes 0 p := by
  intro p hp
  obtain ⟨q, hq, rfl⟩ := List.mem_map.1 hp
  obtain ⟨hne, hcloses⟩ := h.parameters q hq
  exact ⟨by simpa using hne, hcloses⟩

theorem fullName_injective (h : s.Legible) (h' : s'.Legible) (heq : s.fullName = s'.fullName) :
    s = s' := by
  have hchars := congrArg String.toList heq
  rw [toList_fullName, toList_fullName] at hchars
  obtain ⟨hreturn, hchars⟩ := split_at_first h.returnType h'.returnType hchars
  obtain ⟨howner, hchars⟩ := split_at_first h.owner h'.owner hchars
  obtain ⟨hname, hchars⟩ := split_at_first h.name h'.name (List.cons.inj hchars).2
  have hparameters := intercalate_injective h.closes h'.closes (List.append_cancel_right hchars)
  cases s
  cases s'
  rw [Signature.mk.injEq]
  exact ⟨String.toList_inj.1 hreturn, String.toList_inj.1 howner, String.toList_inj.1 hname,
    List.map_injective_iff.2 (fun _ _ => String.toList_inj.1) hparameters⟩

end Signature

end MemberName

open MemberName (Signature)

def MethodDef.signature (m : MethodDef) (owner : String) : Signature where
  returnType := m.returnType.fullName
  owner := owner
  name := m.name
  parameters := m.parameters.map (·.parameterType.fullName)

namespace Contracts

variable {assemblies : List Assembly} {marker : String} {s : Signature}

def Defines (assemblies : List Assembly) (s : Signature) (m : MethodDef) : Prop :=
  ∃ t : TypeDef, t.Among assemblies ∧ m ∈ t.methods ∧ m.signature t.fullName = s

def Legible (assemblies : List Assembly) : Prop :=
  ∀ t : TypeDef, t.Among assemblies → ∀ m ∈ t.methods, (m.signature t.fullName).Legible

theorem defined_iff (h : Legible assemblies) (hs : s.Legible) {m : MethodDef} :
    m.Defined assemblies s.fullName ↔ Defines assemblies s m := by
  constructor
  · rintro ⟨t, ht, hm, hname⟩
    exact ⟨t, ht, hm, Signature.fullName_injective (h t ht m hm) hs hname⟩
  · rintro ⟨t, ht, hm, rfl⟩
    exact ⟨t, ht, hm, rfl⟩

/-- The keys of contracts give back what they were made from, so that a table which is asked about an
overload answers for the methods of its own signature alone. -/
theorem keys_unambiguous :
    (∀ method method' index index',
      MemberName.parameter method index = MemberName.parameter method' index' →
        method = method' ∧ index = index') ∧
    (∀ s s' : Signature, s.Legible → s'.Legible → s.fullName = s'.fullName → s = s') ∧
    ∀ assemblies marker, Legible assemblies → ∀ s : Signature, s.Legible →
      ((collect assemblies marker).method s.fullName ↔
        ∃ m, Defines assemblies s m ∧ m.attributes.Marked marker) ∧
      ∀ index, (collect assemblies marker).parameter s.fullName index ↔
        ∃ m, Defines assemblies s m ∧ m.MarkedAt index marker := by
  refine ⟨fun _ _ _ _ => MemberName.parameter_inj.1, fun _ _ => Signature.fullName_injective, ?_⟩
  intro assemblies marker h s hs
  constructor
  · rw [collect_method_iff]
    exact exists_congr fun m => and_congr_left' (defined_iff h hs)
  · intro index
    rw [collect_parameter_iff]
    exact exists_congr fun m => and_congr_left' (defined_iff h hs)

def find (parameters : List String) (attributes : Attributes) : MethodDef where
  name := "Find"
  returnType := ⟨"System.Void", true⟩
  hasThis := true
  parameters := parameters.map fun p => ⟨"", ⟨p, false⟩, attributes⟩
  attributes := []
  body := none

def narrow : List String := ["Sample.Map<System.String,Sample.List<System.Int32>>"]

def wide : List String := ["Sample.Map<System.String,Sample.List<System.Int32>>", "System.Int32"]

def finders : Assembly :=
  ⟨"Sample", [⟨"Sample.dll", [.mk "Sample.Index/Page" []
    [find narrow [some defaultMarker], find wide []] []]⟩]⟩

theorem finders_unambiguous :
    let sought (parameters : List String) : Signature :=
      ⟨"System.Void", "Sample.Index/Page", "Find", parameters⟩
    Legible [finders] ∧ (sought narrow).fullName ≠ (sought wide).fullName ∧
    (collect [finders] defaultMarker).parameter (sought narrow).fullName 0 ∧
    (collect [finders] defaultMarker).parameter (sought wide).fullName 0 = false := by
  intro sought
  have hnarrow : (sought narrow).Legible := ⟨by decide, by decide, by decide, by decide⟩
  have hwide : (sought wide).Legible := ⟨by decide, by decide, by decide, by decide⟩
  have htypes {t : TypeDef} (ht : t.Among [finders]) : t = .mk "Sample.Index/Page" []
      [find narrow [some defaultMarker], find wide []] [] := by
    obtain ⟨a, ha, ht⟩ := ht
    obtain rfl := List.mem_singleton.1 ha
    exact List.mem_singleton.1 (Assembly.mem_types.2 ht)
  have hlegible : Legible [finders] := by
    intro t ht m hm
    obtain rfl := htypes ht
    obtain rfl | rfl : m = find narrow [some defaultMarker] ∨ m = find wide [] := by
      simpa [TypeDef.methods] using hm
    · exact hnarrow
    · exact hwide
  obtain ⟨-, hinjective, htable⟩ := keys_unambiguous
  refine ⟨hlegible, fun heq => ?_, ?_, by decide +kernel⟩
  · exact absurd (hinjective _ _ hnarrow hwide heq) (by decide)
  · refine ((htable _ _ hlegible _ hnarrow).2 0).2 ⟨find narrow [some defaultMarker], ?_, ?_⟩
    · exact ⟨_, ⟨_, .head _, Assembly.mem_types.1 (.head _)⟩, .head _, rfl⟩
    · exact ⟨_, rfl, .head _⟩

end Contracts

end NullFlow
