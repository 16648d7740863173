import Mathlib.Data.Int.Order.Basic
import Mathlib.Data.List.Sort
import Mathlib.Logic.Relation
import NullFlow.Proofs.MethodChecks

namespace NullFlow

namespace Json

def string? : Json → Option String
  | .string value => some value
  | _ => none

def int? : Json → Option Int
  | .number (.int value) => some value
  | _ => none

def first? : Json → Option Json
  | .array items => items.head?
  | _ => none

end Json

namespace Report

def ruleId (r : Json) : String := ((r.get? "ruleId").bind Json.string?).getD ""

def text (r : Json) : String :=
  (((r.get? "message").bind (·.get? "text")).bind Json.string?).getD ""

def firstLocation? (r : Json) : Option Json := (r.get? "locations").bind Json.first?

def logicalName (r : Json) : String :=
  (((((firstLocation? r).bind (·.get? "logicalLocations")).bind Json.first?).bind
    (·.get? "name")).bind Json.string?).getD ""

def byteOffset? (r : Json) : Option Int :=
  ((((firstLocation? r).bind (·.get? "physicalLocation")).bind (·.get? "region")).bind
    (·.get? "byteOffset")).bind Json.int?

/-- The byte in the artifact, or the offset that stands among the properties where no artifact is
known. -/
def offset (r : Json) : Int :=
  ((byteOffset? r).or (((r.get? "properties").bind (·.get? "ilOffset")).bind Json.int?)).getD (-1)

def key (r : Json) : String ×ₗ String ×ₗ ℤ ×ₗ String :=
  toLex (ruleId r, toLex (logicalName r, toLex (offset r, text r)))

theorem offset_result (r : Result) : offset (result r) = r.finding.offset := by
  obtain ⟨rule, owner, method, uri, f⟩ := r
  cases uri <;> rfl

theorem key_result (r : Result) : key (result r) =
    toLex (r.rule, toLex (r.location, toLex ((r.finding.offset : ℤ), r.finding.message))) := by
  rw [key, offset_result]
  obtain ⟨rule, owner, method, uri, f⟩ := r
  cases uri <;> rfl

theorem key_lt_key {r r' : Result} : key (result r) < key (result r') ↔ r.key < r'.key := by
  simp only [key_result, Result.key, Finding.key, Prod.Lex.toLex_lt_toLex, Int.ofNat_lt,
    Int.natCast_inj]

end Report

inductive TypeDef.Permuted : TypeDef → TypeDef → Prop
  | methods {name : String} {fields : List FieldDef} {ms ms' : List MethodDef}
      {nested : List TypeDef} : ms.Perm ms' →
      Permuted (.mk name fields ms nested) (.mk name fields ms' nested)
  | nested {name : String} {fields : List FieldDef} {methods : List MethodDef}
      {ts ts' : List TypeDef} : ts.Perm ts' →
      Permuted (.mk name fields methods ts) (.mk name fields methods ts')

theorem TypeDef.Permuted.treeResults {t t' : TypeDef} (h : Permuted t t') (contracts : Contracts)
    (uri : Option String) : (t.treeResults contracts uri).Perm (t'.treeResults contracts uri) := by
  cases h with
  | methods h =>
      rw [treeResults_mk, treeResults_mk]
      exact (h.flatMap_right _).append_right _
  | nested h =>
      rw [treeResults_mk, treeResults_mk]
      exact (h.flatMap_right _).append_left _

namespace Inspection

inductive Permuted : Inspection → Inspection → Prop
  | subjects {ss ss' : List Subject} {contracts : Contracts} {artifacts : List Artifact}
      {trace : Bool} : ss.Perm ss' →
      Permuted ⟨ss, contracts, artifacts, trace⟩ ⟨ss', contracts, artifacts, trace⟩
  | modules {ss ss' : List Subject} {assembly : String} {ms ms' : List Module} {artifact : Int}
      {contracts : Contracts} {artifacts : List Artifact} {trace : Bool} : ms.Perm ms' →
      Permuted ⟨ss ++ ⟨⟨assembly, ms⟩, artifact⟩ :: ss', contracts, artifacts, trace⟩
        ⟨ss ++ ⟨⟨assembly, ms'⟩, artifact⟩ :: ss', contracts, artifacts, trace⟩
  | types {ss ss' : List Subject} {assembly module : String} {ms ms' : List Module}
      {ts ts' : List TypeDef} {artifact : Int} {contracts : Contracts} {artifacts : List Artifact}
      {trace : Bool} : ts.Perm ts' →
      Permuted
        ⟨ss ++ ⟨⟨assembly, ms ++ ⟨module, ts⟩ :: ms'⟩, artifact⟩ :: ss', contracts, artifacts, trace⟩
        ⟨ss ++ ⟨⟨assembly, ms ++ ⟨module, ts'⟩ :: ms'⟩, artifact⟩ :: ss', contracts, artifacts, trace⟩
  | members {i i' : Inspection} : Replaced TypeDef.Permuted i i' → Permuted i i'

variable {i i' : Inspection}

theorem Permuted.produced (h : Permuted i i') : i.produced.Perm i'.produced := by
  cases h with
  | subjects h =>
      rw [produced_eq, produced_eq]
      exact h.flatMap_right _
  | modules h =>
      rw [produced_eq, produced_eq]
      apply PartByPart.perm.flatMap
      simp only [Subject.results]
      split
      · exact h.flatMap_right _
      · exact .refl []
  | types h =>
      rw [produced_eq, produced_eq]
      apply PartByPart.perm.flatMap
      simp only [Subject.results]
      split
      · exact PartByPart.perm.flatMap (h.flatMap_right _)
      · exact .refl []
  | members h => exact h.produced .perm fun uri _ _ hu => hu.treeResults _ uri

theorem rearranged_produced (h : Relation.ReflTransGen Permuted i i') :
    i.produced.Perm i'.produced := by
  induction h with
  | refl => exact .refl _
  | tail _ hstep ih => exact ih.trans hstep.produced

def keys (i : Inspection) : List (String ×ₗ String ×ₗ ℤ ×ₗ String) :=
  i.results.map fun r => Report.key (Report.result r)

theorem keys_increasing (i : Inspection) : i.keys.Pairwise (· < ·) := by
  rw [keys, List.pairwise_map, results_eq]
  exact (Keyed.sort_sorted Result.key i.produced).imp Report.key_lt_key.2

theorem mem_keys {k : String ×ₗ String ×ₗ ℤ ×ₗ String} :
    k ∈ i.keys ↔ ∃ r ∈ i.produced, Report.key (Report.result r) = k := by
  rw [keys, List.mem_map, results_eq]
  constructor
  · rintro ⟨r, hr, rfl⟩
    exact ⟨r, Keyed.mem_of_mem_sort hr, rfl⟩
  · rintro ⟨r, hr, rfl⟩
    obtain ⟨kept, hkept, hkey, _⟩ := Keyed.exists_mem_sort Result.key hr
    obtain ⟨hrule, hlocation, hfinding⟩ := Result.key_eq_iff.1 hkey
    refine ⟨kept, hkept, ?_⟩
    rw [Report.key_result, Report.key_result, hrule, hlocation, hfinding]

theorem keys_rearranged (h : Relation.ReflTransGen Permuted i i') : i'.keys = i.keys := by
  have hperm := rearranged_produced h
  refine i'.keys_increasing.eq_of_mem_iff i.keys_increasing fun k => ?_
  simp only [mem_keys, hperm.mem_iff]

/-- The keys stand in strict order and are those of all that was found, their offsets are those of the
findings, and no order of what is looked at changes them. -/
structure Canonical (i : Inspection) : Prop where
  increasing : i.keys.Pairwise (· < ·)
  complete : ∀ k, k ∈ i.keys ↔ ∃ s t, (s, t) ∈ i.types ∧ ∃ m ∈ t.methods, ∃ findings,
    m.check t.fullName i.contracts = .ok findings ∧ ∃ f ∈ findings,
      k = toLex (Rule.nullDereference.id, toLex (t.fullName ++ "::" ++ m.name,
        toLex ((f.offset : ℤ), f.message)))
  offset : ∀ r ∈ i.results, Report.offset (Report.result r) = r.finding.offset
  rearranged : ∀ i', Relation.ReflTransGen Permuted i i' → i'.keys = i.keys

theorem results_canonical (i : Inspection) : i.Canonical where
  increasing := i.keys_increasing
  complete k := by
    rw [mem_keys]
    constructor
    · rintro ⟨r, hr, rfl⟩
      obtain ⟨s, t, ht, m, hm, findings, hcheck, f, hf, rfl⟩ := mem_produced.1 hr
      exact ⟨s, t, ht, m, hm, findings, hcheck, f, hf, Report.key_result _⟩
    · rintro ⟨s, t, ht, m, hm, findings, hcheck, f, hf, rfl⟩
      exact ⟨_, mem_produced.2 ⟨s, t, ht, m, hm, findings, hcheck, f, hf, rfl⟩,
        Report.key_result _⟩
  offset r _ := Report.offset_result r
  rearranged _ := keys_rearranged

def shelf (subjects : List Subject) : Inspection where
  subjects := subjects
  contracts := .empty
  artifacts := [⟨some "file:///sample.json", none, none, false⟩]
  trace := false

def nest (methods : List MethodDef) : Assembly :=
  ⟨"Sample", [⟨"Sample.dll", [.mk "Sample.Outer" [] [] [.mk "Sample.Inner" [] methods []]]⟩]⟩

theorem shelf_keys :
    (shelf [⟨nest [.callingNull "A", .callingNull "B"], -1⟩, ⟨nest [.callingNull "B"], 0⟩]).keys.length =
      2 ∧
    (shelf [⟨nest [.callingNull "B"], 0⟩, ⟨nest [.callingNull "B", .callingNull "A"], -1⟩]).keys =
      (shelf [⟨nest [.callingNull "A", .callingNull "B"], -1⟩, ⟨nest [.callingNull "B"], 0⟩]).keys := by
  have hmethods := @TypeDef.Permuted.methods "Sample.Inner" [] _ _ []
    (.swap (.callingNull "B") (.callingNull "A") [])
  have houter := @TypeDef.Replaced.nested _ _ _ "Sample.Outer" [] [] [] [] (.here hmethods)
  have hmembers := Permuted.members (@Replaced.mk _ _ _ [⟨nest [.callingNull "B"], 0⟩] [] (-1)
    "Sample" [] [] "Sample.dll" [] [] .empty [⟨some "file:///sample.json", none, none, false⟩] false
    houter)
  have hsubjects := @Permuted.subjects _ _ .empty [⟨some "file:///sample.json", none, none, false⟩]
    false (.swap (⟨nest [.callingNull "B"], 0⟩ : Subject)
      ⟨nest [.callingNull "A", .callingNull "B"], -1⟩ [])
  exact ⟨by decide +kernel, (results_canonical _).rearranged _ (.head hsubjects (.single hmembers))⟩

end Inspection

end NullFlow
