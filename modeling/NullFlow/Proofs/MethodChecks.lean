import NullFlow.Proofs.Deduplication
import NullFlow.Proofs.TypeTree

namespace NullFlow

/-- What the analysis of a method comes to whose graph is built. -/
def Scope.outcome (s : Scope) (g : Graph) : Except MethodError (List Finding) :=
  if s.body.maxStack ≤ Frame.capacity then
    match s.solve g with
    | .error failure => .error (.flow s failure.cause)
    | .ok solution => .ok (Finding.sort solution.findings)
  else .error .oversized

def MethodDef.check (m : MethodDef) (owner : String) (contracts : Contracts) :
    Except MethodError (List Finding) :=
  match m.body with
  | none => .ok []
  | some body =>
    match Graph.ofBody body with
    | .error e => .error (.graph e)
    | .ok g => Scope.outcome ⟨owner, m, body, contracts⟩ g

theorem Scope.examine_result (s : Scope) (g : Graph) (trace : Bool) :
    (s.examine g trace).result = s.outcome g := by
  rw [examine, entry?, Frame.allocate, outcome]
  by_cases hfits : s.body.maxStack ≤ Frame.capacity
  · rw [if_pos hfits, if_pos hfits, check]
    cases s.solve g <;> rfl
  · rw [if_neg hfits, if_neg hfits]

def MethodDef.Fits (m : MethodDef) : Prop :=
  ∀ body g, m.body = some body → Graph.ofBody body = .ok g → body.maxStack ≤ Frame.capacity

theorem MethodDef.fits_of_no_body {m : MethodDef} (h : m.body = none) : m.Fits := by
  simp [Fits, h]

def MethodDef.ofCode (name : String) (instructions : List Instruction) : MethodDef where
  name := name
  returnType := ⟨"System.Void", true⟩
  hasThis := false
  parameters := []
  attributes := []
  body := some ⟨1, [], instructions, []⟩

def MethodDef.callingNull (name : String) : MethodDef :=
  .ofCode name [⟨0, .ldnull, .none⟩, ⟨1, .callvirt,
    .method ⟨"System.Object", "Finish", true, [], ⟨"System.Void", true⟩, false⟩⟩, ⟨6, .ret, .none⟩]

def MethodDef.results (m : MethodDef) (owner : String) (contracts : Contracts)
    (uri : Option String) : List Result :=
  match m.check owner contracts with
  | .ok findings => findings.map fun f => ⟨Rule.nullDereference.id, owner, m.name, uri, f⟩
  | .error _ => []

def TypeDef.results (t : TypeDef) (contracts : Contracts) (uri : Option String) : List Result :=
  t.methods.flatMap fun m => m.results t.fullName contracts uri

def TypeDef.treeResults (t : TypeDef) (contracts : Contracts) (uri : Option String) : List Result :=
  t.withNested.flatMap fun u => u.results contracts uri

def Module.results (module : Module) (contracts : Contracts) (uri : Option String) : List Result :=
  module.types.flatMap fun t => t.treeResults contracts uri

def Subject.results (s : Subject) (contracts : Contracts) (artifacts : List Artifact) :
    List Result :=
  if Artifact.analyzed artifacts s.artifact then
    s.assembly.modules.flatMap fun module =>
      module.results contracts (Artifact.uriAt? artifacts s.artifact)
  else []

theorem Scope.outcome_oversized_iff {s : Scope} {g : Graph} :
    s.outcome g = .error .oversized ↔ ¬ s.body.maxStack ≤ Frame.capacity := by
  rw [outcome]
  split
  · rename_i hfits
    cases s.solve g <;> simpa using hfits
  · rename_i hover
    exact iff_of_true rfl hover

theorem MethodDef.check_oversized_iff {m : MethodDef} {owner : String} {contracts : Contracts} :
    m.check owner contracts = .error .oversized ↔ ¬ m.Fits := by
  cases hbody : m.body with
  | none => simp [check, Fits, hbody]
  | some body =>
      cases hg : Graph.ofBody body with
      | error e => simp [check, Fits, hbody, hg]
      | ok g => simp [check, Fits, hbody, hg, Scope.outcome_oversized_iff]

theorem MethodDef.mem_results {m : MethodDef} {owner : String} {contracts : Contracts}
    {uri : Option String} {r : Result} : r ∈ m.results owner contracts uri ↔
      ∃ findings, m.check owner contracts = .ok findings ∧ ∃ f ∈ findings,
        r = ⟨Rule.nullDereference.id, owner, m.name, uri, f⟩ := by
  rw [results]
  cases m.check owner contracts with
  | error e => simp
  | ok findings => simp [eq_comm]

theorem TypeDef.treeResults_mk (name : String) (fields : List FieldDef) (methods : List MethodDef)
    (nested : List TypeDef) (contracts : Contracts) (uri : Option String) :
    (TypeDef.mk name fields methods nested).treeResults contracts uri =
      (methods.flatMap fun m => m.results name contracts uri) ++
        nested.flatMap fun t => t.treeResults contracts uri := by
  rw [treeResults, withNested_eq, List.flatMap_cons, TypeDef.nested, allNested_eq,
    List.flatMap_assoc]
  rfl

namespace Inspection

variable {i : Inspection} {t : TypeDef} {m : MethodDef} {run : MethodRun}

theorem runMethod_eq_some (h : i.runMethod t m = some run) : run.owner = t.fullName ∧
    run.method = m.name ∧ run.checked.result = m.check t.fullName i.contracts := by
  obtain ⟨body, hbody, rfl⟩ := Option.map_eq_some_iff.1 h
  simp only [MethodDef.check, hbody]
  cases Graph.ofBody body with
  | error e => exact ⟨rfl, rfl, rfl⟩
  | ok g => exact ⟨rfl, rfl, Scope.examine_result _ g i.trace⟩

theorem isFatal_iff : run.isFatal ↔ run.checked.result = .error .oversized := by
  rw [MethodRun.isFatal]
  rcases run.checked.result with (_ | _ | _) | _ <;> simp

theorem runMethod_isFatal_iff (h : i.runMethod t m = some run) : run.isFatal ↔ ¬ m.Fits := by
  obtain ⟨_, _, hresult⟩ := runMethod_eq_some h
  rw [isFatal_iff, hresult, MethodDef.check_oversized_iff]

theorem runMethod_eq_none_iff : i.runMethod t m = none ↔ m.body = none :=
  Option.map_eq_none_iff

theorem fits_of_runMethod_eq_none (h : i.runMethod t m = none) : m.Fits :=
  MethodDef.fits_of_no_body (runMethod_eq_none_iff.1 h)

theorem check_of_runMethod_eq_none (h : i.runMethod t m = none) :
    m.check t.fullName i.contracts = .ok [] := by
  rw [MethodDef.check, runMethod_eq_none_iff.1 h]

theorem runMethod_results (i : Inspection) (t : TypeDef) (m : MethodDef) (uri : Option String) :
    ((i.runMethod t m).toList.flatMap fun run =>
      run.findings.map fun f => ⟨Rule.nullDereference.id, t.fullName, run.method, uri, f⟩) =
      m.results t.fullName i.contracts uri := by
  rw [MethodDef.results]
  cases hrun : i.runMethod t m with
  | none =>
      rw [check_of_runMethod_eq_none hrun]
      rfl
  | some run =>
      obtain ⟨_, hname, hresult⟩ := runMethod_eq_some hrun
      rw [Option.toList_some, List.flatMap_singleton, MethodRun.findings, hname, ← hresult]
      cases run.checked.result <;> rfl

theorem runType_results (i : Inspection) (s : Subject) (t : TypeDef) :
    (i.runType s t).results = t.results i.contracts (i.uri? s) := by
  rw [TypeRun.results, runType, List.filterMap_eq_flatMap_toList, List.flatMap_assoc,
    TypeDef.results]
  exact List.flatMap_congr fun m _ => i.runMethod_results t m (i.uri? s)

theorem produced_eq (i : Inspection) :
    i.produced = i.subjects.flatMap fun s => s.results i.contracts i.artifacts := by
  have hsubject (s : Subject) : (s.assembly.types.flatMap fun t => (i.runType s t).results) =
      s.assembly.modules.flatMap fun module => module.results i.contracts (i.uri? s) := by
    simp only [Assembly.types, TypeDef.allNested_eq, List.flatMap_assoc, runType_results,
      Module.results, TypeDef.treeResults]
  simp only [produced, runs, types, List.flatMap_map, List.flatMap_assoc, hsubject]
  induction i.subjects with
  | nil => rfl
  | cons s rest ih =>
      rw [List.flatMap_cons, ← ih]
      by_cases h : i.isTarget s
      · have hs : s.results i.contracts i.artifacts = _ := if_pos h
        rw [List.filter_cons_of_pos h, List.flatMap_cons, hs]
        rfl
      · have hs : s.results i.contracts i.artifacts = _ := if_neg h
        rw [List.filter_cons_of_neg h, hs, List.nil_append]

theorem mem_produced {r : Result} : r ∈ i.produced ↔ ∃ s t, (s, t) ∈ i.types ∧
    ∃ m ∈ t.methods, ∃ findings, m.check t.fullName i.contracts = .ok findings ∧
      ∃ f ∈ findings, r = ⟨Rule.nullDereference.id, t.fullName, m.name, i.uri? s, f⟩ := by
  simp only [produced, runs, List.flatMap_map, List.mem_flatMap, runType_results, TypeDef.results,
    MethodDef.mem_results, Prod.exists]

end Inspection

/-- A relation between lists that holds of a whole when it holds of its parts. -/
structure PartByPart (S : List Result → List Result → Prop) : Prop where
  refl : ∀ l, S l l
  append : ∀ {a b c d}, S a b → S c d → S (a ++ c) (b ++ d)

namespace PartByPart

variable {S : List Result → List Result → Prop} {R : TypeDef → TypeDef → Prop}

theorem eq : PartByPart (· = ·) where
  refl _ := rfl
  append := by
    rintro a _ c _ rfl rfl
    rfl

theorem perm : PartByPart List.Perm where
  refl := List.Perm.refl
  append := List.Perm.append

theorem flatMap {α : Type} {f : α → List Result} {a a' : α} {l l' : List α} (hS : PartByPart S)
    (h : S (f a) (f a')) : S ((l ++ a :: l').flatMap f) ((l ++ a' :: l').flatMap f) := by
  rw [List.flatMap_append, List.flatMap_append, List.flatMap_cons, List.flatMap_cons]
  exact hS.append (hS.refl _) (hS.append h (hS.refl _))

theorem treeResults {contracts : Contracts} {uri : Option String} {t t' : TypeDef}
    (hS : PartByPart S)
    (hR : ∀ u u', R u u' → S (u.treeResults contracts uri) (u'.treeResults contracts uri))
    (h : TypeDef.Replaced R t t') : S (t.treeResults contracts uri) (t'.treeResults contracts uri) := by
  induction h with
  | here h => exact hR _ _ h
  | nested _ ih =>
      rw [TypeDef.treeResults_mk, TypeDef.treeResults_mk]
      exact hS.append (hS.refl _) (hS.flatMap ih)

end PartByPart

namespace Inspection

/-- One type of an inspection is replaced, at any depth, and all else stays as it is. -/
inductive Replaced (R : TypeDef → TypeDef → Prop) : Inspection → Inspection → Prop
  | mk {t t' : TypeDef} {subjects subjects' : List Subject} {artifact : Int} {assembly : String}
      {modules modules' : List Module} {module : String} {ts ts' : List TypeDef}
      {contracts : Contracts} {artifacts : List Artifact} {trace : Bool} :
      TypeDef.Replaced R t t' →
      Replaced R
        ⟨subjects ++ ⟨⟨assembly, modules ++ ⟨module, ts ++ t :: ts'⟩ :: modules'⟩, artifact⟩ ::
          subjects', contracts, artifacts, trace⟩
        ⟨subjects ++ ⟨⟨assembly, modules ++ ⟨module, ts ++ t' :: ts'⟩ :: modules'⟩, artifact⟩ ::
          subjects', contracts, artifacts, trace⟩

theorem Replaced.produced {S : List Result → List Result → Prop} {R : TypeDef → TypeDef → Prop}
    {i i' : Inspection} (hS : PartByPart S)
    (hR : ∀ uri u u', R u u' → S (u.treeResults i.contracts uri) (u'.treeResults i.contracts uri))
    (h : Replaced R i i') : S i.produced i'.produced := by
  obtain ⟨h⟩ := h
  rw [produced_eq, produced_eq]
  apply hS.flatMap
  simp only [Subject.results]
  split
  · exact hS.flatMap (hS.flatMap (hS.treeResults (hR _) h))
  · exact hS.refl []

end Inspection

end NullFlow
