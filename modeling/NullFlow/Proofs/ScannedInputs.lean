import NullFlow.Archive.Writer
import NullFlow.Proofs.DocumentOrder
import NullFlow.Proofs.ScanLoading

namespace NullFlow.Scan

def inspection (s : Scan) (contracts : Contracts) (trace : Bool) : Inspection :=
  ⟨s.subjects, contracts, s.artifacts, trace⟩

variable {s : Scan}

namespace Indexed

variable {given : Assembly → String → Prop} {x : Subject}

theorem parent_input (h : s.Indexed given) {k : ℕ} {a : Artifact} {p : Int}
    (hk : s.artifacts[k]? = some a) (hparent : a.parent = some p) :
    ∃ (j : ℕ) (b : Artifact), p = j ∧ j < k ∧ s.artifacts[j]? = some b ∧ b.IsInput := by
  rcases h.placed k a hk with ⟨hnone, _⟩ | ⟨j, b, hj, hb, hinput⟩
  · cases hnone.symm.trans hparent
  · have hlt : j < k := by
      by_contra hle
      rw [List.getElem?_take_eq_none (Nat.le_of_not_lt hle)] at hb
      cases hb
    rw [List.getElem?_take_of_lt hlt] at hb
    exact ⟨j, b, Option.some.inj (hparent.symm.trans hj), hlt, hb, hinput⟩

theorem ordered (h : s.Indexed given) : Artifact.Ordered s.artifacts := by
  intro k a p hk hparent
  obtain ⟨j, _, rfl, hlt, _⟩ := h.parent_input hk hparent
  exact_mod_cast hlt

theorem exists_chain (h : s.Indexed given) (hx : x ∈ s.subjects) :
    ∃ way, Artifact.Chain s.artifacts x.artifact way ∧ ∃ a ∈ way, a.isTarget := by
  obtain ⟨uri, huri, _⟩ := h.origin x hx
  obtain ⟨a, ha, _⟩ := Option.bind_eq_some_iff.1 huri
  obtain ⟨k, _, hk⟩ := Artifact.at?_eq_some ha
  cases hparent : a.parent with
  | none =>
      rcases h.placed k a hk with ⟨_, htarget⟩ | ⟨_, _, hsome, _⟩
      · exact ⟨[a], .top ha hparent, a, List.mem_singleton_self a, htarget⟩
      · cases hparent.symm.trans hsome
  | some p =>
      obtain ⟨j, b, rfl, _, hb, hnone, htarget⟩ := h.parent_input hk hparent
      have hat : Artifact.at? s.artifacts j = some b := by
        rw [Artifact.at?, if_pos (Int.natCast_nonneg j), Int.toNat_natCast, hb]
      exact ⟨[a, b], .inside ha hparent (.top hat hnone), b, by simp, htarget⟩

theorem analyzed (h : s.Indexed given) (hx : x ∈ s.subjects) :
    Artifact.analyzed s.artifacts x.artifact := by
  obtain ⟨way, hway, htarget⟩ := h.exists_chain hx
  exact (h.ordered.analyzed_iff hway).2 (.inr htarget)

theorem types_inspection (h : s.Indexed given) (contracts : Contracts) (trace : Bool) :
    (s.inspection contracts trace).types =
      s.subjects.flatMap fun x => x.assembly.types.map fun t => (x, t) := by
  have hall : (s.inspection contracts trace).subjects.filter
      (s.inspection contracts trace).isTarget = s.subjects :=
    List.filter_eq_self.2 fun x hx => h.analyzed hx
  rw [Inspection.types, hall]

end Indexed

theorem methodCount_eq (s : Scan) : s.methodCount =
    ((s.subjects.flatMap (·.assembly.types)).flatMap (·.methods)).length := by
  rw [methodCount, TypeDef.countNested_eq]
  simp only [Assembly.types, TypeDef.allNested_eq, List.flatMap_assoc]

/-- Everything dumped in the input is analyzed under an artifact of its own, and nothing else is. -/
structure Accounted (reader : Archive.Reader) (fs : FileSystem) (input : Path) (s : Scan) : Prop
    where
  archives : ∀ (k : ℕ) (a : Artifact) (p : Int), s.artifacts[k]? = some a → a.parent = some p →
    ∃ (j : ℕ) (b : Artifact), p = j ∧ j < k ∧ s.artifacts[j]? = some b ∧ b.parent = none ∧
      b.isTarget
  increasing : s.subjects.Pairwise fun x y => x.artifact < y.artifact
  origins : ∀ x ∈ s.subjects, ∃ (k : ℕ) (a : Artifact) (uri : String), x.artifact = k ∧
    s.artifacts[k]? = some a ∧ a.uri = some uri ∧ fs.Dumps reader input x.assembly uri
  complete : ∀ assembly uri, fs.Dumps reader input assembly uri → ∃ x ∈ s.subjects,
    x.assembly = assembly ∧ Artifact.uriAt? s.artifacts x.artifact = some uri
  analyzed : ∀ x ∈ s.subjects, Artifact.analyzed s.artifacts x.artifact ∧
    ∃ way, Artifact.Chain s.artifacts x.artifact way ∧ ∃ a ∈ way, a.isTarget
  types : ∀ contracts trace,
    Enumerates (Subject.TypeAt s.subjects) (s.inspection contracts trace).types
  methods : ∀ contracts trace,
    s.methodCount = ((s.inspection contracts trace).types.flatMap (·.2.methods)).length

theorem run_accounted {reader : Archive.Reader} {fs : FileSystem} {input : Path}
    {references : List Path} (h : (run reader fs input references).result = .ok s) :
    s.Accounted reader fs input := by
  have hindexed := run_indexed h
  refine ⟨fun k a p => hindexed.parent_input, hindexed.increasing, ?_, hindexed.complete, ?_, ?_, ?_⟩
  · intro x hx
    obtain ⟨uri, huri, hdumps⟩ := hindexed.origin x hx
    obtain ⟨k, a, hindex, hk, ha⟩ := Artifact.uriAt?_eq_some.1 huri
    exact ⟨k, a, uri, hindex, hk, ha, hdumps⟩
  · intro x hx
    exact ⟨hindexed.analyzed hx, hindexed.exists_chain hx⟩
  · intro contracts trace
    rw [hindexed.types_inspection]
    exact Subject.enumerates_types s.subjects
  · intro contracts trace
    rw [hindexed.types_inspection, methodCount_eq, List.flatMap_assoc]
    simp only [List.flatMap_map, List.flatMap_assoc]

def bundled : FileTree := .dir [("w", .dir [("r.json", .file (Text.encode "\x7b\"name\":\"R\"\x7d")),
  ("in", .dir [("b.zip", .file (Archive.write [⟨"x.json", Text.encode "\x7b\"name\":\"X\"\x7d"⟩])),
    ("a.json", .file (Text.encode ("\x7b\"name\":\"A\",\"modules\":[\x7b\"name\":\"M\",\"types\":[" ++
      "\x7b\"full_name\":\"T\",\"nested_types\":[\x7b\"full_name\":\"U\"\x7d]\x7d," ++
      "\x7b\"full_name\":\"V\"\x7d]\x7d]\x7d")))])])]

theorem bundled_accounted : ∃ s, (run Archive.reader ⟨"/w", bundled⟩ "in" ["r.json"]).result = .ok s ∧
    s.artifacts.map (fun a => (a.uri, a.parent)) = [(some "file:///w/in/a.json", none),
      (some "file:///w/in/b.zip", none), (some "jar:file:///w/in/b.zip!/x.json", some 1)] ∧
    s.subjects.map (fun x => (x.assembly.name, x.artifact)) = [("A", 0), ("X", 2)] ∧
    s.subjects.flatMap (fun x => x.assembly.types.map (·.fullName)) = ["T", "U", "V"] ∧
    s.references.map (·.name) = ["R"] ∧ s.Accounted Archive.reader ⟨"/w", bundled⟩ "in" := by
  have hresult : ((run Archive.reader ⟨"/w", bundled⟩ "in" ["r.json"]).result.toOption.map fun s =>
      (s.artifacts.map (fun a => (a.uri, a.parent)),
        s.subjects.map (fun x => (x.assembly.name, x.artifact)),
        s.subjects.flatMap (fun x => x.assembly.types.map (·.fullName)),
        s.references.map (·.name))) =
      some ([(some "file:///w/in/a.json", none), (some "file:///w/in/b.zip", none),
        (some "jar:file:///w/in/b.zip!/x.json", some 1)], [("A", 0), ("X", 2)], ["T", "U", "V"],
        ["R"]) := by
    decide +kernel
  obtain ⟨s, hs, hsummary⟩ := Option.map_eq_some_iff.1 hresult
  have hrun := toOption_eq_some.1 hs
  simp only [Prod.mk.injEq] at hsummary
  obtain ⟨hartifacts, hsubjects, htypes, hreferences⟩ := hsummary
  exact ⟨s, hrun, hartifacts, hsubjects, htypes, hreferences, run_accounted hrun⟩

end NullFlow.Scan
