import NullFlow.Proofs.ArtifactChain
import NullFlow.Proofs.InputFiles

namespace NullFlow

open Text (Bytes)

namespace Logged

variable {ω ε α β σ : Type}

theorem bind_result {x : Logged ω ε α} {f : α → Logged ω ε β} {b : β} :
    (x >>= f).result = .ok b ↔ ∃ a, x.result = .ok a ∧ (f a).result = .ok b := by
  obtain ⟨log, _ | a⟩ := x <;> simp [Bind.bind, Logged.bind]

theorem pure_result {a b : α} : (pure a : Logged ω ε α).result = .ok b ↔ a = b := by
  simp [pure]

/-- What every step keeps, of the members taken so far, holds of them all in the end. -/
theorem foldlM_induction (motive : List β → σ → Prop) {f : σ → β → Logged ω ε σ} {l : List β}
    {s s' : σ} (h : (l.foldlM f s).result = .ok s') (hstart : motive [] s)
    (hstep : ∀ done b s s', motive done s → (f s b).result = .ok s' → motive (done ++ [b]) s') :
    motive l s' := by
  suffices hall : ∀ done, motive done s → motive (done ++ l) s' from hall [] hstart
  clear hstart
  induction l generalizing s with
  | nil =>
      obtain rfl := pure_result.1 h
      simp
  | cons b rest ih =>
      intro done hdone
      obtain ⟨s₁, hb, hrest⟩ := bind_result.1 h
      simpa using ih hrest (done ++ [b]) (hstep done b s s₁ hdone hb)

end Logged

namespace Artifact

def IsInput (a : Artifact) : Prop := a.parent = none ∧ a.isTarget

/-- An artifact that may follow these: it is an input, or in an archive among them that is one. -/
def Follows (before : List Artifact) (a : Artifact) : Prop :=
  a.IsInput ∨ ∃ (p : ℕ) (b : Artifact), a.parent = some ↑p ∧ before[p]? = some b ∧ b.IsInput

variable {artifacts : List Artifact} {index : Int} {uri : String} {a : Artifact}

theorem uriAt?_eq_some : uriAt? artifacts index = some uri ↔
    ∃ (k : ℕ) (a : Artifact), index = k ∧ artifacts[k]? = some a ∧ a.uri = some uri := by
  constructor
  · intro h
    obtain ⟨a, ha, huri⟩ := Option.bind_eq_some_iff.1 h
    obtain ⟨k, hindex, hk⟩ := at?_eq_some ha
    exact ⟨k, a, hindex, hk, huri⟩
  · rintro ⟨k, a, rfl, hk, huri⟩
    rw [uriAt?, at?, if_pos (Int.natCast_nonneg k), Int.toNat_natCast, hk]
    exact huri

theorem uriAt?_append (h : uriAt? artifacts index = some uri) (more : List Artifact) :
    uriAt? (artifacts ++ more) index = some uri := by
  obtain ⟨k, a, hindex, hk, huri⟩ := uriAt?_eq_some.1 h
  have hlt := (List.getElem?_eq_some_iff.1 hk).1
  exact uriAt?_eq_some.2 ⟨k, a, hindex, List.getElem?_append_left hlt ▸ hk, huri⟩

end Artifact

namespace Scan

/-- Every artifact stands where it may, and every assembly given has its own, in order. -/
structure Indexed (s : Scan) (given : Assembly → String → Prop) : Prop where
  placed : ∀ (k : ℕ) (a : Artifact), s.artifacts[k]? = some a → a.Follows (s.artifacts.take k)
  increasing : s.subjects.Pairwise fun x y => x.artifact < y.artifact
  origin : ∀ x ∈ s.subjects, ∃ uri, Artifact.uriAt? s.artifacts x.artifact = some uri ∧
    given x.assembly uri
  complete : ∀ assembly uri, given assembly uri → ∃ x ∈ s.subjects, x.assembly = assembly ∧
    Artifact.uriAt? s.artifacts x.artifact = some uri

namespace Indexed

variable {s s' : Scan} {given given' : Assembly → String → Prop} {a : Artifact}
  {assembly : Assembly} {uri : String}

theorem congr (h : s.Indexed given) (hgiven : ∀ b u, given b u ↔ given' b u) :
    s.Indexed given' := by
  obtain rfl : given = given' := funext fun b => funext fun u => propext (hgiven b u)
  exact h

theorem artifact_lt (h : s.Indexed given) {x : Subject} (hx : x ∈ s.subjects) :
    x.artifact < s.artifacts.length := by
  obtain ⟨uri, huri, _⟩ := h.origin x hx
  obtain ⟨k, _, hindex, hk, _⟩ := Artifact.uriAt?_eq_some.1 huri
  rw [hindex]
  exact_mod_cast (List.getElem?_eq_some_iff.1 hk).1

theorem addArtifact (h : s.Indexed given) (ha : a.Follows s.artifacts) :
    { s with artifacts := s.artifacts ++ [a] }.Indexed given where
  placed := by
    intro k b hk
    rcases lt_trichotomy k s.artifacts.length with hlt | rfl | hgt
    · rw [List.getElem?_append_left hlt] at hk
      rw [List.take_append_of_le_length hlt.le]
      exact h.placed k b hk
    · obtain rfl : a = b := by simpa using hk
      rwa [List.take_left]
    · have hle : (s.artifacts ++ [a]).length ≤ k := by
        rw [List.length_append]
        exact hgt
      rw [List.getElem?_eq_none hle] at hk
      cases hk
  increasing := h.increasing
  origin := by
    intro x hx
    obtain ⟨uri, huri, hgiven⟩ := h.origin x hx
    exact ⟨uri, Artifact.uriAt?_append huri [a], hgiven⟩
  complete := by
    intro assembly uri hgiven
    obtain ⟨x, hx, hassembly, huri⟩ := h.complete assembly uri hgiven
    exact ⟨x, hx, hassembly, Artifact.uriAt?_append huri [a]⟩

theorem addSubject (h : s.Indexed given) (ha : a.Follows s.artifacts) (huri : a.uri = some uri) :
    (s.addSubject a assembly).Indexed fun b u => given b u ∨ (b = assembly ∧ u = uri) := by
  have hwith := h.addArtifact ha
  have hnew : Artifact.uriAt? (s.artifacts ++ [a]) s.artifacts.length = some uri :=
    Artifact.uriAt?_eq_some.2 ⟨_, a, rfl, List.getElem?_concat_length, huri⟩
  refine ⟨hwith.placed, ?_, ?_, ?_⟩
  · refine List.pairwise_append.2 ⟨h.increasing, List.pairwise_singleton _ _, ?_⟩
    intro x hx y hy
    obtain rfl := List.mem_singleton.1 hy
    exact h.artifact_lt hx
  · intro x hx
    rcases List.mem_append.1 hx with hold | hlast
    · obtain ⟨u, hu, hgiven⟩ := hwith.origin x hold
      exact ⟨u, hu, .inl hgiven⟩
    · obtain rfl := List.mem_singleton.1 hlast
      exact ⟨uri, hnew, .inr ⟨rfl, rfl⟩⟩
  · rintro b u (hgiven | ⟨rfl, rfl⟩)
    · obtain ⟨x, hx, hassembly, hu⟩ := hwith.complete b u hgiven
      exact ⟨x, List.mem_append_left _ hx, hassembly, hu⟩
    · exact ⟨⟨b, s.artifacts.length⟩, by simp [Scan.addSubject], rfl, hnew⟩

end Indexed

variable {reader : Archive.Reader} {cwd uri : String} {role : Role} {s s' : Scan} {path : Path}
  {view : Archive.View} {content : Except IoError Bytes} {name : String}
  {given : Assembly → String → Prop}

theorem loadDump_result : (loadDump cwd role s path content).result = .ok s' →
    ∃ bytes assembly, content = .ok bytes ∧ Assembly.decode bytes = .ok assembly ∧
      s' = match role with
        | .target => s.addSubject (fileArtifact (fileUri cwd path) bytes.length) assembly
        | .reference => s.addReference assembly := by
  intro h
  obtain ⟨_, _, h⟩ := Logged.bind_result.1 h
  obtain ⟨bytes, hbytes, h⟩ := Logged.bind_result.1 h
  obtain ⟨assembly, hassembly, h⟩ := Logged.bind_result.1 h
  refine ⟨bytes, assembly, mapError_eq_ok.1 hbytes, mapError_eq_ok.1 hassembly, ?_⟩
  cases role <;> exact (Logged.pure_result.1 h).symm

theorem loadMember_result {parent : Option ℕ} :
    (loadMember uri path view parent s name).result = .ok s' →
    ∃ assembly size, view.Dumps name assembly ∧
      s' = match parent with
        | some p => s.addSubject (memberArtifact ("jar:" ++ uri ++ "!/" ++ name) size p) assembly
        | none => s.addReference assembly := by
  intro h
  obtain ⟨_, _, h⟩ := Logged.bind_result.1 h
  obtain ⟨content, hcontent, h⟩ := Logged.bind_result.1 h
  obtain ⟨data, hdata, h⟩ := Logged.bind_result.1 h
  obtain ⟨assembly, hassembly, h⟩ := Logged.bind_result.1 h
  have hmember : view.find name = .ok (.ok data) := by
    rw [mapError_eq_ok.1 hcontent, mapError_eq_ok.1 hdata]
  refine ⟨assembly, data.length, ⟨data, hmember, mapError_eq_ok.1 hassembly⟩, ?_⟩
  cases parent <;> exact (Logged.pure_result.1 h).symm

theorem mapM_id_eq_ok {ε α : Type} {l : List (Except ε α)} {l' : List α}
    (h : l.mapM id = .ok l') : l = l'.map .ok := by
  induction l generalizing l' with
  | nil =>
      cases h
      rfl
  | cons x rest ih =>
      rw [List.mapM_cons] at h
      obtain ⟨a, ha, h⟩ := bind_eq_ok.1 h
      obtain ⟨as, has, h⟩ := bind_eq_ok.1 h
      obtain rfl := pure_eq_ok.1 h
      rw [List.map_cons, ← ih has, ← ha]
      rfl

theorem loadBundle_result : (loadBundle reader cwd role s path content).result = .ok s' →
    ∃ bytes view members, content = .ok bytes ∧ reader bytes = .ok view ∧
      view.members = members.map .ok ∧
      (match role with
        | .target => (dumpNames members).foldlM
            (loadMember (fileUri cwd path) path view (some s.artifacts.length))
            { s with artifacts := s.artifacts ++ [fileArtifact (fileUri cwd path) bytes.length] }
        | .reference => (dumpNames members).foldlM
            (loadMember (fileUri cwd path) path view none) s).result = .ok s' := by
  intro h
  obtain ⟨bytes, hbytes, h⟩ := Logged.bind_result.1 h
  obtain ⟨view, hview, h⟩ := Logged.bind_result.1 h
  obtain ⟨members, hmembers, h⟩ := Logged.bind_result.1 h
  refine ⟨bytes, view, members, mapError_eq_ok.1 hbytes, mapError_eq_ok.1 hview,
    mapM_id_eq_ok (mapError_eq_ok.1 hmembers), ?_⟩
  cases role <;> exact h

theorem mem_insertName {n : String} {names : List String} :
    n ∈ dumpNames.insertName name names ↔ n = name ∨ n ∈ names := by
  induction names with
  | nil => simp [dumpNames.insertName]
  | cons first rest ih =>
      rw [dumpNames.insertName]
      split
      · simp
      · rw [List.mem_cons, ih, List.mem_cons]
        exact or_left_comm

theorem mem_dumpNames {members : List String} :
    name ∈ dumpNames members ↔ name ∈ members ∧ name.endsWith ".json" := by
  have hsorted (names : List String) : name ∈ names.foldr dumpNames.insertName [] ↔ name ∈ names := by
    induction names with
    | nil => rfl
    | cons first rest ih => rw [List.foldr_cons, mem_insertName, ih, List.mem_cons]
  rw [dumpNames, hsorted, List.mem_filter]

theorem gives_dump {bytes : Bytes} {assembly : Assembly} :
    (Source.dump path (.ok bytes)).Gives reader cwd assembly uri ↔
      Assembly.decode bytes = .ok assembly ∧ uri = fileUri cwd path := by
  constructor
  · rintro ⟨hdecode⟩
    exact ⟨hdecode, rfl⟩
  · rintro ⟨hdecode, rfl⟩
    exact .dump hdecode

theorem gives_bundle {bytes : Bytes} {assembly : Assembly} {members : List String}
    (h : reader bytes = .ok view) (hmembers : view.members = members.map .ok) :
    (Source.bundle path (.ok bytes)).Gives reader cwd assembly uri ↔ ∃ name ∈ dumpNames members,
      view.Dumps name assembly ∧ uri = "jar:" ++ fileUri cwd path ++ "!/" ++ name := by
  have hmem (name : String) : .ok name ∈ view.members ↔ name ∈ members := by simp [hmembers]
  simp only [mem_dumpNames, ← hmem]
  constructor
  · intro hgives
    cases hgives with
    | member hread hmember hjson hdumps =>
        obtain rfl := Except.ok.inj (h.symm.trans hread)
        exact ⟨_, ⟨hmember, hjson⟩, hdumps, rfl⟩
  · rintro ⟨_, ⟨hmember, hjson⟩, hdumps, rfl⟩
    exact .member h hmember hjson hdumps

namespace Indexed

theorem loadMember {p : ℕ} {b : Artifact} (h : s.Indexed given) (hp : s.artifacts[p]? = some b)
    (hb : b.IsInput)
    (hload : (Scan.loadMember uri path view (some p) s name).result = .ok s') :
    s'.artifacts[p]? = some b ∧ s'.Indexed fun c u =>
      given c u ∨ (view.Dumps name c ∧ u = "jar:" ++ uri ++ "!/" ++ name) := by
  obtain ⟨assembly, size, hdumps, rfl⟩ := loadMember_result hload
  constructor
  · have hlt := (List.getElem?_eq_some_iff.1 hp).1
    exact List.getElem?_append_left hlt ▸ hp
  · refine (h.addSubject (.inr ⟨p, b, rfl, hp, hb⟩) rfl).congr fun c u => ?_
    have hassembly : c = assembly ↔ view.Dumps name c :=
      ⟨fun hc => hc ▸ hdumps, fun hc => hc.unique hdumps⟩
    rw [hassembly]

theorem loadMembers {p : ℕ} {b : Artifact} {names : List String} (h : s.Indexed given)
    (hp : s.artifacts[p]? = some b) (hb : b.IsInput)
    (hload : (names.foldlM (Scan.loadMember uri path view (some p)) s).result = .ok s') :
    s'.Indexed fun c u => given c u ∨
      ∃ name ∈ names, view.Dumps name c ∧ u = "jar:" ++ uri ++ "!/" ++ name := by
  -- The archive's own artifact stays in its place, so that every member can name it.
  refine (Logged.foldlM_induction (fun done s => s.artifacts[p]? = some b ∧ s.Indexed fun c u =>
    given c u ∨ ∃ name ∈ done, view.Dumps name c ∧ u = "jar:" ++ uri ++ "!/" ++ name)
    hload ⟨hp, ?_⟩ ?_).2
  · simpa using h
  · rintro done name s s' ⟨hp, h⟩ hstep
    obtain ⟨hp', h'⟩ := h.loadMember hp hb hstep
    refine ⟨hp', h'.congr fun c u => ?_⟩
    simp [or_and_right, exists_or, or_assoc]

theorem loadSource {src : Source} (h : s.Indexed given)
    (hload : (Scan.loadSource reader cwd .target s src).result = .ok s') :
    s'.Indexed fun c u => given c u ∨ src.Gives reader cwd c u := by
  cases src with
  | dump path content =>
      rw [Scan.loadSource] at hload
      obtain ⟨bytes, assembly, rfl, hdecode, rfl⟩ := loadDump_result hload
      refine (h.addSubject (.inl ⟨rfl, rfl⟩) rfl).congr fun c u => ?_
      simp [gives_dump, hdecode, eq_comm]
  | bundle path content =>
      rw [Scan.loadSource] at hload
      obtain ⟨bytes, view, members, rfl, hread, hshown, hmembers⟩ := loadBundle_result hload
      simp only [gives_bundle hread hshown]
      exact (h.addArtifact (.inl ⟨rfl, rfl⟩)).loadMembers List.getElem?_concat_length ⟨rfl, rfl⟩
        hmembers
  | other path => cases hload

theorem loadSources {sources : List Source}
    (hload : (sources.foldlM (Scan.loadSource reader cwd .target) empty).result = .ok s) :
    s.Indexed fun c u => ∃ src ∈ sources, src.Gives reader cwd c u := by
  refine Logged.foldlM_induction
    (fun done s => s.Indexed fun c u => ∃ src ∈ done, src.Gives reader cwd c u) hload ?_ ?_
  · exact ⟨by simp [empty], .nil, by simp [empty], by simp⟩
  · intro done src s s' h hstep
    exact (h.loadSource hstep).congr fun c u => by simp [or_and_right, exists_or]

end Indexed

def SameInputs (s s' : Scan) : Prop := s'.artifacts = s.artifacts ∧ s'.subjects = s.subjects

theorem foldlM_sameInputs {β : Type} {f : Scan → β → Loading Scan} {l : List β}
    (hf : ∀ s b s', (f s b).result = .ok s' → s.SameInputs s')
    (h : (l.foldlM f s).result = .ok s') : s.SameInputs s' := by
  refine Logged.foldlM_induction (fun _ s' => s.SameInputs s') h ⟨rfl, rfl⟩ ?_
  intro _ b s₁ s₂ h₁ hstep
  have h₂ := hf s₁ b s₂ hstep
  exact ⟨h₂.1.trans h₁.1, h₂.2.trans h₁.2⟩

theorem loadSource_sameInputs {src : Source}
    (h : (loadSource reader cwd .reference s src).result = .ok s') : s.SameInputs s' := by
  cases src with
  | dump path content =>
      rw [loadSource] at h
      obtain ⟨_, assembly, _, _, rfl⟩ := loadDump_result h
      exact ⟨rfl, rfl⟩
  | bundle path content =>
      rw [loadSource] at h
      obtain ⟨_, view, _, _, _, _, hmembers⟩ := loadBundle_result h
      refine foldlM_sameInputs (fun s name s' hname => ?_) hmembers
      obtain ⟨assembly, _, _, rfl⟩ := loadMember_result hname
      exact ⟨rfl, rfl⟩
  | other path => cases h

theorem run_indexed {fs : FileSystem} {input : Path} {references : List Path}
    (h : (run reader fs input references).result = .ok s) :
    s.Indexed (fs.Dumps reader input) := by
  obtain ⟨inputs, hinputs, hreferences⟩ := Logged.bind_result.1 h
  have hsame : inputs.SameInputs s := foldlM_sameInputs
    (fun _ _ _ => foldlM_sameInputs fun _ _ _ => loadSource_sameInputs) hreferences
  have hindexed := (Indexed.loadSources hinputs).congr fun c u => Source.gives_atPath
  obtain ⟨artifacts, subjects, _⟩ := s
  obtain ⟨rfl, rfl⟩ := hsame
  exact ⟨hindexed.placed, hindexed.increasing, hindexed.origin, hindexed.complete⟩

end Scan

end NullFlow
