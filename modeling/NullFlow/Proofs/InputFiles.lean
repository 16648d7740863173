import NullFlow.Proofs.FrameRelation
import NullFlow.Scan

namespace NullFlow

open Text (Bytes)

inductive FileTree.Holds : FileTree → Path → Path → Bytes → Prop
  | file {path : Path} {content : Bytes} : path.check = .ok () →
      Holds (.file content) path path content
  | dir {path file : Path} {entries : List (String × FileTree)} {name : String} {t : FileTree}
      {content : Bytes} : path.check = .ok () → (name, t) ∈ entries →
      Holds t (path.join name) file content → Holds (.dir entries) path file content

def Archive.View.Dumps (a : Archive.View) (name : String) (assembly : Assembly) : Prop :=
  ∃ data, a.find name = .ok (.ok data) ∧ Assembly.decode data = .ok assembly

theorem Archive.View.Dumps.unique {view : Archive.View} {name : String} {a b : Assembly}
    (ha : view.Dumps name a) (hb : view.Dumps name b) : a = b := by
  obtain ⟨data, hdata, ha⟩ := ha
  obtain ⟨data', hdata', hb⟩ := hb
  obtain rfl := Except.ok.inj (Except.ok.inj (hdata.symm.trans hdata'))
  exact Except.ok.inj (ha.symm.trans hb)

/-- The assemblies that are dumped in a source, each with the URI of its dump. -/
inductive Source.Gives (reader : Archive.Reader) (cwd : String) : Source → Assembly → String → Prop
  | dump {path : Path} {content : Bytes} {assembly : Assembly} :
      Assembly.decode content = .ok assembly →
      Gives reader cwd (.dump path (.ok content)) assembly (Scan.fileUri cwd path)
  | member {path : Path} {content : Bytes} {view : Archive.View} {name : String}
      {assembly : Assembly} : reader content = .ok view → .ok name ∈ view.members →
      name.endsWith ".json" → view.Dumps name assembly →
      Gives reader cwd (.bundle path (.ok content)) assembly
        ("jar:" ++ Scan.fileUri cwd path ++ "!/" ++ name)

def FileSystem.Dumps (fs : FileSystem) (reader : Archive.Reader) (input : Path)
    (assembly : Assembly) (uri : String) : Prop :=
  ∃ t path content, fs.find input = .ok t ∧ t.Holds input path content ∧
    (Source.ofFile path (.ok content)).Gives reader fs.cwd assembly uri

namespace Source

variable {reader : Archive.Reader} {cwd uri : String} {path : Path} {assembly : Assembly}
  {src : Source}

theorem Gives.isSupported (h : src.Gives reader cwd assembly uri) : src.isSupported := by
  cases h <;> rfl

theorem Gives.readable {content : Except IoError Bytes}
    (h : (ofFile path content).Gives reader cwd assembly uri) : ∃ bytes, content = .ok bytes := by
  rw [ofFile] at h
  split at h <;> cases h <;> exact ⟨_, rfl⟩

theorem mem_insertGroup {group : List Source} {l : List (Path × List Source)} :
    src ∈ (insertGroup path group l).flatMap (·.2) ↔ src ∈ group ∨ src ∈ l.flatMap (·.2) := by
  induction l with
  | nil => simp [insertGroup]
  | cons g rest ih =>
      rw [insertGroup]
      split
      · simp
      · rw [List.flatMap_cons, List.mem_append, ih, List.flatMap_cons, List.mem_append]
        exact or_left_comm

theorem mem_inEntries {entries : List (String × FileTree)} :
    src ∈ (inEntries path entries).flatMap (·.2) ↔
      ∃ e ∈ entries, src ∈ inTree (path.join e.1) e.2 := by
  induction entries with
  | nil => simp [inEntries]
  | cons e rest ih => rw [inEntries, mem_insertGroup, ih, List.exists_mem_cons_iff]

theorem holds_of_mem_inTree (t : FileTree) (path : Path) (hsrc : src ∈ inTree path t)
    (h : src.Gives reader cwd assembly uri) : ∃ file content, t.Holds path file content ∧
      (ofFile file (.ok content)).Gives reader cwd assembly uri := by
  cases ht : t with
  | file content =>
      obtain rfl : src = ofFile path (path.check.map fun _ => content) := by
        rw [ht, inTree] at hsrc
        simpa using (List.mem_filter.1 hsrc).1
      obtain ⟨bytes, hbytes⟩ := h.readable
      obtain ⟨_, hcheck, rfl⟩ := map_eq_ok.1 hbytes
      exact ⟨path, content, .file hcheck, hbytes ▸ h⟩
  | dir entries =>
      rw [ht, inTree] at hsrc
      split at hsrc
      · obtain rfl := List.mem_singleton.1 (List.mem_filter.1 hsrc).1
        obtain ⟨_, hbytes⟩ := h.readable
        cases hbytes
      · rename_i hcheck
        obtain ⟨⟨name, u⟩, hu, hsrc⟩ := mem_inEntries.1 hsrc
        obtain ⟨file, content, hholds, hgives⟩ := holds_of_mem_inTree u (path.join name) hsrc h
        exact ⟨file, content, .dir hcheck hu hholds, hgives⟩
termination_by t
decreasing_by
  subst ht
  have hsize := List.sizeOf_lt_of_mem hu
  simp only [Prod.mk.sizeOf_spec] at hsize
  simp only [FileTree.dir.sizeOf_spec]
  omega

theorem mem_inTree_of_holds {t : FileTree} {file : Path} {content : Bytes}
    (ht : t.Holds path file content) (h : (ofFile file (.ok content)).Gives reader cwd assembly uri) :
    ofFile file (.ok content) ∈ inTree path t := by
  induction ht with
  | file hcheck =>
      rw [inTree, hcheck]
      exact List.mem_filter.2 ⟨List.mem_singleton_self _, h.isSupported⟩
  | dir hcheck hu _ ih =>
      rw [inTree, hcheck]
      exact mem_inEntries.2 ⟨_, hu, ih h⟩

theorem gives_atPath {fs : FileSystem} :
    (∃ src ∈ atPath fs path, src.Gives reader fs.cwd assembly uri) ↔
      fs.Dumps reader path assembly uri := by
  constructor
  · rintro ⟨src, hsrc, h⟩
    rw [atPath] at hsrc
    split at hsrc
    · rename_i entries hfind
      obtain ⟨file, content, hholds, hgives⟩ := holds_of_mem_inTree (.dir entries) path hsrc h
      exact ⟨_, file, content, hfind, hholds, hgives⟩
    · rename_i content hfind
      obtain rfl := List.mem_singleton.1 hsrc
      obtain ⟨_, hcheck, _⟩ := bind_eq_ok.1 hfind
      exact ⟨_, path, content, hfind, .file hcheck, h⟩
    · obtain rfl := List.mem_singleton.1 hsrc
      obtain ⟨_, hbytes⟩ := h.readable
      cases hbytes
  · rintro ⟨t, file, content, hfind, hholds, hgives⟩
    refine ⟨_, ?_, hgives⟩
    rw [atPath, hfind]
    cases hholds with
    | file hcheck => exact List.mem_singleton_self _
    | dir hcheck hu hholds => exact mem_inTree_of_holds (.dir hcheck hu hholds) hgives

end Source

end NullFlow
