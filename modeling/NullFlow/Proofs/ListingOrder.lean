import Mathlib.Data.List.Nodup
import Mathlib.Data.List.Perm.Basic
import Mathlib.Data.String.Basic
import NullFlow.Proofs.FrameRelation
import NullFlow.Scan

namespace NullFlow

namespace FileTree

/-- A directory holds each name once, and no name has a slash in it. -/
inductive Proper : FileTree → Prop
  | file (content : Text.Bytes) : Proper (.file content)
  | dir {entries : List (String × FileTree)} : (entries.map (·.1)).Nodup →
      (∀ e ∈ entries, '/' ∉ e.1.toList) → (∀ e ∈ entries, Proper e.2) → Proper (.dir entries)

/-- The same files in directories of the same names, each of which may list them in another order. -/
inductive Shuffled : FileTree → FileTree → Prop
  | file (content : Text.Bytes) : Shuffled (.file content) (.file content)
  | dir {entries entries' : List (String × FileTree)} :
      (entries.map (·.1)).Perm (entries'.map (·.1)) →
      (∀ name t t', (name, t) ∈ entries → (name, t') ∈ entries' → Shuffled t t') →
      Shuffled (.dir entries) (.dir entries')

variable {t t' : FileTree} {entries entries' : List (String × FileTree)} {name : String}

theorem lookup_eq_some_iff_mem (h : (entries.map (·.1)).Nodup) :
    entries.lookup name = some t ↔ (name, t) ∈ entries := by
  induction entries with
  | nil => simp
  | cons e rest ih =>
      obtain ⟨n, u⟩ := e
      obtain ⟨hnew, hrest⟩ := List.nodup_cons.1 h
      by_cases hname : name = n
      · subst hname
        have habsent : (name, t) ∉ rest := by
          intro hmem
          exact hnew (List.mem_map.2 ⟨(name, t), hmem, rfl⟩)
        simp [habsent, eq_comm]
      · have hne : (name == n) = false := by simpa using hname
        rw [List.lookup_cons, hne, ih hrest]
        simp [hname]

theorem exists_mem_of_perm (h : (entries.map (·.1)).Perm (entries'.map (·.1)))
    (ht : (name, t) ∈ entries) : ∃ t', (name, t') ∈ entries' := by
  have hname : name ∈ entries'.map (·.1) := h.mem_iff.1 (List.mem_map_of_mem ht)
  simpa using hname

theorem Shuffled.of_forall₂ {listed : List (String × FileTree)} (hnodup : (entries.map (·.1)).Nodup)
    (hperm : listed.Perm entries')
    (h : List.Forall₂ (fun e e' => e.1 = e'.1 ∧ Shuffled e.2 e'.2) entries listed) :
    Shuffled (.dir entries) (.dir entries') := by
  have hnames : entries.map (·.1) = listed.map (·.1) := by
    have hequal := h.imp fun _ _ he => he.1
    rw [← List.forall₂_eq_eq_eq, List.forall₂_map_left_iff, List.forall₂_map_right_iff]
    exact hequal
  refine .dir (hnames ▸ hperm.map _) fun name t t' ht ht' => ?_
  have hlisted : (name, t') ∈ listed := hperm.mem_iff.2 ht'
  obtain ⟨k, hk, hkt'⟩ := List.mem_iff_getElem.1 hlisted
  have hk' : k < entries.length := h.length_eq ▸ hk
  obtain ⟨hname, hshuffled⟩ := h.get hk' hk
  simp only [List.get_eq_getElem, hkt'] at hname hshuffled
  have hentry := List.inj_on_of_nodup_map hnodup (List.getElem_mem hk') ht hname
  rw [hentry] at hshuffled
  exact hshuffled

def Twins (t t' : FileTree) : Prop := Proper t ∧ Shuffled t t'

theorem Twins.lookup (h : Twins (.dir entries) (.dir entries')) (name : String) :
    (entries.lookup name = none ∧ entries'.lookup name = none) ∨
      ∃ t t', entries.lookup name = some t ∧ entries'.lookup name = some t' ∧ Twins t t' := by
  obtain ⟨_ | ⟨hnodup, _, hproper⟩, _ | ⟨hnames, hentries⟩⟩ := h
  have hnodup' := hnames.nodup_iff.1 hnodup
  cases ht : entries.lookup name with
  | some t =>
      have hmem := (lookup_eq_some_iff_mem hnodup).1 ht
      obtain ⟨t', hmem'⟩ := exists_mem_of_perm hnames hmem
      exact .inr ⟨t, t', rfl, (lookup_eq_some_iff_mem hnodup').2 hmem', hproper _ hmem,
        hentries name t t' hmem hmem'⟩
  | none =>
      cases ht' : entries'.lookup name with
      | none => exact .inl ⟨rfl, rfl⟩
      | some t' =>
          obtain ⟨t, hmem⟩ :=
            exists_mem_of_perm hnames.symm ((lookup_eq_some_iff_mem hnodup').1 ht')
          rw [(lookup_eq_some_iff_mem hnodup).2 hmem] at ht
          cases ht

theorem Twins.follow {parents parents' : List FileTree}
    (hparents : List.Forall₂ Twins parents parents') (h : Twins t t') (names : List String) :
    Agree Twins (follow parents t names) (follow parents' t' names) := by
  induction names generalizing parents parents' t t' with
  | nil => exact .ok h
  | cons name rest ih =>
      obtain ⟨hproper, hshuffled⟩ := h
      cases hshuffled with
      | file content => exact .error _
      | @dir entries entries' hnames hentries =>
          have h : Twins (.dir entries) (.dir entries') := ⟨hproper, .dir hnames hentries⟩
          simp only [FileTree.follow]
          split
          · cases hparents with
            | nil => exact ih .nil h
            | cons hparent hparents => exact ih hparents hparent
          · refine (Agree.same (checkName name)).bind fun _ _ _ => ?_
            obtain ⟨hnone, hnone'⟩ | ⟨u, u', hu, hu', htwins⟩ := h.lookup name
            · rw [hnone, hnone']
              exact .error _
            · rw [hu, hu']
              exact ih (.cons h hparents) htwins

theorem Twins.isDir_eq (h : Twins t t') : t'.isDir = t.isDir := by
  obtain ⟨_, h⟩ := h
  cases h <;> rfl

end FileTree

open FileTree

theorem FileSystem.find_twins {fs : FileSystem} {root' : FileTree} (h : Twins fs.root root')
    (path : Path) : Agree Twins (fs.find path) ({ fs with root := root' }.find path) := by
  refine (Agree.same path.check).bind fun _ _ _ => ?_
  refine (Twins.follow .nil h (fs.locate path)).bind fun t t' htwins => ?_
  rw [htwins.isDir_eq]
  split
  · exact .error _
  · exact .ok htwins

theorem Path.isAbsolute_of_notMem {name : Path} (h : '/' ∉ name.toList) :
    name.isAbsolute = false := by
  rw [isAbsolute]
  cases hchars : name.toList with
  | nil => rfl
  | cons c cs =>
      have hc : c ≠ '/' := by
        rintro rfl
        exact h (hchars ▸ List.mem_cons_self)
      simpa using hc

theorem Path.join_injOn {path name name' : Path} (h : '/' ∉ name.toList) (h' : '/' ∉ name'.toList)
    (heq : path.join name = path.join name') : name = name' := by
  simp only [join, isAbsolute_of_notMem h, isAbsolute_of_notMem h', Bool.false_eq_true,
    if_false] at heq
  split at heq <;> exact (String.append_right_inj _).1 heq

namespace Source

theorem insertGroup_comm_of_lt {path path' : Path} (h : path < path') (group group' : List Source)
    (l : List (Path × List Source)) :
    insertGroup path group (insertGroup path' group' l) =
      insertGroup path' group' (insertGroup path group l) := by
  induction l with
  | nil => simp [insertGroup, h, h.not_gt]
  | cons g rest ih =>
      by_cases hg' : path' < g.1
      · have hg : path < g.1 := h.trans hg'
        simp [insertGroup, hg, hg', h, h.not_gt]
      · by_cases hg : path < g.1
        · simp [insertGroup, hg, hg', h.not_gt]
        · simp [insertGroup, hg, hg', ih]

theorem insertGroup_comm {path path' : Path} (h : path ≠ path') (group group' : List Source)
    (l : List (Path × List Source)) :
    insertGroup path group (insertGroup path' group' l) =
      insertGroup path' group' (insertGroup path group l) := by
  rcases lt_or_gt_of_ne h with hlt | hlt
  · exact insertGroup_comm_of_lt hlt group group' l
  · exact (insertGroup_comm_of_lt hlt group' group l).symm

def entryGroup (path : Path) (e : String × FileTree) : Path × List Source :=
  (path.join e.1, inTree (path.join e.1) e.2)

theorem inEntries_eq (path : Path) (entries : List (String × FileTree)) :
    inEntries path entries =
      (entries.map (entryGroup path)).foldr (fun g l => insertGroup g.1 g.2 l) [] := by
  induction entries with
  | nil => rfl
  | cons e rest ih =>
      rw [inEntries, ih]
      rfl

theorem foldr_insertGroup_perm {l l' : List (Path × List Source)} (h : l.Perm l')
    (hnodup : (l.map (·.1)).Nodup) :
    l.foldr (fun g l => insertGroup g.1 g.2 l) [] = l'.foldr (fun g l => insertGroup g.1 g.2 l) [] := by
  refine h.foldr_eq' (fun g hg g' hg' rest => ?_) []
  by_cases hpath : g.1 = g'.1
  · rw [List.inj_on_of_nodup_map hnodup hg hg' hpath]
  · exact insertGroup_comm (Ne.symm hpath) _ _ rest

theorem groups_nodup {entries : List (String × FileTree)} (path : Path)
    (hnodup : (entries.map (·.1)).Nodup) (hslash : ∀ e ∈ entries, '/' ∉ e.1.toList) :
    ((entries.map (entryGroup path)).map (·.1)).Nodup := by
  have hpaths : (entries.map (entryGroup path)).map (·.1) = (entries.map (·.1)).map path.join := by
    simp [entryGroup]
  rw [hpaths]
  refine hnodup.map_on fun name hname name' hname' => ?_
  obtain ⟨e, he, rfl⟩ := List.mem_map.1 hname
  obtain ⟨e', he', rfl⟩ := List.mem_map.1 hname'
  exact Path.join_injOn (hslash e he) (hslash e' he')

theorem inTree_shuffled {t t' : FileTree} (h : Shuffled t t') (ht : Proper t) (path : Path) :
    inTree path t = inTree path t' := by
  induction h generalizing path with
  | file content => rfl
  | @dir entries entries' hnames hentries ih =>
      obtain _ | ⟨hnodup, hslash, hproper⟩ := ht
      have hnodup' := hnames.nodup_iff.1 hnodup
      have hslash' : ∀ e ∈ entries', '/' ∉ e.1.toList := by
        intro e he
        obtain ⟨u, hu⟩ := exists_mem_of_perm hnames.symm he
        exact hslash (e.1, u) hu
      have hgroups := groups_nodup path hnodup hslash
      have hperm : (entries.map (entryGroup path)).Perm (entries'.map (entryGroup path)) := by
        rw [List.perm_ext_iff_of_nodup (.of_map _ hgroups)
          (.of_map _ (groups_nodup path hnodup' hslash'))]
        intro g
        simp only [List.mem_map, Prod.exists]
        constructor
        · rintro ⟨name, u, hu, rfl⟩
          obtain ⟨u', hu'⟩ := exists_mem_of_perm hnames hu
          exact ⟨name, u', hu', by rw [entryGroup, entryGroup, ih name u u' hu hu' (hproper _ hu)]⟩
        · rintro ⟨name, u', hu', rfl⟩
          obtain ⟨u, hu⟩ := exists_mem_of_perm hnames.symm hu'
          exact ⟨name, u, hu, by rw [entryGroup, entryGroup, ih name u u' hu hu' (hproper _ hu)]⟩
      rw [inTree, inTree, inEntries_eq, inEntries_eq, foldr_insertGroup_perm hperm hgroups]

theorem atPath_shuffled {fs : FileSystem} {root' : FileTree} (h : Twins fs.root root')
    (path : Path) : atPath fs path = atPath { fs with root := root' } path := by
  have hfind := FileSystem.find_twins h path
  rw [atPath, atPath]
  generalize fs.find path = found at hfind
  generalize FileSystem.find { fs with root := root' } path = found' at hfind
  cases hfind with
  | error e => rfl
  | ok htwins =>
      obtain ⟨hproper, hshuffled⟩ := htwins
      cases hshuffled with
      | file content => rfl
      | dir hnames hentries => exact inTree_shuffled (.dir hnames hentries) hproper path

end Source

namespace Scan

theorem insertPath_comm (path path' : Path) (l : List Path) :
    referencePaths.insertPath path (referencePaths.insertPath path' l) =
      referencePaths.insertPath path' (referencePaths.insertPath path l) := by
  induction l with
  | nil => grind [referencePaths.insertPath]
  | cons p rest ih => grind [referencePaths.insertPath]

theorem referencePaths_perm {references references' : List Path} (h : references.Perm references')
    (input : Path) : referencePaths input references = referencePaths input references' := by
  rw [referencePaths, referencePaths,
    h.foldr_eq' (fun path _ path' _ l => insertPath_comm path' path l) []]

theorem run_any_listing {reader : Archive.Reader} {fs : FileSystem} {root' : FileTree}
    {references references' : List Path} (hproper : fs.root.Proper) (hroot : fs.root.Shuffled root')
    (hreferences : references.Perm references') (input : Path) :
    Scan.run reader { fs with root := root' } input references' =
      Scan.run reader fs input references := by
  have htwins : Twins fs.root root' := ⟨hproper, hroot⟩
  rw [run, run, referencePaths_perm hreferences input]
  simp only [Source.atPath_shuffled htwins]

def nameDump (name : String) : FileTree :=
  .file (Text.encode ("\x7b\"name\":\"" ++ name ++ "\"\x7d"))

def firstListing : FileTree := .dir [("w", .dir [("y.json", nameDump "Y"), ("x.json", nameDump "X"),
  ("in", .dir [("b.json", nameDump "B"),
    ("a", .dir [("d.json", nameDump "D"), ("c.json", nameDump "C")])])])]

def secondListing : FileTree := .dir [("w", .dir [("in", .dir
  [("a", .dir [("c.json", nameDump "C"), ("d.json", nameDump "D")]), ("b.json", nameDump "B")]),
  ("y.json", nameDump "Y"), ("x.json", nameDump "X")])]

theorem firstListing_proper : firstListing.Proper := by
  refine .dir (by decide) (by decide) (List.forall_mem_singleton.2 ?_)
  refine .dir (by decide) (by decide) (List.forall_mem_cons.2 ⟨.file _,
    List.forall_mem_cons.2 ⟨.file _, List.forall_mem_singleton.2 ?_⟩⟩)
  refine .dir (by decide) (by decide)
    (List.forall_mem_cons.2 ⟨.file _, List.forall_mem_singleton.2 ?_⟩)
  exact .dir (by decide) (by decide)
    (List.forall_mem_cons.2 ⟨.file _, List.forall_mem_singleton.2 (.file _)⟩)

theorem listings_shuffled : firstListing.Shuffled secondListing := by
  refine .of_forall₂ (by decide) (.refl _) (.cons ⟨rfl, ?_⟩ .nil)
  refine .of_forall₂ (by decide) (@List.perm_append_comm _ [_, _] [_])
    (.cons ⟨rfl, .file _⟩ (.cons ⟨rfl, .file _⟩ (.cons ⟨rfl, ?_⟩ .nil)))
  refine .of_forall₂ (by decide) (.swap _ _ _) (.cons ⟨rfl, .file _⟩ (.cons ⟨rfl, ?_⟩ .nil))
  exact .of_forall₂ (by decide) (.swap _ _ _) (.cons ⟨rfl, .file _⟩ (.cons ⟨rfl, .file _⟩ .nil))

theorem listings_scan :
    ((Scan.run Archive.reader ⟨"/w", firstListing⟩ "in"
        ["y.json", "in", "x.json"]).result.toOption.map fun s =>
      (s.artifacts.map (·.uri), s.subjects.map (·.assembly.name), s.references.map (·.name))) =
      some ([some "file:///w/in/a/c.json", some "file:///w/in/a/d.json", some "file:///w/in/b.json"],
        ["C", "D", "B"], ["X", "Y"]) ∧
    Scan.run Archive.reader ⟨"/w", secondListing⟩ "in" ["x.json", "y.json", "in"] =
      Scan.run Archive.reader ⟨"/w", firstListing⟩ "in" ["y.json", "in", "x.json"] :=
  ⟨by decide +kernel,
    @run_any_listing _ ⟨"/w", firstListing⟩ _ _ _ firstListing_proper listings_shuffled (by decide)
      "in"⟩

end Scan

end NullFlow
