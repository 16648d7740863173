import NullFlow.Proofs.ListingOrder

namespace NullFlow

open Text (Bytes)

namespace FileTree

variable {root root' t u leaf : FileTree} {entries : List (String × FileTree)}
  {names taken : List String} {parents : List FileTree} {name name' : String}

theorem lookup_setEntry (name name' : String) (t : FileTree) (entries : List (String × FileTree)) :
    (setEntry name t entries).lookup name' =
      if name' = name then some t else entries.lookup name' := by
  induction entries with
  | nil =>
      by_cases h : name' = name
      · simp [setEntry, h]
      · simp [setEntry, h]
  | cons e entries ih =>
      obtain ⟨n, u⟩ := e
      unfold setEntry
      by_cases hn : n = name
      · subst hn
        by_cases h : name' = n
        · simp [h]
        · simp [List.lookup_cons, beq_false_of_ne h, h]
      · by_cases h : name' = n
        · subst h
          simp [hn]
        · simp [List.lookup_cons, beq_false_of_ne h, hn, ih]

def child : FileTree → String → Option FileTree
  | .file _, _ => none
  | .dir entries, name => entries.lookup name

def descend (t : FileTree) (names : List String) : Option FileTree :=
  names.foldlM child t

theorem descend_cons (t : FileTree) (name : String) (names : List String) :
    t.descend (name :: names) = (t.child name).bind (·.descend names) := rfl

theorem descend_concat (t : FileTree) (names : List String) (name : String) :
    t.descend (names ++ [name]) = (t.descend names).bind (·.child name) := by
  simp [descend, List.foldlM_append]

/-- Directories stay directories, with what was in them. -/
def Grown (root root' : FileTree) : Prop :=
  ∀ names entries, root.descend names = some (.dir entries) →
    ∃ entries', root'.descend names = some (.dir entries') ∧
      ∀ name, (entries.lookup name).isSome → (entries'.lookup name).isSome

theorem grown_setEntry (h : ∀ u, entries.lookup name = some u → u.isDir = false ∨ Grown u t) :
    Grown (.dir entries) (.dir (setEntry name t entries)) := by
  intro names inner hinner
  cases names with
  | nil =>
      cases Option.some.inj hinner
      refine ⟨_, rfl, fun n hn => ?_⟩
      rw [lookup_setEntry]
      split
      · rfl
      · exact hn
  | cons n names =>
      rw [descend_cons, child, Option.bind_eq_some_iff] at hinner
      obtain ⟨u, hu, hinner⟩ := hinner
      rw [descend_cons, child, lookup_setEntry]
      by_cases hn : n = name
      · subst hn
        rw [if_pos rfl]
        rcases h u hu with hfile | hgrown
        -- Below a file there is nothing.
        · cases u with
          | dir inner => cases hfile
          | file content => cases names <;> cases hinner
        · exact hgrown names inner hinner
      · rw [if_neg hn, hu]
        exact ⟨inner, hinner, fun _ => id⟩

theorem graft_concat_cons {entries : List (String × FileTree)} (hu : entries.lookup name' = some u) :
    graft leaf (name' :: names ++ [name]) (.dir entries) =
      .dir (setEntry name' (graft leaf (names ++ [name]) u) entries) := by
  rw [List.cons_append, graft, hu, Option.getD_some]

theorem exists_child (h : root.descend (name :: names) = some t) :
    ∃ entries u, root = .dir entries ∧ entries.lookup name = some u ∧ u.descend names = some t := by
  rw [descend_cons, Option.bind_eq_some_iff] at h
  obtain ⟨u, hu, h⟩ := h
  cases root with
  | file content => cases hu
  | dir entries => exact ⟨entries, u, rfl, hu, h⟩

theorem grown_graft (h : root.descend names = some (.dir entries))
    (hfile : ∀ u, entries.lookup name = some u → u.isDir = false) :
    Grown root (graft leaf (names ++ [name]) root) := by
  induction names generalizing root with
  | nil =>
      cases Option.some.inj h
      exact grown_setEntry fun u hu => .inl (hfile u hu)
  | cons n names ih =>
      obtain ⟨outer, u, rfl, hu, h⟩ := exists_child h
      rw [graft_concat_cons hu]
      refine grown_setEntry fun u' hu' => .inr ?_
      cases Option.some.inj (hu.symm.trans hu')
      exact ih h

theorem descend_graft (h : root.descend names = some (.dir entries)) :
    (graft leaf (names ++ [name]) root).descend names =
      some (.dir (setEntry name leaf entries)) := by
  induction names generalizing root with
  | nil =>
      cases Option.some.inj h
      rfl
  | cons n names ih =>
      obtain ⟨outer, u, rfl, hu, h⟩ := exists_child h
      rw [graft_concat_cons hu, descend_cons, child, lookup_setEntry, if_pos rfl]
      exact ih h

/-- A walk from the root that has taken these names, the last of them first, has come through these
directories, nearest first, and is here. -/
inductive Walked (root : FileTree) : List String → List FileTree → FileTree → Prop
  | start : Walked root [] [] root
  | step {taken : List String} {parents : List FileTree} {entries : List (String × FileTree)}
      {name : String} {t : FileTree} : Walked root taken parents (.dir entries) →
      entries.lookup name = some t → Walked root (name :: taken) (.dir entries :: parents) t

theorem Walked.descend (h : Walked root taken parents t) : root.descend taken.reverse = some t := by
  induction h with
  | start => rfl
  | step _ hlookup ih =>
      rw [List.reverse_cons, descend_concat, ih]
      exact hlookup

/-- The names that are left when a step up takes back the one before. -/
def take (taken : List String) (name : String) : List String :=
  if name = ".." then taken.tail else name :: taken

theorem withoutParents_eq (names : List String) :
    Path.withoutParents names = (names.foldl take []).reverse := rfl

theorem withoutParents_concat (names : List String) (h : name ≠ "..") :
    Path.withoutParents (names ++ [name]) = Path.withoutParents names ++ [name] := by
  simp [withoutParents_eq, take, h]

theorem follow_grown {parents' : List FileTree} {t' : FileTree} (hgrown : Grown root root')
    (hw : Walked root taken parents t) (hw' : Walked root' taken parents' t')
    (h : follow parents t names = .ok u) :
    ∃ last last' u', Walked root (names.foldl take taken) last u ∧
      follow parents' t' names = .ok u' ∧ Walked root' (names.foldl take taken) last' u' := by
  induction names generalizing taken parents t parents' t' with
  | nil =>
      cases h
      exact ⟨_, _, _, hw, rfl, hw'⟩
  | cons name names ih =>
      cases t with
      | file content => cases h
      | dir entries =>
          obtain ⟨entries', hentries', hkept⟩ := hgrown _ _ hw.descend
          cases Option.some.inj (hw'.descend.symm.trans hentries')
          simp only [follow] at h ⊢
          rw [List.foldl_cons, take]
          split at h
          · rw [if_pos (by assumption), if_pos (by assumption)]
            cases hw with
            | start =>
                cases hw' with
                | start => exact ih .start .start h
            | step hw _ =>
                cases hw' with
                | step hw' _ => exact ih hw hw' h
          · rw [if_neg (by assumption), if_neg (by assumption)]
            obtain ⟨_, hcheck, h⟩ := bind_eq_ok.1 h
            rw [hcheck]
            cases hlookup : entries.lookup name with
            | none => simp [hlookup] at h
            | some v =>
                rw [hlookup] at h
                obtain ⟨v', hv'⟩ := Option.isSome_iff_exists.1 (hkept name (by simp [hlookup]))
                simp only [bind, Except.bind, hv']
                exact ih (.step hw hlookup) (.step hw' hv') h

theorem find_graft (leaf : FileTree) (h : root.find names = .ok (.dir entries))
    (hfile : ∀ u, entries.lookup name = some u → u.isDir = false) :
    (graft leaf (Path.withoutParents names ++ [name]) root).find names =
      .ok (.dir (setEntry name leaf entries)) := by
  have hsame : Grown root root := fun _ entries hentries => ⟨entries, hentries, fun _ => id⟩
  obtain ⟨_, _, _, hw, _, _⟩ := follow_grown hsame .start .start h
  have hdir := withoutParents_eq names ▸ hw.descend
  obtain ⟨_, _, u', _, hfollow, hw'⟩ :=
    follow_grown (grown_graft hdir hfile) .start .start h
  have hdir' := withoutParents_eq names ▸ hw'.descend
  cases Option.some.inj ((descend_graft hdir).symm.trans hdir')
  exact hfollow

def enter (name : String) : FileTree → Except IoError FileTree
  | .file _ => .error .notDirectory
  | .dir entries => do
    checkName name
    match entries.lookup name with
    | none => throw .notFound
    | some t => return t

theorem follow_concat (h : name ≠ "..") : follow parents t (names ++ [name]) =
    (follow parents t names >>= enter name) := by
  induction names generalizing parents t with
  | nil =>
      cases t with
      | file content => rfl
      | dir entries =>
          simp only [List.nil_append, follow, h, if_false]
          rfl
  | cons n names ih =>
      cases t with
      | file content => rfl
      | dir entries =>
          simp only [List.cons_append, follow]
          split
          · cases parents with
            | nil => exact ih
            | cons parent parents => exact ih
          · cases hcheck : checkName n with
            | error e => rfl
            | ok _ =>
                cases hlookup : entries.lookup n with
                | none => rfl
                | some v => exact ih

end FileTree

namespace Path

variable {dir name : Path}

structure IsName (name : String) : Prop where
  noSlash : '/' ∉ name.toList
  ne_empty : name ≠ ""
  ne_point : name ≠ "."
  ne_points : name ≠ ".."

theorem pieces_go_ne_nil (cs : List Char) : pieces.go cs ≠ [] := by
  cases cs with
  | nil => simp [pieces.go]
  | cons c cs =>
      unfold pieces.go
      split
      · simp
      · split <;> simp

theorem pieces_go_append (cs ds : List Char) :
    pieces.go (cs ++ '/' :: ds) = pieces.go cs ++ pieces.go ds := by
  induction cs with
  | nil =>
      obtain ⟨p, ps, h⟩ := List.exists_cons_of_ne_nil (pieces_go_ne_nil ds)
      simp [pieces.go, h]
  | cons c cs ih =>
      obtain ⟨p, ps, h⟩ := List.exists_cons_of_ne_nil (pieces_go_ne_nil cs)
      rw [List.cons_append, pieces.go, pieces.go, ih, h]
      simp only [List.cons_append]
      split <;> simp

theorem pieces_go_of_notMem {cs : List Char} (h : '/' ∉ cs) : pieces.go cs = [String.ofList cs] := by
  induction cs with
  | nil => rfl
  | cons c cs ih =>
      simp only [List.mem_cons, not_or] at h
      rw [pieces.go, ih h.2]
      simp only [Ne.symm h.1, if_false, List.cons.injEq, and_true]
      exact String.toList_inj.1 (by simp)

theorem pieces_join (dir : Path) (h : IsName name) : ∃ ps, (dir.join name).pieces = ps ++ [name] ∧
    ps.filter (fun p => p ≠ "" ∧ p ≠ ".") = dir.names := by
  have hslash : "/".toList = ['/'] := rfl
  have hlast (cs : List Char) : pieces.go (cs ++ '/' :: name.toList) = pieces.go cs ++ [name] := by
    rw [pieces_go_append, pieces_go_of_notMem h.noSlash, String.ofList_toList]
  rw [join, isAbsolute_of_notMem h.noSlash, if_neg Bool.false_ne_true]
  rcases List.eq_nil_or_concat dir.toList with hdir | ⟨cs, c, hdir⟩
  · obtain rfl : dir = "" := String.toList_eq_nil_iff.1 hdir
    refine ⟨[], ?_, rfl⟩
    exact (pieces_go_of_notMem h.noSlash).trans (by simp)
  · by_cases hc : c = '/'
    · subst hc
      refine ⟨pieces.go cs, ?_, ?_⟩
      · rw [if_pos (by simp [hdir]), pieces, String.toList_append, hdir, List.concat_eq_append,
          List.append_assoc]
        exact hlast cs
      · rw [names, pieces, hdir, List.concat_eq_append, pieces_go_append, List.filter_append]
        simp [pieces.go]
    · refine ⟨dir.pieces, ?_, rfl⟩
      rw [if_neg (by simp [hdir, hc]), pieces, String.toList_append, String.toList_append, hslash,
        List.append_assoc]
      exact hlast dir.toList

theorem isAbsolute_join (h : IsName name) : (dir.join name).isAbsolute = dir.isAbsolute := by
  have hrelative := isAbsolute_of_notMem h.noSlash
  rw [join, hrelative, if_neg Bool.false_ne_true]
  cases hdir : dir.toList with
  | nil =>
      obtain rfl : dir = "" := String.toList_eq_nil_iff.1 hdir
      have hempty : isAbsolute "" = false := rfl
      simpa [hempty] using hrelative
  | cons c cs => split <;> simp [isAbsolute, hdir]

theorem names_join (h : IsName name) : (dir.join name).names = dir.names ++ [name] := by
  obtain ⟨ps, hpieces, hps⟩ := pieces_join dir h
  rw [names, hpieces, List.filter_append, hps]
  simp [h.ne_empty, h.ne_point]

theorem not_wantsDirectory_join (h : IsName name) : (dir.join name).wantsDirectory = false := by
  obtain ⟨ps, hpieces, _⟩ := pieces_join dir h
  rw [wantsDirectory, hpieces, List.getLast?_concat]
  split
  · simp_all [h.ne_empty]
  · simp_all [h.ne_point]
  · simp_all [h.ne_points]
  · rfl

theorem not_endsInPoint_join (h : IsName name) : (dir.join name).endsInPoint = false := by
  obtain ⟨ps, hpieces, _⟩ := pieces_join dir h
  rw [endsInPoint, hpieces, List.reverse_concat,
    List.dropWhile_cons_of_neg (by simpa using h.ne_empty)]
  simpa using h.ne_point

end Path

namespace FileSystem

variable {fs fs' : FileSystem} {dir : Path} {name : String} {content : Bytes}
  {entries : List (String × FileTree)}

def Lists (fs : FileSystem) (dir : Path) (entries : List (String × FileTree)) : Prop :=
  fs.root.find (fs.locate dir) = .ok (.dir entries)

theorem locate_join (fs : FileSystem) (dir : Path) (h : Path.IsName name) :
    fs.locate (dir.join name) = fs.locate dir ++ [name] := by
  rw [locate, locate, Path.isAbsolute_join h, Path.names_join h]
  split
  · rfl
  · rw [List.append_assoc]

theorem find_join (hname : Path.IsName name) (hlists : fs.Lists dir entries) :
    fs.root.find (fs.locate (dir.join name)) = FileTree.enter name (.dir entries) := by
  rw [locate_join fs dir hname, FileTree.find, FileTree.follow_concat hname.ne_points]
  rw [Lists, FileTree.find] at hlists
  rw [hlists]
  rfl

/-- What has to hold of a name for the file to be written. -/
structure Admits (dir : Path) (name : String) : Prop where
  path : (dir.join name).check = .ok ()
  name : FileTree.checkName name = .ok ()

theorem lists_place (hname : Path.IsName name) (hlists : fs.Lists dir entries)
    (hfile : ∀ u, entries.lookup name = some u → u.isDir = false) (leaf : FileTree) :
    (fs.place (fs.locate dir ++ [name]) leaf).Lists dir (FileTree.setEntry name leaf entries) := by
  have hfind := FileTree.find_graft leaf hlists hfile
  rw [← FileTree.withoutParents_concat _ hname.ne_points] at hfind
  exact hfind

theorem write_join (fs : FileSystem) (dir : Path) (content : Bytes) (hname : Path.IsName name) :
    fs.write (dir.join name) content = do
      (dir.join name).check
      match ← fs.root.find (fs.locate dir) with
      | .file _ => throw .notDirectory
      | .dir entries =>
        FileTree.checkName name
        match entries.lookup name with
        | some (.dir _) => throw .isDirectory
        | _ => return fs.place (fs.locate dir ++ [name]) (.file content) := by
  simp only [write, Path.not_endsInPoint_join hname, Path.not_wantsDirectory_join hname,
    locate_join fs dir hname, List.dropLast_concat, Bool.false_eq_true, if_false]
  congr 1
  funext _
  cases hdir : fs.root.find (fs.locate dir) with
  | error e => rfl
  | ok t =>
      cases t with
      | file _ => rfl
      | dir entries =>
          have hfind := find_join hname hdir
          rw [locate_join fs dir hname] at hfind
          by_cases hlength : name.utf8ByteSize ≤ FileTree.maxName
          · simp only [hfind, FileTree.enter, FileTree.checkName, hlength, if_true, bind,
              Except.bind]
            cases hlookup : entries.lookup name with
            | none => rfl
            | some u => cases u <;> rfl
          · simp only [hfind, FileTree.enter, FileTree.checkName, hlength, if_false]
            rfl

theorem write_lists (hname : Path.IsName name) (h : fs.write (dir.join name) content = .ok fs') :
    ∃ entries, fs.Lists dir entries ∧
      fs'.Lists dir (FileTree.setEntry name (.file content) entries) ∧ Admits dir name := by
  rw [write_join fs dir content hname] at h
  obtain ⟨_, hpath, h⟩ := bind_eq_ok.1 h
  obtain ⟨t, hdir, h⟩ := bind_eq_ok.1 h
  cases t with
  | file _ => cases h
  | dir entries =>
      obtain ⟨_, hcheck, h⟩ := bind_eq_ok.1 h
      split at h
      · cases h
      · rename_i hother
        cases h
        refine ⟨entries, hdir, lists_place hname hdir (fun u hu => ?_) _, hpath, hcheck⟩
        cases u with
        | file _ => rfl
        | dir inner => exact absurd hu (hother inner)

theorem write_of_lists (hname : Path.IsName name) (hadmits : Admits dir name)
    (hlists : fs.Lists dir entries) (hfile : ∀ u, entries.lookup name = some u → u.isDir = false) :
    fs.write (dir.join name) content =
      .ok (fs.place (fs.locate dir ++ [name]) (.file content)) := by
  rw [Lists] at hlists
  rw [write_join fs dir content hname, hadmits.path, hlists]
  simp only [bind, Except.bind, hadmits.name]
  split
  · cases hfile _ (by assumption)
  · rfl

theorem read_of_lists (hname : Path.IsName name) (hadmits : Admits dir name)
    (hlists : fs.Lists dir entries) (hlookup : entries.lookup name = some (.file content)) :
    fs.read (dir.join name) = .ok content := by
  have hfind : fs.root.find (fs.locate (dir.join name)) = .ok (.file content) := by
    rw [find_join hname hlists]
    simp [FileTree.enter, hadmits.name, hlookup, bind, Except.bind, pure, Except.pure]
  simp [read, find, hadmits.path, hfind, Path.not_wantsDirectory_join hname, bind, Except.bind, pure,
    Except.pure]

def writeAll (fs : FileSystem) (dir : Path) (files : List (String × Bytes)) :
    Except IoError FileSystem :=
  files.foldlM (fun fs f => fs.write (dir.join f.1) f.2) fs

theorem writeAll_append (fs : FileSystem) (dir : Path) (files files' : List (String × Bytes)) :
    fs.writeAll dir (files ++ files') = (fs.writeAll dir files >>= (·.writeAll dir files')) :=
  List.foldlM_append ..

variable {files : List (String × Bytes)}

def entered (files : List (String × Bytes)) (entries : List (String × FileTree)) :
    List (String × FileTree) :=
  files.foldl (fun entries f => FileTree.setEntry f.1 (.file f.2) entries) entries

theorem lookup_entered (files : List (String × Bytes)) (entries : List (String × FileTree))
    (name : String) : (entered files entries).lookup name =
      ((files.reverse.lookup name).map .file).or (entries.lookup name) := by
  induction files generalizing entries with
  | nil => rfl
  | cons f files ih =>
      obtain ⟨n, content⟩ := f
      change (entered files (FileTree.setEntry n (.file content) entries)).lookup name = _
      rw [ih, List.reverse_cons, List.lookup_append, FileTree.lookup_setEntry]
      cases files.reverse.lookup name with
      | some later => rfl
      | none =>
          by_cases hname : name = n
          · simp [hname]
          · simp [hname, List.lookup_cons, beq_false_of_ne hname]

theorem writeAll_lists (hnames : ∀ f ∈ files, Path.IsName f.1) (hlists : fs.Lists dir entries)
    (h : fs.writeAll dir files = .ok fs') :
    fs'.Lists dir (entered files entries) ∧ ∀ f ∈ files, Admits dir f.1 := by
  induction files generalizing fs entries with
  | nil =>
      cases h
      exact ⟨hlists, by simp⟩
  | cons f files ih =>
      obtain ⟨fs₁, hwrite, h⟩ := bind_eq_ok.1 h
      obtain ⟨entries', hlists', hlists₁, hadmits⟩ :=
        write_lists (hnames f List.mem_cons_self) hwrite
      cases Except.ok.inj (hlists.symm.trans hlists')
      obtain ⟨hlast, hrest⟩ := ih (fun f hf => hnames f (List.mem_cons_of_mem _ hf)) hlists₁ h
      refine ⟨hlast, fun f' hf' => ?_⟩
      rcases List.mem_cons.1 hf' with rfl | hf'
      · exact hadmits
      · exact hrest f' hf'

theorem writeAll_of_lists (hnames : ∀ f ∈ files, Path.IsName f.1)
    (hadmits : ∀ f ∈ files, Admits dir f.1) (hlists : fs.Lists dir entries)
    (hfile : ∀ f ∈ files, ∀ u, entries.lookup f.1 = some u → u.isDir = false) :
    ∃ fs', fs.writeAll dir files = .ok fs' := by
  induction files generalizing fs entries with
  | nil => exact ⟨fs, rfl⟩
  | cons f files ih =>
      simp only [List.mem_cons, forall_eq_or_imp] at hnames hadmits hfile
      have hlists' := lists_place hnames.1 hlists hfile.1 (.file f.2)
      have hfile' : ∀ f' ∈ files, ∀ u,
          (FileTree.setEntry f.1 (.file f.2) entries).lookup f'.1 = some u → u.isDir = false := by
        intro f' hf' u hu
        rw [FileTree.lookup_setEntry] at hu
        split at hu
        · cases hu
          rfl
        · exact hfile.2 f' hf' u hu
      obtain ⟨fs', hrest⟩ := ih hnames.2 hadmits.2 hlists' hfile'
      refine ⟨fs', ?_⟩
      rw [writeAll, List.foldlM_cons, write_of_lists hnames.1 hadmits.1 hlists hfile.1]
      exact hrest

theorem mem_of_last (h : files.reverse.lookup name = some content) : (name, content) ∈ files := by
  obtain ⟨later, earlier, heq, _⟩ := List.lookup_eq_some_iff.1 h
  rw [← List.mem_reverse, heq]
  exact List.mem_append_right _ List.mem_cons_self

theorem exists_last_of_mem (h : (name, content) ∈ files) :
    ∃ content', files.reverse.lookup name = some content' := by
  apply Option.ne_none_iff_exists'.1
  intro hnone
  have hne := List.lookup_eq_none_iff.1 hnone _ (List.mem_reverse.2 h)
  simp at hne

/-- Of the files that are written under one name the last is read. -/
theorem read_writeAll (hnames : ∀ f ∈ files, Path.IsName f.1) (h : fs.writeAll dir files = .ok fs')
    (hlast : files.reverse.lookup name = some content) : fs'.read (dir.join name) = .ok content := by
  have hmem := mem_of_last hlast
  obtain ⟨entries, hlists⟩ : ∃ entries, fs.Lists dir entries := by
    cases files with
    | nil => cases hmem
    | cons f files =>
        obtain ⟨fs₁, hwrite, _⟩ := bind_eq_ok.1 h
        obtain ⟨entries, hlists, _⟩ := write_lists (hnames f List.mem_cons_self) hwrite
        exact ⟨entries, hlists⟩
  obtain ⟨hlists', hadmits⟩ := writeAll_lists hnames hlists h
  apply read_of_lists (hnames _ hmem) (hadmits _ hmem) hlists'
  rw [lookup_entered, hlast]
  rfl

end FileSystem

end NullFlow
