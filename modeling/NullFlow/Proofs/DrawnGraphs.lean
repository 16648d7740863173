import NullFlow.Proofs.FileWrites
import NullFlow.Proofs.GraphPasses
import NullFlow.Proofs.MethodChecks
import NullFlow.Session

namespace NullFlow

open Text (Bytes)

theorem Text.encode_injective : Function.Injective Text.encode := by
  intro s s' h
  have hbytes : s.toList.utf8Encode = s'.toList.utf8Encode := congrArg List.toByteArray h
  rw [← String.toByteArray_ofList, ← String.toByteArray_ofList, String.toByteArray_inj,
    String.ofList_toList, String.ofList_toList] at hbytes
  exact hbytes

def portable (c : Char) : Char :=
  if c.isAlphanum || c == '.' || c == '-' || c == '_' then c else '_'

theorem fileStem_eq (name : String) : fileStem name = name.map portable := rfl

/-- Names of equal length that differ only where both have an underscore or a character that becomes
one. -/
def Blurs (name name' : String) : Prop :=
  List.Forall₂ (fun c c' => c = c' ∨ portable c = '_' ∧ portable c' = '_') name.toList name'.toList

theorem portable_eq_or (c : Char) : portable c = c ∨ portable c = '_' := by
  unfold portable
  split
  · exact .inl rfl
  · exact .inr rfl

theorem portable_eq_iff {c c' : Char} :
    portable c = portable c' ↔ c = c' ∨ portable c = '_' ∧ portable c' = '_' := by
  constructor
  · intro h
    rcases portable_eq_or c with hc | hc
    · rcases portable_eq_or c' with hc' | hc'
      · exact .inl (hc.symm.trans (h.trans hc'))
      · exact .inr ⟨h.trans hc', hc'⟩
    · exact .inr ⟨hc, h.symm.trans hc⟩
  · rintro (rfl | ⟨hc, hc'⟩)
    · rfl
    · rw [hc, hc']

theorem fileStem_eq_iff {name name' : String} :
    fileStem name = fileStem name' ↔ Blurs name name' := by
  simp only [fileStem_eq, ← String.toList_inj, String.toList_map, Blurs, ← portable_eq_iff,
    ← List.forall₂_eq_eq_eq, List.forall₂_map_left_iff, List.forall₂_map_right_iff]

theorem portable_ne_slash (c : Char) : portable c ≠ '/' := by
  intro h
  rcases portable_eq_or c with hc | hc
  · obtain rfl : c = '/' := hc.symm.trans h
    exact absurd h (by decide)
  · exact absurd (hc.symm.trans h) (by decide)

def drawingFile (name : String) : String := fileStem name ++ ".dot"

theorem drawingFile_inj {name name' : String} :
    drawingFile name = drawingFile name' ↔ Blurs name name' := by
  rw [drawingFile, drawingFile, String.append_left_inj, fileStem_eq_iff]

theorem drawingFile_isName (name : String) : Path.IsName (drawingFile name) := by
  have hlast : (drawingFile name).toList.getLast? = some 't' := by
    rw [drawingFile, String.toList_append]
    simp
  have hne {other : String} (hother : other.toList.getLast? ≠ some 't') :
      drawingFile name ≠ other := by
    rintro rfl
    exact hother hlast
  refine ⟨?_, hne (by decide), hne (by decide), hne (by decide)⟩
  intro hslash
  rw [drawingFile, String.toList_append, List.mem_append, fileStem_eq, String.toList_map,
    List.mem_map] at hslash
  rcases hslash with ⟨c, _, hc⟩ | hdot
  · exact portable_ne_slash c hc
  · exact absurd hdot (by decide)

def MethodRun.files (m : MethodRun) : List (String × Bytes) :=
  m.drawing.toList.map fun d => (d.1, Text.encode d.2)

def MethodRun.drawn (order : List MethodRun) : List (String × Bytes) :=
  order.flatMap MethodRun.files

namespace Session

variable {x : Run Unit} {k : Unit → Run Unit} {s : Session} {files : Except IoError FileSystem}
  {f : FileSystem → Except IoError FileSystem} {fatal : Prop}

/-- A run fails with the changes to its files, ends with the files they lead to, or stops short where
a method is fatal. -/
inductive Wrote (fatal : Prop) :
    EStateM.Result RunError Session Unit → Except IoError FileSystem → Prop
  | done (s : Session) : Wrote fatal (.ok () s) (.ok s.files)
  | failed (e : RunError) (s : Session) (cause : IoError) : Wrote fatal (.error e s) (.error cause)
  | stopped (e : RunError) (s : Session) (files : Except IoError FileSystem) :
      fatal → Wrote fatal (.error e s) files

theorem Wrote.files_eq (h : Wrote fatal (.ok () s) files) : files = .ok s.files := by
  cases h
  rfl

theorem Wrote.bind (hx : Wrote fatal (x.run s) files)
    (hk : ∀ s', Wrote fatal ((k ()).run s') (f s'.files)) :
    Wrote fatal ((x >>= k).run s) (files >>= f) := by
  rw [EStateM.run_bind]
  generalize x.run s = result at hx
  cases hx with
  | done s' => exact hk s'
  | failed e s' cause => exact .failed e s' cause
  | stopped e s' files h => exact .stopped e s' _ h

theorem Wrote.catching {handle : RunError → Run Unit} (hx : Wrote fatal (x.run s) files)
    (hfails : ∀ e s', ∃ e' s'', (handle e).run s' = .error e' s'') :
    Wrote fatal ((tryCatch x handle).run s) files := by
  have hrun : (tryCatch x handle).run s = match x.run s with
      | .ok a s' => .ok a s'
      | .error e s' => (handle e).run s' := by
    change EStateM.tryCatch x handle s = _
    unfold EStateM.tryCatch EStateM.run
    cases x s <;> rfl
  rw [hrun]
  generalize x.run s = result at hx
  cases hx with
  | done s' => exact .done s'
  | failed e s' cause =>
      obtain ⟨e', s'', hfailed⟩ := hfails e s'
      change Wrote fatal ((handle e).run s') _
      rw [hfailed]
      exact .failed e' s'' cause
  | stopped e s' files h =>
      obtain ⟨e', s'', hfailed⟩ := hfails e s'
      change Wrote fatal ((handle e).run s') _
      rw [hfailed]
      exact .stopped e' s'' files h

theorem wrote_record (spans : List Span) (s : Session) :
    Wrote fatal ((record spans).run s) (.ok s.files) :=
  .done { s with spans := s.spans ++ spans }

theorem change_wrote (operation : FileSystem → Except IoError FileSystem)
    (error : IoError → RunError) (s : Session) :
    Wrote fatal ((change operation error).run s) (operation s.files) := by
  have hrun : (change operation error).run s =
      (ofExcept (operation s.files) error >>= fun files =>
        modify fun s => { s with files }).run s := rfl
  rw [hrun]
  cases operation s.files with
  | ok files => exact .done { s with files }
  | error e => exact .failed (error e) s e

theorem draw_wrote (dir : Path) (m : MethodRun) (s : Session) :
    Wrote fatal ((draw (some dir) m).run s) (s.files.writeAll dir m.files) := by
  unfold draw MethodRun.files
  cases hdrawing : m.drawing with
  | none => exact .done s
  | some d =>
      have hone : s.files.writeAll dir [(d.1, Text.encode d.2)] =
          s.files.write (dir.join d.1) (Text.encode d.2) := bind_pure _
      rw [Option.toList_some, List.map_singleton, hone]
      exact change_wrote _ _ s

theorem inspectMethod_wrote (dir : Path) {m : MethodRun} (hm : m.isFatal → fatal) (s : Session) :
    Wrote fatal ((inspectMethod (some dir) m).run s) (s.files.writeAll dir m.files) := by
  rw [inspectMethod, ← bind_pure (s.files.writeAll dir m.files)]
  refine (draw_wrote dir m s).bind fun s' => ?_
  cases hfatal : m.isFatal with
  | false => exact .done { s' with events := s'.events ++ m.events }
  | true => exact .stopped .oversized { s' with events := s'.events ++ m.events } _ (hm hfatal)

theorem forM_inspectMethod_wrote (dir : Path) {order : List MethodRun}
    (h : ∀ m ∈ order, m.isFatal → fatal) (s : Session) :
    Wrote fatal ((order.forM (inspectMethod (some dir))).run s)
      (s.files.writeAll dir (MethodRun.drawn order)) := by
  induction order generalizing s with
  | nil => exact .done s
  | cons m rest ih =>
      obtain ⟨hm, hrest⟩ := List.forall_mem_cons.1 h
      rw [MethodRun.drawn, List.flatMap_cons, FileSystem.writeAll_append]
      exact (inspectMethod_wrote dir hm s).bind (ih hrest)

theorem inspectMethods_wrote (dir : Path) (r : TypeRun) (done : List MethodRun)
    {methods : List MethodRun} (h : ∀ m ∈ methods, m.isFatal → fatal) (s : Session) :
    Wrote fatal ((inspectMethods (some dir) r done methods).run s)
      (s.files.writeAll dir (MethodRun.drawn methods)) := by
  induction methods generalizing done s with
  | nil => exact wrote_record _ s
  | cons m rest ih =>
      obtain ⟨hm, hrest⟩ := List.forall_mem_cons.1 h
      rw [MethodRun.drawn, List.flatMap_cons, FileSystem.writeAll_append]
      apply Wrote.bind
      · apply (inspectMethod_wrote dir hm s).catching
        intro e s'
        exact ⟨e, _, rfl⟩
      · exact ih _ hrest

theorem inspectTypes_wrote (dir : Path) {runs : List TypeRun}
    (h : ∀ r ∈ runs, ∀ m ∈ r.methods, m.isFatal → fatal) (s : Session) :
    Wrote fatal ((inspectTypes (some dir) runs).run s)
      (s.files.writeAll dir (MethodRun.drawn (runs.flatMap (·.methods)))) := by
  have heach (s : Session) :
      Wrote fatal ((runs.forM fun r => inspectMethods (some dir) r [] r.methods).run s)
        (s.files.writeAll dir (MethodRun.drawn (runs.flatMap (·.methods)))) := by
    induction runs generalizing s with
    | nil => exact .done s
    | cons r rest ih =>
        obtain ⟨hr, hrest⟩ := List.forall_mem_cons.1 h
        rw [MethodRun.drawn, List.flatMap_cons, List.flatMap_append, FileSystem.writeAll_append]
        exact (inspectMethods_wrote dir r [] hr s).bind (ih hrest)
  rw [← bind_pure (s.files.writeAll dir _)]
  apply Wrote.bind
  · apply (heach s).catching
    intro e s'
    exact ⟨e, _, rfl⟩
  · intro s'
    exact wrote_record _ s'

end Session

namespace Inspection

variable {i : Inspection} {t t' : TypeDef} {m m' : MethodDef} {file text : String}
  {content : Bytes} {order : List MethodRun} {dir : Path}

def methods (i : Inspection) : List MethodRun := i.runs.flatMap (·.methods)

def drawingName (t : TypeDef) (m : MethodDef) : String := t.fullName ++ "." ++ m.name

/-- A method of an analyzed type that has a graph, with the file of its drawing and the text. -/
inductive Pictured (i : Inspection) : TypeDef → MethodDef → String → String → Prop
  | mk {s : Subject} {t : TypeDef} {m : MethodDef} {body : MethodBody} {g : Graph} :
      (s, t) ∈ i.types → m ∈ t.methods → m.body = some body → Graph.ofBody body = .ok g →
      Pictured i t m (drawingFile (drawingName t m)) (g.dot (drawingName t m) body)

theorem mem_files_runMethod : (∃ r, i.runMethod t m = some r ∧ (file, content) ∈ r.files) ↔
    ∃ body g, m.body = some body ∧ Graph.ofBody body = .ok g ∧
      file = drawingFile (drawingName t m) ∧
      content = Text.encode (g.dot (drawingName t m) body) := by
  cases hbody : m.body with
  | none => simp [runMethod, hbody]
  | some body =>
      cases hg : Graph.ofBody body with
      | error e => simp [runMethod, hbody, hg, MethodRun.files]
      | ok g =>
          simp only [runMethod, hbody, hg, Option.map_some, Option.some.injEq, exists_eq_left',
            MethodRun.files, Option.toList_some, List.map_singleton, List.mem_singleton,
            Prod.mk.injEq]
          constructor
          · intro hfile
            exact ⟨body, g, rfl, hg, hfile⟩
          · rintro ⟨_, g', rfl, hg', hfile⟩
            cases Except.ok.inj (hg.symm.trans hg')
            exact hfile

theorem mem_drawn : (file, content) ∈ MethodRun.drawn i.methods ↔
    ∃ t m text, i.Pictured t m file text ∧ content = Text.encode text := by
  simp only [MethodRun.drawn, methods, runs, List.mem_flatMap, List.mem_map, Prod.exists]
  constructor
  · rintro ⟨r, ⟨_, ⟨s, t, ht, rfl⟩, hr⟩, hfile⟩
    obtain ⟨m, hm, hrun⟩ := List.mem_filterMap.1 hr
    obtain ⟨body, g, hbody, hg, rfl, rfl⟩ := mem_files_runMethod.1 ⟨r, hrun, hfile⟩
    exact ⟨t, m, _, .mk ht hm hbody hg, rfl⟩
  · rintro ⟨t, m, text, hpictured, rfl⟩
    cases hpictured with
    | mk ht hm hbody hg =>
        obtain ⟨r, hrun, hfile⟩ := mem_files_runMethod.2 ⟨_, _, hbody, hg, rfl, rfl⟩
        exact ⟨r, ⟨_, ⟨_, t, ht, rfl⟩, List.mem_filterMap.2 ⟨m, hm, hrun⟩⟩, hfile⟩

theorem mem_drawn_perm (hperm : order.Perm i.methods) {f : String × Bytes} :
    f ∈ MethodRun.drawn order ↔ f ∈ MethodRun.drawn i.methods := by
  simp only [MethodRun.drawn, List.mem_flatMap, hperm.mem_iff]

theorem Pictured.isName (h : i.Pictured t m file text) : Path.IsName file := by
  cases h
  exact drawingFile_isName _

/-- The files after a run that looked at the methods in this order: the types one after the other in any
order, or the methods of all types between one another, as threads do that share the types. -/
inductive Draws (i : Inspection) (dir : Path) (s : Session) : List MethodRun → FileSystem → Prop
  | apart {types : List TypeRun} {s' : Session} : types.Perm i.runs →
      (Session.inspectTypes (some dir) types).run s = .ok () s' →
      Draws i dir s (types.flatMap (·.methods)) s'.files
  | mixed {order : List MethodRun} {s' : Session} : order.Perm i.methods →
      (order.forM (Session.inspectMethod (some dir))).run s = .ok () s' →
      Draws i dir s order s'.files

theorem Draws.perm {s : Session} {files : FileSystem} (h : i.Draws dir s order files) :
    order.Perm i.methods := by
  cases h with
  | apart htypes _ => exact htypes.flatMap_right _
  | mixed horder _ => exact horder

theorem Draws.written {s : Session} {files : FileSystem} (h : i.Draws dir s order files) :
    s.files.writeAll dir (MethodRun.drawn order) = .ok files := by
  cases h with
  | @apart types _ _ hrun =>
      have hany : ∀ r ∈ types, ∀ m ∈ r.methods, m.isFatal → True := by simp
      have hwrote := Session.inspectTypes_wrote dir hany s
      rw [hrun] at hwrote
      exact hwrote.files_eq
  | mixed _ hrun =>
      have hany : ∀ m ∈ order, m.isFatal → True := by simp
      have hwrote := Session.forM_inspectMethod_wrote dir hany s
      rw [hrun] at hwrote
      exact hwrote.files_eq

/-- Each file holds the drawing of a method, the last in this order that has the file. So the drawings
are all there if methods only share a file that have the same drawing. -/
structure KeepsLast (i : Inspection) (dir : Path) (order : List MethodRun) (files : FileSystem) :
    Prop where
  last : ∀ (t : TypeDef) (m : MethodDef) (file text : String), i.Pictured t m file text →
    ∃ (t' : TypeDef) (m' : MethodDef) (text' : String), i.Pictured t' m' file text' ∧
      (MethodRun.drawn order).reverse.lookup file = some (Text.encode text') ∧
      files.read (dir.join file) = .ok (Text.encode text')
  kept_iff : (∀ (t : TypeDef) (m : MethodDef) (file text : String), i.Pictured t m file text →
      files.read (dir.join file) = .ok (Text.encode text)) ↔
    ∀ (t t' : TypeDef) (m m' : MethodDef) (file text text' : String), i.Pictured t m file text →
      i.Pictured t' m' file text' → text = text'
  shared_iff : ∀ (t t' : TypeDef) (m m' : MethodDef) (file file' text text' : String),
    i.Pictured t m file text → i.Pictured t' m' file' text' →
    (file = file' ↔ Blurs (drawingName t m) (drawingName t' m'))

theorem drawings_keepLast {s : Session} {files : FileSystem} (h : i.Draws dir s order files) :
    i.KeepsLast dir order files := by
  have hnames : ∀ f ∈ MethodRun.drawn order, Path.IsName f.1 := by
    intro f hf
    obtain ⟨t, m, text, hpictured, _⟩ := mem_drawn.1 ((mem_drawn_perm h.perm).1 hf)
    exact hpictured.isName
  have hlast (t : TypeDef) (m : MethodDef) (file text : String)
      (hpictured : i.Pictured t m file text) :
      ∃ (t' : TypeDef) (m' : MethodDef) (text' : String), i.Pictured t' m' file text' ∧
        (MethodRun.drawn order).reverse.lookup file = some (Text.encode text') ∧
        files.read (dir.join file) = .ok (Text.encode text') := by
    have hmem := (mem_drawn_perm h.perm).2 (mem_drawn.2 ⟨t, m, text, hpictured, rfl⟩)
    obtain ⟨content, hcontent⟩ := FileSystem.exists_last_of_mem hmem
    have hread := FileSystem.read_writeAll hnames h.written hcontent
    have hmem' := (mem_drawn_perm h.perm).1 (FileSystem.mem_of_last hcontent)
    obtain ⟨t', m', text', hpictured', rfl⟩ := mem_drawn.1 hmem'
    exact ⟨t', m', text', hpictured', hcontent, hread⟩
  refine ⟨hlast, ?_, ?_⟩
  · constructor
    · intro hkept t t' m m' file text text' h h'
      have hread := (hkept t m file text h).symm.trans (hkept t' m' file text' h')
      exact Text.encode_injective (Except.ok.inj hread)
    · intro hsame t m file text h
      obtain ⟨t', m', text', h', _, hread⟩ := hlast t m file text h
      rw [hread, hsame t t' m m' file text text' h h']
  · rintro t t' m m' _ _ _ _ ⟨⟩ ⟨⟩
    exact drawingFile_inj

def render : MethodDef := .ofCode "Render" [⟨0, .ret, .none⟩]

def renderAt : MethodDef :=
  { MethodDef.ofCode "Render" [⟨0, .nop, .none⟩, ⟨1, .ret, .none⟩] with
    parameters := [⟨"place", ⟨"System.Int32", true⟩, []⟩] }

def canvas : TypeDef := .mk "Sample.Canvas" [] [render, renderAt] []

def overloads : Inspection where
  subjects := [⟨⟨"Sample", [⟨"Sample.dll", [canvas]⟩]⟩, 0⟩]
  contracts := .empty
  artifacts := [⟨some "file:///sample.json", none, none, true⟩]
  trace := false

def easel : Session := .start ⟨"/", .dir [("out", .dir [])]⟩

theorem easel_lists : easel.files.Lists "out" [] := by
  have hlocate : easel.files.locate "out" = ["out"] := by decide
  rw [FileSystem.Lists, hlocate]
  rfl

theorem drawingFile_overload : drawingFile "Sample.Canvas.Render" = "Sample.Canvas.Render.dot" := by
  apply String.toList_inj.1
  rw [drawingFile, String.toList_append, fileStem_eq, String.toList_map]
  decide

def overloadText (m : MethodDef) : String :=
  (m.body.map fun body => (Graph.assemble body).dot "Sample.Canvas.Render" body).getD ""

theorem overloads_drawn : MethodRun.drawn overloads.methods =
    [("Sample.Canvas.Render.dot", Text.encode (overloadText render)),
      ("Sample.Canvas.Render.dot", Text.encode (overloadText renderAt))] := by
  rw [← drawingFile_overload]
  rfl

theorem overloads_pictured {m : MethodDef} (hm : m = render ∨ m = renderAt) :
    overloads.Pictured canvas m "Sample.Canvas.Render.dot" (overloadText m) := by
  have hname : drawingName canvas m = "Sample.Canvas.Render" := by
    rcases hm with rfl | rfl <;> decide
  have htypes : overloads.types = [(⟨⟨"Sample", [⟨"Sample.dll", [canvas]⟩]⟩, 0⟩, canvas)] := rfl
  have hpictured {body : MethodBody} (hbody : m.body = some body)
      (hg : Graph.ofBody body = .ok (.assemble body)) :
      overloads.Pictured canvas m "Sample.Canvas.Render.dot" (overloadText m) := by
    have hmk := Pictured.mk (i := overloads) (htypes ▸ List.mem_singleton_self _)
      (List.mem_pair.2 hm) hbody hg
    rw [hname, drawingFile_overload] at hmk
    simpa [overloadText, hbody] using hmk
  rcases hm with rfl | rfl
  · exact hpictured rfl rfl
  · exact hpictured rfl rfl

theorem overloads_run : ∃ s', (Session.inspectTypes (some "out") overloads.runs).run easel =
      .ok () s' ∧ easel.files.writeAll "out" (MethodRun.drawn overloads.methods) = .ok s'.files := by
  have hnames : ∀ f ∈ MethodRun.drawn overloads.methods, Path.IsName f.1 := by
    rw [overloads_drawn, ← drawingFile_overload]
    simpa using drawingFile_isName _
  have hadmitted : ∀ f ∈ MethodRun.drawn overloads.methods, FileSystem.Admits "out" f.1 := by
    have hadmits : FileSystem.Admits "out" "Sample.Canvas.Render.dot" := ⟨by decide, by decide⟩
    rw [overloads_drawn]
    simpa using hadmits
  obtain ⟨files, hfiles⟩ :=
    FileSystem.writeAll_of_lists hnames hadmitted easel_lists (by simp)
  have hfatal : ∀ r ∈ overloads.runs, ∀ m ∈ r.methods, m.isFatal → False := by decide +kernel
  have hwrote := Session.inspectTypes_wrote "out" hfatal easel
  change Session.Wrote _ _ (easel.files.writeAll "out" (MethodRun.drawn overloads.methods)) at hwrote
  rw [hfiles] at hwrote ⊢
  generalize (Session.inspectTypes (some "out") overloads.runs).run easel = result at hwrote ⊢
  cases hwrote with
  | done s' => exact ⟨s', rfl, rfl⟩
  | stopped _ _ _ h => exact h.elim

theorem overloads_keepLast : ∃ files, overloads.Draws "out" easel overloads.methods files ∧
    overloads.KeepsLast "out" overloads.methods files := by
  obtain ⟨s', hrun, _⟩ := overloads_run
  have hdraws : overloads.Draws "out" easel overloads.methods s'.files := .apart (.refl _) hrun
  exact ⟨s'.files, hdraws, drawings_keepLast hdraws⟩

theorem overloads_lost : render ≠ renderAt ∧ overloadText render ≠ overloadText renderAt ∧
    overloads.Pictured canvas render "Sample.Canvas.Render.dot" (overloadText render) ∧
    overloads.Pictured canvas renderAt "Sample.Canvas.Render.dot" (overloadText renderAt) ∧
    ∃ s', (Session.inspectTypes (some "out") overloads.runs).run easel = .ok () s' ∧
      s'.files.Lists "out"
        [("Sample.Canvas.Render.dot", .file (Text.encode (overloadText renderAt)))] := by
  obtain ⟨s', hrun, hfiles⟩ := overloads_run
  refine ⟨by decide, by decide +kernel, overloads_pictured (.inl rfl), overloads_pictured (.inr rfl),
    s', hrun, ?_⟩
  rw [overloads_drawn] at hfiles
  have hname := drawingFile_overload ▸ drawingFile_isName "Sample.Canvas.Render"
  obtain ⟨hlists, _⟩ := FileSystem.writeAll_lists (by simpa using hname) easel_lists hfiles
  exact hlists

end Inspection

end NullFlow
