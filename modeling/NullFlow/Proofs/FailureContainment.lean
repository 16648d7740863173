import NullFlow.Proofs.ArtifactChain
import NullFlow.Proofs.MethodChecks
import NullFlow.Session

namespace NullFlow

namespace Session

variable {r : TypeRun} {runs : List TypeRun} {s : Session}

/-- What a run leaves behind that has only told others of what it does. -/
def told (s : Session) (events : List Event) (spans : List Span) : Session :=
  { s with events := s.events ++ events, spans := s.spans ++ spans }

theorem told_told (s : Session) (events events' : List Event) (spans spans' : List Span) :
    (s.told events spans).told events' spans' = s.told (events ++ events') (spans ++ spans') := by
  simp [told]

theorem run_tryCatch_ok {x : Run α} {handle : RunError → Run α} {s s' : Session} {a : α}
    (h : x.run s = .ok a s') : (tryCatch x handle).run s = .ok a s' := by
  change EStateM.tryCatch x handle s = _
  rw [EStateM.tryCatch, show x s = .ok a s' from h]

theorem run_tryCatch_error {x : Run α} {spans : List Span} {e : RunError} {s s' : Session}
    (h : x.run s = .error e s') :
    (tryCatch x fun e => do record spans; throw e).run s = .error e (s'.told [] spans) := by
  change EStateM.tryCatch x _ s = _
  have htold : s'.told [] spans = { s' with spans := s'.spans ++ spans } := by simp [told]
  rw [EStateM.tryCatch, show x s = .error e s' from h, htold]
  rfl

theorem inspectMethod_run (m : MethodRun) (s : Session) : (inspectMethod none m).run s =
    if m.isFatal then .error .oversized (s.told m.events []) else .ok () (s.told m.events []) := by
  have hlogged : s.told m.events [] = { s with events := s.events ++ m.events } := by simp [told]
  rw [hlogged, inspectMethod]
  cases m.isFatal <;> rfl

theorem inspectMethod_undrawn {m : MethodRun} (hm : !m.isFatal) (s : Session) :
    (inspectMethod none m).run s = .ok () (s.told m.events []) := by
  rw [inspectMethod_run, if_neg (by simpa using hm)]

theorem inspectMethod_fatal {m : MethodRun} (hm : m.isFatal) (s : Session) :
    (inspectMethod none m).run s = .error .oversized (s.told m.events []) := by
  rw [inspectMethod_run, if_pos hm]

theorem inspectMethods_undrawn {rest : List MethodRun} (h : ∀ m ∈ rest, !m.isFatal) (r : TypeRun)
    (done : List MethodRun) (s : Session) : (inspectMethods none r done rest).run s =
      .ok () (s.told (rest.flatMap MethodRun.events) [r.span (done ++ rest)]) := by
  induction rest generalizing done s with
  | nil => simp [inspectMethods, told, record]
  | cons m rest ih =>
      obtain ⟨hm, hrest⟩ := List.forall_mem_cons.1 h
      rw [inspectMethods, EStateM.run_bind, run_tryCatch_ok (inspectMethod_undrawn hm s)]
      simp only [ih hrest, told_told]
      simp

theorem inspectMethods_fatal {rest : List MethodRun} (h : ∃ m ∈ rest, m.isFatal) (r : TypeRun)
    (done : List MethodRun) (s : Session) : ∃ events spans,
      (inspectMethods none r done rest).run s = .error .oversized (s.told events spans) := by
  induction rest generalizing done s with
  | nil => simp at h
  | cons m rest ih =>
      rw [inspectMethods, EStateM.run_bind]
      cases hm : m.isFatal with
      | true =>
          rw [run_tryCatch_error (inspectMethod_fatal hm s)]
          exact ⟨_, _, by rw [told_told]⟩
      | false =>
          have hrest : ∃ m ∈ rest, m.isFatal := by simpa [hm] using h
          obtain ⟨events, spans, hrun⟩ := ih hrest (done ++ [m]) (s.told m.events [])
          rw [run_tryCatch_ok (inspectMethod_undrawn (by simp [hm]) s)]
          exact ⟨_, _, hrun.trans (by rw [told_told])⟩

theorem inspectEach_undrawn (h : ∀ r ∈ runs, ∀ m ∈ r.methods, !m.isFatal) (s : Session) :
    (runs.forM fun r => inspectMethods none r [] r.methods).run s = .ok () (s.told
      (runs.flatMap fun r => r.methods.flatMap MethodRun.events)
      (runs.map fun r => r.span r.methods)) := by
  induction runs generalizing s with
  | nil => simp [told]
  | cons r rest ih =>
      obtain ⟨hr, hrest⟩ := List.forall_mem_cons.1 h
      change EStateM.run (inspectMethods none r [] r.methods >>= fun _ => rest.forM _) s = _
      rw [EStateM.run_bind, inspectMethods_undrawn hr]
      simp only [ih hrest, told_told]
      rfl

theorem inspectEach_fatal (h : ∃ r ∈ runs, ∃ m ∈ r.methods, m.isFatal) (s : Session) :
    ∃ events spans, (runs.forM fun r => inspectMethods none r [] r.methods).run s =
      .error .oversized (s.told events spans) := by
  induction runs generalizing s with
  | nil => simp at h
  | cons r rest ih =>
      change ∃ events spans,
        EStateM.run (inspectMethods none r [] r.methods >>= fun _ => rest.forM _) s = _
      rw [EStateM.run_bind]
      by_cases hr : ∃ m ∈ r.methods, m.isFatal
      · obtain ⟨events, spans, hrun⟩ := inspectMethods_fatal hr r [] s
        rw [hrun]
        exact ⟨events, spans, rfl⟩
      · have hnone : ∀ m ∈ r.methods, !m.isFatal := by simpa using hr
        have hrest : ∃ r ∈ rest, ∃ m ∈ r.methods, m.isFatal := by simpa [hr] using h
        rw [inspectMethods_undrawn hnone]
        obtain ⟨events, spans, hrun⟩ := ih hrest (s.told _ _)
        exact ⟨_, _, hrun.trans (by rw [told_told])⟩

theorem inspect_undrawn {i : Inspection} (h : ∀ r ∈ i.runs, ∀ m ∈ r.methods, !m.isFatal)
    (s : Session) : (inspect none i).run s = .ok i.results (s.told i.events
      (i.runs.map (fun r => r.span r.methods) ++ [Span.rule Rule.nullDereference.id])) := by
  have htypes : (inspectTypes none i.runs).run s = .ok () (s.told i.events
      (i.runs.map (fun r => r.span r.methods) ++ [Span.rule Rule.nullDereference.id])) := by
    rw [inspectTypes, EStateM.run_bind, run_tryCatch_ok (inspectEach_undrawn h s)]
    simp [record, told, Inspection.events]
  rw [inspect, EStateM.run_bind, htypes]
  rfl

theorem inspect_fatal {i : Inspection} (h : ∃ r ∈ i.runs, ∃ m ∈ r.methods, m.isFatal)
    (s : Session) : ∃ events spans,
      (inspect none i).run s = .error .oversized (s.told events spans) := by
  obtain ⟨events, spans, hrun⟩ := inspectEach_fatal h s
  rw [inspect, EStateM.run_bind, inspectTypes, EStateM.run_bind, run_tryCatch_error hrun]
  exact ⟨_, _, by rw [told_told]⟩

end Session

def MethodDef.warning? (m : MethodDef) (owner : String) (contracts : Contracts) : Option Event :=
  match m.check owner contracts with
  | .ok _ => none
  | .error .oversized => none
  | .error e => some (.methodSkipped owner m.name e.message)

def Event.Quiet (events : List Event) : Prop := ∀ e ∈ events, e.level ≠ .warn

namespace Scope

variable {s : Scope} {g : Graph} {e : Event}

theorem eq_of_mem_unknownEvents {instructions : List Instruction}
    (h : e ∈ s.unknownEvents instructions) :
    ∃ offset, e = .unknownInstruction s.fullName offset := by
  obtain ⟨i, _, rfl⟩ := List.mem_map.1 h
  exact ⟨i.offset, rfl⟩

theorem eq_of_mem_visitEvents {node : Nat} (h : e ∈ s.visitEvents g node) :
    ∃ offset, e = .unknownInstruction s.fullName offset := by
  rw [visitEvents] at h
  split at h
  · exact eq_of_mem_unknownEvents h
  · cases h

theorem eq_of_mem_failureEvents {cause : FlowError} (h : e ∈ s.failureEvents g cause) :
    ∃ offset, e = .unknownInstruction s.fullName offset := by
  unfold failureEvents at h
  split at h
  · split at h
    · exact eq_of_mem_unknownEvents h
    · cases h
  · cases h

theorem unknownEvents_quiet (s : Scope) (instructions : List Instruction) :
    Event.Quiet (s.unknownEvents instructions) := by
  intro e he
  obtain ⟨offset, rfl⟩ := eq_of_mem_unknownEvents he
  exact nofun

theorem visitEvents_quiet (s : Scope) (g : Graph) (node : Nat) :
    Event.Quiet (s.visitEvents g node) := by
  intro e he
  obtain ⟨offset, rfl⟩ := eq_of_mem_visitEvents he
  exact nofun

theorem failureEvents_quiet (s : Scope) (g : Graph) (cause : FlowError) :
    Event.Quiet (s.failureEvents g cause) := by
  intro e he
  obtain ⟨offset, rfl⟩ := eq_of_mem_failureEvents he
  exact nofun

theorem tracedEvents_quiet (s : Scope) (instructions : List Instruction) (f : Frame) :
    Event.Quiet (s.tracedEvents instructions f) := by
  induction instructions generalizing f with
  | nil => exact List.forall_mem_nil _
  | cons i rest ih =>
      rw [tracedEvents]
      split
      · exact List.forall_mem_nil _
      · exact List.forall_mem_append.2 ⟨s.unknownEvents_quiet _,
          List.forall_mem_cons.2 ⟨nofun, ih _⟩⟩

theorem reportEvents_quiet (s : Scope) (g : Graph) (trace : Bool) (facts : List Frame) (node : Nat) :
    Event.Quiet (s.reportEvents g trace facts node) := by
  unfold reportEvents
  split
  · exact List.forall_mem_cons.2 ⟨nofun, s.tracedEvents_quiet _ _⟩
  · exact s.visitEvents_quiet g node

theorem openingEvents_quiet (s : Scope) (g : Graph) (trace : Bool) :
    Event.Quiet (s.openingEvents g trace) := by
  cases trace with
  | false => exact List.forall_mem_nil _
  | true => exact List.forall_mem_singleton.2 (by simp [Event.level])

theorem check_quiet (s : Scope) (g : Graph) (trace : Bool) : Event.Quiet (s.check g trace).log := by
  have hopening := s.openingEvents_quiet g trace
  have hvisits (trail : List Nat) : Event.Quiet (trail.flatMap (s.visitEvents g)) :=
    List.forall_mem_flatMap.2 fun n _ => s.visitEvents_quiet g n
  rw [check]
  cases s.solve g with
  | error failure =>
      exact List.forall_mem_append.2 ⟨List.forall_mem_append.2 ⟨hopening, hvisits _⟩,
        s.failureEvents_quiet g _⟩
  | ok solution =>
      have hreports : Event.Quiet (((List.range g.nodes.length).filter solution.reached).flatMap
          (s.reportEvents g trace solution.facts)) :=
        List.forall_mem_flatMap.2 fun n _ => s.reportEvents_quiet g trace _ n
      have hsolved : Event.Quiet [s.solvedEvent g solution] :=
        List.forall_mem_singleton.2 (by simp [solvedEvent, Event.level])
      exact List.forall_mem_append.2 ⟨List.forall_mem_append.2 ⟨List.forall_mem_append.2
        ⟨hopening, hvisits _⟩, hreports⟩, hsolved⟩

theorem examine_quiet (s : Scope) (g : Graph) (trace : Bool) :
    Event.Quiet (s.examine g trace).log := by
  rw [examine]
  cases s.entry? with
  | none => exact s.openingEvents_quiet g trace
  | some _ => exact s.check_quiet g trace

end Scope

namespace Inspection

variable {i i' : Inspection} {t : TypeDef} {m : MethodDef} {run : MethodRun}

theorem runMethod_quiet (h : i.runMethod t m = some run) : Event.Quiet run.checked.log := by
  obtain ⟨body, _, rfl⟩ := Option.map_eq_some_iff.1 h
  cases Graph.ofBody body with
  | error e => exact List.forall_mem_nil _
  | ok g => exact Scope.examine_quiet _ g i.trace

theorem runMethod_warnings (i : Inspection) (t : TypeDef) (m : MethodDef) :
    ((i.runMethod t m).toList.flatMap fun run => run.events.filter (·.level = .warn)) =
      (m.warning? t.fullName i.contracts).toList := by
  rw [MethodDef.warning?]
  cases hrun : i.runMethod t m with
  | none =>
      rw [check_of_runMethod_eq_none hrun]
      rfl
  | some run =>
      obtain ⟨howner, hname, hresult⟩ := runMethod_eq_some hrun
      have hlog : run.checked.log.filter (·.level = .warn) = [] := by
        rw [List.filter_eq_nil_iff]
        exact fun e he => by simpa using runMethod_quiet hrun e he
      rw [Option.toList_some, List.flatMap_singleton, MethodRun.events, List.filter_append, hlog,
        howner, hname, ← hresult]
      rcases run.checked.result with (cause | ⟨scope, cause⟩ | _) | findings <;> rfl

theorem warnings_eq (i : Inspection) : i.events.filter (·.level = .warn) =
    i.types.flatMap fun (_, t) => t.methods.filterMap fun m => m.warning? t.fullName i.contracts := by
  simp only [events, runs, runType, List.filterMap_eq_flatMap_toList, List.flatMap_map,
    List.flatMap_assoc, List.filter_flatMap, runMethod_warnings]

end Inspection

/-- A method that fails loses its body. -/
inductive TypeDef.Relieved (contracts : Contracts) : TypeDef → TypeDef → Prop
  | mk {name : String} {fields : List FieldDef} {m : MethodDef} {ms ms' : List MethodDef}
      {nested : List TypeDef} {e : MethodError} : m.check name contracts = .error e →
      Relieved contracts (.mk name fields (ms ++ m :: ms') nested)
        (.mk name fields (ms ++ { m with body := none } :: ms') nested)

theorem TypeDef.Relieved.treeResults {contracts : Contracts} {t t' : TypeDef}
    (h : Relieved contracts t t') (uri : Option String) :
    t.treeResults contracts uri = t'.treeResults contracts uri := by
  obtain ⟨hfails⟩ := h
  rename_i name fields m ms ms' nested e
  have hm : m.results name contracts uri = [] := by rw [MethodDef.results, hfails]
  have hm' : { m with body := none }.results name contracts uri = [] := rfl
  rw [treeResults_mk, treeResults_mk, List.flatMap_append, List.flatMap_append, List.flatMap_cons,
    List.flatMap_cons, hm, hm']

def TypeDef.Fits (t : TypeDef) : Prop := ∀ u ∈ t.withNested, ∀ m ∈ u.methods, m.Fits

theorem TypeDef.fits_mk {name : String} {fields : List FieldDef} {methods : List MethodDef}
    {nested : List TypeDef} : (TypeDef.mk name fields methods nested).Fits ↔
      (∀ m ∈ methods, m.Fits) ∧ ∀ t ∈ nested, t.Fits := by
  rw [Fits, withNested_eq, allNested_eq, List.forall_mem_cons, List.forall_mem_flatMap]
  rfl

theorem TypeDef.Relieved.fits {contracts : Contracts} {t t' : TypeDef} (h : Relieved contracts t t')
    (ht : t.Fits) : t'.Fits := by
  obtain ⟨hfails⟩ := h
  rw [fits_mk] at ht ⊢
  simp only [List.forall_mem_append, List.forall_mem_cons] at ht ⊢
  obtain ⟨⟨hbefore, _, hbehind⟩, hnested⟩ := ht
  exact ⟨⟨hbefore, MethodDef.fits_of_no_body rfl, hbehind⟩, hnested⟩

theorem TypeDef.Replaced.fits {contracts : Contracts} {t t' : TypeDef}
    (h : Replaced (Relieved contracts) t t') (ht : t.Fits) : t'.Fits := by
  induction h with
  | here h => exact h.fits ht
  | nested _ ih =>
      rw [fits_mk] at ht ⊢
      simp only [List.forall_mem_append, List.forall_mem_cons] at ht ⊢
      obtain ⟨hmethods, hbefore, ht, hbehind⟩ := ht
      exact ⟨hmethods, hbefore, ih ht, hbehind⟩

namespace Inspection

variable {i i' : Inspection} {contracts : Contracts}

def Fits (i : Inspection) : Prop := ∀ p ∈ i.types, ∀ m ∈ p.2.methods, m.Fits

theorem fits_iff : i.Fits ↔ ∀ r ∈ i.runs, ∀ run ∈ r.methods, !run.isFatal := by
  simp only [Fits, runs, runType, List.forall_mem_map, List.mem_filterMap, forall_exists_index,
    and_imp]
  constructor
  · intro h p hp run m hm hrun
    simpa using mt (runMethod_isFatal_iff hrun).1 (not_not.2 (h p hp m hm))
  · intro h p hp m hm
    cases hrun : i.runMethod p.2 m with
    | none => exact fits_of_runMethod_eq_none hrun
    | some run =>
        have hfatal := h p hp run m hm hrun
        exact not_not.1 (mt (runMethod_isFatal_iff hrun).2 (by simpa using hfatal))

theorem fits_iff_forall : i.Fits ↔ ∀ s ∈ i.subjects, i.isTarget s →
    ∀ module ∈ s.assembly.modules, ∀ t ∈ module.types, t.Fits := by
  simp only [Fits, types, Assembly.types, TypeDef.allNested_eq, List.forall_mem_flatMap,
    List.forall_mem_map, List.mem_filter, and_imp, TypeDef.Fits]

theorem Replaced.fits (h : Replaced (TypeDef.Relieved contracts) i i') (hi : i.Fits) : i'.Fits := by
  obtain ⟨h⟩ := h
  rw [fits_iff_forall] at hi ⊢
  simp only [List.forall_mem_append, List.forall_mem_cons] at hi ⊢
  obtain ⟨hbefore, hsubject, hbehind⟩ := hi
  refine ⟨hbefore, fun htarget => ?_, hbehind⟩
  obtain ⟨hmodules, ⟨hts, ht, hts'⟩, hmodules'⟩ := hsubject htarget
  exact ⟨hmodules, ⟨hts, h.fits ht, hts'⟩, hmodules'⟩

/-- Every subject is known to be analyzed or not, the run comes to its end if all frames can be had and
writes nothing but its log, results come from methods whose check succeeds, a method that fails could as
well have no body, and there is one warning for each that fails. A frame that cannot be had ends the run
without results. -/
structure ContainsFailures (i : Inspection) : Prop where
  chosen : ∀ s ∈ i.subjects, ∃ chain, Artifact.Chain i.artifacts s.artifact chain ∧ (i.isTarget s ↔
    (∀ a ∈ i.artifacts, ¬ a.isTarget) ∨ ∃ a ∈ chain, a.isTarget)
  completes : i.Fits → ∀ session, ∃ session',
    (Session.inspect none i).run session = .ok i.results session' ∧
      session'.events = session.events ++ i.events ∧ session'.files = session.files
  aborts : ¬ i.Fits → ∀ session, ∃ session',
    (Session.inspect none i).run session = .error .oversized session' ∧
      session'.files = session.files
  attributed : ∀ r ∈ i.results, ∃ s t, (s, t) ∈ i.types ∧ ∃ m ∈ t.methods, ∃ findings,
    m.check t.fullName i.contracts = .ok findings ∧ ∃ f ∈ findings,
      r = ⟨Rule.nullDereference.id, t.fullName, m.name, i.uri? s, f⟩
  relieved : ∀ i', Replaced (TypeDef.Relieved i.contracts) i i' →
    i'.results = i.results ∧ (i.Fits → i'.Fits)
  warned : i.events.filter (·.level = .warn) =
    i.types.flatMap fun (_, t) => t.methods.filterMap fun m => m.warning? t.fullName i.contracts

theorem failures_contained (i : Inspection) (h : Artifact.Ordered i.artifacts) :
    i.ContainsFailures where
  chosen s _ := ⟨_, h.chain_ancestry s.artifact, h.analyzed_iff (h.chain_ancestry s.artifact)⟩
  completes hfits session := ⟨_, Session.inspect_undrawn (fits_iff.1 hfits) session, rfl, rfl⟩
  aborts hfits session := by
    have hfatal : ∃ r ∈ i.runs, ∃ m ∈ r.methods, m.isFatal := by simpa using mt fits_iff.2 hfits
    obtain ⟨events, spans, hrun⟩ := Session.inspect_fatal hfatal session
    exact ⟨_, hrun, rfl⟩
  attributed r hr := by
    rw [results_eq] at hr
    exact mem_produced.1 (Keyed.mem_of_mem_sort hr)
  relieved i' hi' := by
    have hproduced : i.produced = i'.produced :=
      hi'.produced .eq fun uri _ _ hu => hu.treeResults uri
    exact ⟨by rw [results_eq, results_eq, hproduced], hi'.fits⟩
  warned := i.warnings_eq

def broken : MethodDef := .ofCode "Broken" [⟨0, .pop, .none⟩, ⟨1, .ret, .none⟩]

def parcel (m : MethodDef) : Inspection where
  subjects := [⟨⟨"Sample", [⟨"Sample.dll", [.mk "Sample.Outer" [] []
    [.mk "Sample.Inner" [] [m, .callingNull "Render"] []]]⟩]⟩, 1⟩]
  contracts := .empty
  artifacts := [⟨some "file:///sample.zip", none, none, true⟩,
    ⟨some "jar:file:///sample.zip!/sample.json", none, some 0, false⟩]
  trace := false

theorem parcel_contained : Artifact.Ordered (parcel broken).artifacts ∧
    ((parcel broken).events.filter (·.level = .warn)).map Event.message =
      ["skipping Sample.Inner::Broken: analyzing System.Void Sample.Inner::Broken(): " ++
        "IL_0000: pop in System.Void Sample.Inner::Broken(): " ++
        "stack underflow: 1 value(s) requested from depth 0"] ∧
    (parcel broken).results.map Result.location = ["Sample.Inner::Render"] ∧
    (parcel { broken with body := none }).results = (parcel broken).results := by
  have hordered : Artifact.Ordered (parcel broken).artifacts := by
    rintro (_ | _ | k) a parent hk hparent
    · cases hk
      cases hparent
    · cases hk
      cases hparent
      decide
    · cases hk
  have hcontained := failures_contained (parcel broken) hordered
  refine ⟨hordered, ?_, by decide +kernel, (hcontained.relieved _ ?_).1⟩
  · rw [hcontained.warned]
    decide +kernel
  · obtain ⟨e, he⟩ : ∃ e, broken.check "Sample.Inner" .empty = .error e := ⟨_, rfl⟩
    have hinner := @TypeDef.Relieved.mk .empty "Sample.Inner" [] broken []
      [.callingNull "Render"] [] e he
    have houter := @TypeDef.Replaced.nested _ _ _ "Sample.Outer" [] [] [] [] (.here hinner)
    exact @Replaced.mk _ _ _ [] [] 1 "Sample" [] [] "Sample.dll" [] [] .empty _ false houter

def swollen : MethodDef := { MethodDef.ofCode "Swollen" [] with
  body := some ⟨2 ^ 64 - 1, [], [⟨0, .ret, .none⟩], []⟩ }

/-- The run ends in the method, although it would end well without it. -/
theorem parcel_aborted : (∀ session, ∃ session',
      (Session.inspect none (parcel swollen)).run session = .error .oversized session') ∧
    ∀ session, ∃ session', (Session.inspect none (parcel { swollen with body := none })).run session =
      .ok (parcel { swollen with body := none }).results session' := by
  have hfatal : ∃ r ∈ (parcel swollen).runs, ∃ m ∈ r.methods, m.isFatal := by decide +kernel
  have hnone : ∀ r ∈ (parcel { swollen with body := none }).runs, ∀ m ∈ r.methods, !m.isFatal := by
    decide +kernel
  constructor
  · intro session
    obtain ⟨_, _, hrun⟩ := Session.inspect_fatal hfatal session
    exact ⟨_, hrun⟩
  · intro session
    exact ⟨_, Session.inspect_undrawn hnone session⟩

end Inspection

end NullFlow
