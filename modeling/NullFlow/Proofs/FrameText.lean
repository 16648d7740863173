import NullFlow.Proofs.ContractTables
import NullFlow.Proofs.FailureContainment
import NullFlow.Proofs.FrameShapes
import NullFlow.Proofs.RegionMarkers

namespace NullFlow

namespace Nullity

theorem symbol_injective : Function.Injective symbol := by
  intro a b h
  cases a <;> cases b <;> first | rfl | cases h

theorem bracket_notMem_symbols (slots : List Nullity) : '[' ∉ slots.map symbol := by
  simp only [List.mem_map, not_exists, not_and]
  intro v _
  cases v <;> decide

end Nullity

namespace Frame

variable {f g : Frame} {sh sh' : Shape}

def held (f : Frame) : List Nullity × List Nullity × List Nullity :=
  (f.stack.take f.depth, f.locals, f.args)

theorem Kept.eq_of_held (hf : f.Kept sh) (hg : g.Kept sh')
    (hstack : f.stack.length = g.stack.length) (h : f.held = g.held) : f = g := by
  simp only [held, Prod.mk.injEq] at h
  obtain ⟨htake, hlocals, hargs⟩ := h
  have hshape : f.shape = g.shape := by rw [shape, shape, hstack, hlocals, hargs]
  have hsh : sh' = sh := by rw [← hg.shape, ← hshape, hf.shape]
  have hdepth : f.depth = g.depth := by
    have hlen : f.stack.length = sh.stack := congrArg Shape.stack hf.shape
    have hlen' : g.stack.length = sh'.stack := congrArg Shape.stack hg.shape
    have htaken := congrArg List.length htake
    rwa [List.length_take_of_le (hlen ▸ hf.fits),
      List.length_take_of_le (hlen' ▸ hg.fits)] at htaken
  exact (hf.ext_iff (hsh ▸ hg)).2 ⟨hdepth, htake, hlocals, hargs⟩

theorem symbols_split {front front' close : List Char} {slots slots' : List Nullity}
    (hclose : '[' ∉ close) (h : front ++ '[' :: (slots.map Nullity.symbol ++ close) =
      front' ++ '[' :: (slots'.map Nullity.symbol ++ close)) : front = front' ∧ slots = slots' := by
  have hnot (slots : List Nullity) : '[' ∉ slots.map Nullity.symbol ++ close := by
    rw [List.mem_append, not_or]
    exact ⟨Nullity.bracket_notMem_symbols slots, hclose⟩
  obtain ⟨hfront, htail⟩ := MemberName.split_at_last (hnot slots) (hnot slots') h
  exact ⟨hfront, Nullity.symbol_injective.list_map (List.append_cancel_right htail)⟩

theorem toList_append_text (lead : String) (f : Frame) : (lead ++ f.text).toList =
    ((lead.toList ++ '[' :: ((f.stack.take f.depth).map Nullity.symbol ++ "] locals ".toList)) ++
      '[' :: (f.locals.map Nullity.symbol ++ "] args ".toList)) ++
      '[' :: (f.args.map Nullity.symbol ++ "]".toList) := by
  simp [text, symbols]

theorem append_text_inj {lead lead' : String} (h : lead ++ f.text = lead' ++ g.text) :
    lead = lead' ∧ f.held = g.held := by
  have hchars := congrArg String.toList h
  rw [toList_append_text, toList_append_text] at hchars
  obtain ⟨hchars, hargs⟩ := symbols_split (by decide) hchars
  obtain ⟨hchars, hlocals⟩ := symbols_split (by decide) hchars
  obtain ⟨hlead, hstack⟩ := symbols_split (by decide) hchars
  exact ⟨String.toList_inj.1 hlead, by rw [held, held, hstack, hlocals, hargs]⟩

end Frame

def Event.frameText? : Event → Option String
  | .trace text => some text
  | .solved _ _ _ _ _ _ exit => some exit
  | _ => none

namespace Scope

variable {s : Scope} {g : Graph} {e : Event} {f f' : Frame} {text : String}

def heading (s : Scope) (g : Graph) : String :=
  s.fullName ++ "\n" ++ g.listingText s.body

/-- The event is in the log of the method and writes out the frame: that on entry to a block, that
after an instruction, or the one in which the method ends. -/
inductive Shows (s : Scope) (g : Graph) : Event → Frame → Prop
  | block {sol : Solution} {n : Nat} {b : Block} {fact : Frame} (h : s.solve g = .ok sol)
      (hn : sol.reached n) (hb : g.nodes[n]? = some (.block b)) (hf : sol.facts[n]? = some fact) :
      Shows s g (.trace ("block " ++ b.label s.body ++ " in " ++ fact.text)) fact
  | step {sol : Solution} {n k : Nat} {b : Block} {i : Instruction} {fact f : Frame}
      (h : s.solve g = .ok sol) (hn : sol.reached n) (hb : g.nodes[n]? = some (.block b))
      (hf : sol.facts[n]? = some fact) (hi : (b.instructions s.body)[k]? = some i)
      (hk : s.before b (k + 1) fact = .ok f) :
      Shows s g (.trace ("  " ++ i.text ++ " -> " ++ f.text)) f
  | exit {sol : Solution} {f : Frame} (h : s.solve g = .ok sol)
      (hf : sol.facts[Graph.exit]? = some f) : Shows s g (s.solvedEvent g sol) f

theorem Shows.text_eq (h : s.Shows g e f) : ∃ lead, e.frameText? = some (lead ++ f.text) := by
  cases h with
  | block => exact ⟨_, rfl⟩
  | step => exact ⟨_, rfl⟩
  | exit h hf =>
      refine ⟨"", ?_⟩
      simp [solvedEvent, Event.frameText?, hf]

theorem Shows.kept (hg : Graph.ofBody s.body = .ok g) (h : s.Shows g e f) : f.Kept s.shape := by
  apply Occurs.kept hg
  cases h with
  | block h _ _ hf => exact .fact (solve_passes hg h) hf
  | step h hn hb hf _ hk =>
      exact .before (solve_passes hg h) (.inl (Solution.reached_iff.1 hn)) hb hf hk
  | exit h hf => exact .fact (solve_passes hg h) hf

theorem heading_eq (s : Scope) (g : Graph) : ∃ front, s.heading g = front ++ "\n" := by
  rw [heading, Graph.listingText, Graph.listing_eq]
  rcases List.eq_nil_or_concat s.body.lines with hlines | ⟨lines, last, hlines⟩
  · rw [hlines]
    exact ⟨s.fullName, by simp [String.join]⟩
  · rw [hlines, List.concat_eq_append, List.map_append, List.map_singleton, String.join,
      List.foldl_append, List.foldl_cons, List.foldl_nil, ← String.append_assoc,
      ← String.append_assoc]
    exact ⟨_, rfl⟩

/-- A listing ends with a line, and a frame with a bracket. -/
theorem heading_ne (s : Scope) (g : Graph) (lead : String) (f : Frame) :
    s.heading g ≠ lead ++ f.text := by
  obtain ⟨front, hfront⟩ := s.heading_eq g
  obtain ⟨front', hfront'⟩ : ∃ front', lead ++ f.text = front' ++ "]" :=
    ⟨_, (String.append_assoc ..).symm⟩
  rw [hfront, hfront']
  intro heq
  have hlast := congrArg (fun t => t.toList.getLast?) heq
  simp at hlast

theorem execute_cons_map {i : Instruction} {rest : List Instruction} {issues : List Issue} {n : Nat}
    (h : s.step i f = .ok (f', issues)) :
    (s.execute n (i :: rest) f).map (·.1) = (s.execute (n + 1) rest f').map (·.1) := by
  rw [execute, h]
  cases hrest : s.execute (n + 1) rest f' with
  | error e => simp [hrest, bind, Except.bind, Except.map]
  | ok r => simp [hrest, bind, Except.bind, Except.map, pure, Except.pure]

theorem mem_tracedEvents {instructions : List Instruction} {n : Nat}
    (ht : e.frameText? = some text) : e ∈ s.tracedEvents instructions f ↔
      ∃ k i f', instructions[k]? = some i ∧
        (s.execute n (instructions.take (k + 1)) f).map (·.1) = .ok f' ∧
        e = .trace ("  " ++ i.text ++ " -> " ++ f'.text) := by
  induction instructions generalizing f n with
  | nil => simp [tracedEvents]
  | cons i rest ih =>
      have hunknown : e ∉ s.unknownEvents [i] := by
        intro he
        obtain ⟨offset, rfl⟩ := eq_of_mem_unknownEvents he
        cases ht
      cases hstep : s.step i f with
      | error cause => simp [tracedEvents, execute, hstep, Except.map]
      | ok r =>
          obtain ⟨mid, issues⟩ := r
          simp only [tracedEvents, hstep, List.mem_append, hunknown, false_or, List.mem_cons,
            ih (f := mid) (n := n + 1), List.take_succ_cons, execute_cons_map hstep]
          constructor
          · rintro (rfl | ⟨k, hk⟩)
            · exact ⟨0, i, mid, rfl, rfl, rfl⟩
            · exact ⟨k + 1, hk⟩
          · rintro ⟨k, i', f', hi, hf, rfl⟩
            cases k with
            | zero =>
                cases hi
                cases hf
                exact .inl rfl
            | succ k => exact .inr ⟨k, i', f', hi, hf, rfl⟩

theorem mem_reportEvents {facts : List Frame} {fact : Frame} {n : Nat} {b : Block}
    (hb : g.nodes[n]? = some (.block b)) (hf : facts[n]? = some fact)
    (ht : e.frameText? = some text) : e ∈ s.reportEvents g true facts n ↔
      e = .trace ("block " ++ b.label s.body ++ " in " ++ fact.text) ∨
      ∃ k i f', (b.instructions s.body)[k]? = some i ∧ s.before b (k + 1) fact = .ok f' ∧
        e = .trace ("  " ++ i.text ++ " -> " ++ f'.text) := by
  simp only [reportEvents, hb, List.getD_eq_getElem?_getD, hf, Option.getD_some, List.mem_cons,
    mem_tracedEvents (n := b.first) ht, before]

theorem solve_fact (hg : Graph.ofBody s.body = .ok g) {sol : Solution} (h : s.solve g = .ok sol)
    {n : Nat} {node : Node} (hn : g.nodes[n]? = some node) : ∃ fact, sol.facts[n]? = some fact := by
  have hlength : sol.facts.length = g.nodes.length := (solve_guarded hg h).length
  have hlt : n < sol.facts.length := hlength ▸ (List.getElem?_eq_some_iff.1 hn).1
  exact ⟨_, List.getElem?_eq_getElem hlt⟩

theorem shows_of_mem_reportEvents (hg : Graph.ofBody s.body = .ok g) {sol : Solution}
    (h : s.solve g = .ok sol) {trace : Bool} {n : Nat} (hn : sol.reached n)
    (he : e ∈ s.reportEvents g trace sol.facts n) (ht : e.frameText? = some text) :
    ∃ f, s.Shows g e f := by
  by_cases hblock : trace = true ∧ ∃ b, g.nodes[n]? = some (.block b)
  · obtain ⟨rfl, b, hb⟩ := hblock
    obtain ⟨fact, hf⟩ := solve_fact hg h hb
    rcases (mem_reportEvents hb hf ht).1 he with rfl | ⟨k, i, f, hi, hk, rfl⟩
    · exact ⟨fact, .block h hn hb hf⟩
    · exact ⟨f, .step h hn hb hf hi hk⟩
  · have hvisit : s.reportEvents g trace sol.facts n = s.visitEvents g n := by
      unfold reportEvents
      split
      · rename_i b hb
        exact absurd ⟨rfl, b, hb⟩ hblock
      · rfl
    obtain ⟨offset, rfl⟩ := eq_of_mem_visitEvents (hvisit ▸ he)
    cases ht

theorem shows_of_mem_log (hg : Graph.ofBody s.body = .ok g) {trace : Bool}
    (he : e ∈ (s.check g trace).log) (ht : e.frameText? = some text) :
    e = .trace (s.heading g) ∨ ∃ f, s.Shows g e f := by
  have hopening (h : e ∈ if trace then [Event.trace (s.heading g)] else []) :
      e = .trace (s.heading g) := by
    cases trace with
    | false => cases h
    | true => exact List.mem_singleton.1 h
  have hvisits (trail : List Nat) : e ∉ trail.flatMap (s.visitEvents g) := by
    intro h
    obtain ⟨n, _, hn⟩ := List.mem_flatMap.1 h
    obtain ⟨offset, rfl⟩ := eq_of_mem_visitEvents hn
    cases ht
  rw [check] at he
  cases hsolve : s.solve g with
  | error failure =>
      simp only [hsolve, List.mem_append, hvisits, or_false] at he
      rcases he with he | he
      · exact .inl (hopening he)
      · obtain ⟨offset, rfl⟩ := eq_of_mem_failureEvents he
        cases ht
  | ok sol =>
      simp only [hsolve, List.mem_append, hvisits, or_false, List.mem_singleton] at he
      rcases he with (he | he) | rfl
      · exact .inl (hopening he)
      · obtain ⟨n, hn, he⟩ := List.mem_flatMap.1 he
        exact .inr (shows_of_mem_reportEvents hg hsolve (List.mem_filter.1 hn).2 he ht)
      · have hexit : g.nodes[Graph.exit]? = some .exit := by
          rw [Graph.eq_assemble hg]
          rfl
        obtain ⟨fact, hf⟩ := solve_fact hg hsolve hexit
        exact .inr ⟨fact, .exit hsolve hf⟩

theorem mem_log_of_report {sol : Solution} (h : s.solve g = .ok sol) {n : Nat} {node : Node}
    (hn : sol.reached n) (hnode : g.nodes[n]? = some node)
    (he : e ∈ s.reportEvents g true sol.facts n) : e ∈ (s.check g true).log := by
  have hlt : n < g.nodes.length := (List.getElem?_eq_some_iff.1 hnode).1
  have hmem : n ∈ (List.range g.nodes.length).filter sol.reached :=
    List.mem_filter.2 ⟨List.mem_range.2 hlt, hn⟩
  rw [check, h]
  exact List.mem_append_left _ (List.mem_append_right _ (List.mem_flatMap.2 ⟨n, hmem, he⟩))

theorem Shows.mem_log (h : s.Shows g e f) : e ∈ (s.check g true).log := by
  cases h with
  | block h hn hb hf =>
      exact mem_log_of_report h hn hb ((mem_reportEvents hb hf rfl).2 (.inl rfl))
  | step h hn hb hf hi hk =>
      exact mem_log_of_report h hn hb ((mem_reportEvents hb hf rfl).2 (.inr ⟨_, _, _, hi, hk, rfl⟩))
  | exit h hf =>
      rw [check, h]
      exact List.mem_append_right _ List.mem_cons_self

end Scope

namespace Frame

/-- What can be told from a text: the frame of which it is the text, and the frame that an event
which reads so writes out. Besides such events there are only the headings of traces, which read
otherwise. -/
structure TextTells (text : String) : Prop where
  frames : ∀ f f' : Frame, f.Kept f.shape → f'.Kept f'.shape → f.stack.length = f'.stack.length →
    f.text = text → f'.text = text → f = f'
  events : ∀ (s s' : Scope) (g g' : Graph) (e e' : Event) (f f' : Frame),
    Graph.ofBody s.body = .ok g → Graph.ofBody s'.body = .ok g' → s.Shows g e f →
    s'.Shows g' e' f' → e.frameText? = some text → e'.frameText? = some text →
    f.held = f'.held ∧ (s.body.maxStack = s'.body.maxStack → f = f')
  logged : ∀ (s : Scope) (g : Graph) (trace : Bool), Graph.ofBody s.body = .ok g →
    ∀ e ∈ (s.check g trace).log, e.frameText? = some text →
      e = .trace (s.heading g) ∨ ∃ f, s.Shows g e f
  shown : ∀ (s : Scope) (g : Graph) (e : Event) (f : Frame), s.Shows g e f →
    e.frameText? = some text → e ∈ (s.check g true).log ∧ ∀ (s' : Scope) g', text ≠ s'.heading g'

theorem text_identifies (text : String) : TextTells text where
  frames f f' hf hf' hstack ht ht' := by
    have heq : "" ++ f.text = "" ++ f'.text := by rw [ht, ht']
    exact hf.eq_of_held hf' hstack (append_text_inj heq).2
  events s s' g g' e e' f f' hg hg' h h' ht ht' := by
    obtain ⟨lead, hlead⟩ := h.text_eq
    obtain ⟨lead', hlead'⟩ := h'.text_eq
    have heq : lead ++ f.text = lead' ++ f'.text :=
      Option.some.inj ((hlead.symm.trans ht).trans (ht'.symm.trans hlead'))
    have hheld := (append_text_inj heq).2
    have hkept := h.kept hg
    have hkept' := h'.kept hg'
    refine ⟨hheld, fun hmax => hkept.eq_of_held hkept' ?_ hheld⟩
    exact (congrArg Shape.stack hkept.shape).trans
      (hmax.trans (congrArg Shape.stack hkept'.shape).symm)
  logged s g trace hg e he ht := Scope.shows_of_mem_log hg he ht
  shown s g e f h ht := by
    refine ⟨h.mem_log, fun s' g' heq => ?_⟩
    obtain ⟨lead, hlead⟩ := h.text_eq
    exact s'.heading_ne g' lead f (heq.symm.trans (Option.some.inj (ht.symm.trans hlead)))

def quoting : Scope where
  owner := "Sample.Widget"
  method := ⟨"Quote", ⟨"System.Void", true⟩, false, [⟨"value", ⟨"System.Object", false⟩, []⟩], [],
    none⟩
  body := {
    maxStack := 1
    locals := [⟨"System.Object", false⟩]
    instructions := [⟨0, .ldstr, .string "] args [V]"⟩, ⟨1, .pop, .none⟩, ⟨2, .ret, .none⟩]
    handlers := [] }
  contracts := .empty

def quotingGraph : Graph := Graph.assemble quoting.body

def quotingSolution : Solution where
  facts := [⟨[.unused], 0, [.null], [.unknown]⟩, ⟨[.unused], 0, [.null], [.unknown]⟩,
    ⟨[.unused], 0, [.null], [.unknown]⟩]
  trail := [1, 2, 0]
  findings := []

def quotingLine : String := "  IL_0000: ldstr \"] args [V]\" -> [V] locals [N] args [?]"

theorem quoting_text_identifies : Graph.ofBody quoting.body = .ok quotingGraph ∧
    quoting.solve quotingGraph = .ok quotingSolution ∧
    .trace quotingLine ∈ (quoting.check quotingGraph true).log ∧
    ∀ e f, quoting.Shows quotingGraph e f → e.frameText? = some quotingLine →
      f = ⟨[.nonNull], 1, [.null], [.unknown]⟩ := by
  have hsolve : quoting.solve quotingGraph = .ok quotingSolution := rfl
  have hline : "  " ++ (⟨0, .ldstr, .string "] args [V]"⟩ : Instruction).text ++ " -> " ++
      (⟨[.nonNull], 1, [.null], [.unknown]⟩ : Frame).text = quotingLine := by decide +kernel
  have hshows : quoting.Shows quotingGraph (.trace quotingLine)
      ⟨[.nonNull], 1, [.null], [.unknown]⟩ :=
    hline ▸ .step (n := 2) (k := 0) hsolve rfl rfl rfl rfl rfl
  obtain ⟨_, hevents, _, hshown⟩ := text_identifies quotingLine
  refine ⟨rfl, hsolve, (hshown _ _ _ _ hshows rfl).1, fun e f h he => ?_⟩
  exact (hevents _ _ _ _ _ _ _ _ rfl rfl h hshows he rfl).2 rfl

end Frame

end NullFlow
