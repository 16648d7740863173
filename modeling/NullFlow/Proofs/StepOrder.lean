import NullFlow.Proofs.HandlerStack
import NullFlow.Proofs.StackTests

namespace NullFlow

namespace Frame

variable {f g : Frame} {values values' : List Nullity}

theorem Stacks.fits (h : f.Stacks values) : f.depth ≤ f.stack.length := by
  rw [h.1, h.2]
  simp

theorem Stacks.free (h : f.Stacks values) {i : Nat} (hi : f.depth ≤ i) :
    f.stack.getD i .unused = .unused := by
  have hd := h.1
  rw [h.2]
  grind

theorem Stacks.rel (hf : f.Stacks values) (hg : g.Stacks values') (hs : f.shape = g.shape)
    (hd : f.depth = g.depth) (hle : f ≤ g) : Rel f.shape (· ≤ ·) f g := by
  obtain ⟨_, hst, hl, ha⟩ := le_iff.1 hle
  refine ⟨rfl, hs.symm, hd, hf.fits, ?_, ?_, hl, ha⟩
  · intro i _
    exact Slots.getD_le hst i
  · intro i hi
    exact ⟨hf.free hi, hg.free (hd ▸ hi)⟩

end Frame

def Probe.report (operand : Operand) (f : Frame) (p : Probe) : List Issue :=
  match f.peek p.offset with
  | .ok v => p.test.issues operand v
  | .error _ => []

theorem Probe.report_eq {operand : Operand} {f : Frame} {p : Probe} {v : Nullity}
    (hv : f.peek p.offset = .ok v) : p.report operand f = p.test.issues operand v := by
  rw [report, hv]

theorem Probed.eq_flatMap {operand : Operand} {f : Frame} {probes : List Probe}
    {issues : List Issue} (h : Probed (Test.issues operand) f probes issues) :
    issues = probes.flatMap (·.report operand f) := by
  induction h with
  | nil => rfl
  | cons hv _ ih => rw [List.flatMap_cons, Probe.report_eq hv, ← ih]

/-- A report on one value, and the report on a value that more is possible of: the first is empty,
or is made again, or is softened to what may be. -/
def Sink.Softens (sink : Sink) (lesser greater : List Issue) : Prop :=
  lesser = [] ∨ greater = lesser ∨
    lesser = [.nullInto sink] ∧ greater = [.maybeNullInto sink]

theorem Issue.ofFlow_softens {v w : Nullity} (h : v ≤ w) (sink : Sink) :
    sink.Softens (ofFlow sink v) (ofFlow sink w) := by
  cases v with
  | unused | nonNull => exact .inl rfl
  | null => cases w with
    | null => exact .inr (.inl rfl)
    | unknown => exact .inr (.inr ⟨rfl, rfl⟩)
    | unused | nonNull => exact absurd h (by decide)
  | unknown => cases w with
    | unknown => exact .inr (.inl rfl)
    | unused | null | nonNull => exact absurd h (by decide)

namespace Scope

variable {s : Scope} {i : Instruction} {f g : Frame} {sh : Shape}

theorem receiverOffset_of_mem_probes {p : Probe} (hp : p ∈ s.probes i) (ht : p.test = .receiver) :
    i.receiverOffset? = some p.offset := by
  have stored : p ∉ probes.stored s i := by
    intro hp
    unfold probes.stored at hp
    split at hp
    · split at hp
      · cases List.mem_singleton.1 hp
        cases ht
      · cases hp
    · cases hp
  unfold probes at hp
  unfold Instruction.receiverOffset?
  cases he : i.opcode.effect <;> simp only [he] at hp ⊢
  case call indirect =>
    cases hm : i.methodRef with
    | error e => simp [hm] at hp
    | ok callee =>
        simp only [hm, callProbes, List.map_append, List.mem_append, List.mem_map] at hp
        rcases hp with ⟨q, hq, rfl⟩ | ⟨q, hq, rfl⟩
        · obtain ⟨index, _, rfl⟩ := List.mem_map.1 hq
          cases ht
        · cases hthis : callee.hasThis with
          | true =>
              simp only [hthis, if_true, List.mem_singleton] at hq
              simp [hq, hthis, Probe.lower]
          | false => simp [hthis] at hq
  case ret =>
    split at hp
    · cases List.mem_singleton.1 hp
      cases ht
    · cases hp
  case loadField | addressField =>
    cases List.mem_singleton.1 hp
    rfl
  case storeField =>
    rcases List.mem_cons.1 hp with rfl | hp
    · rfl
    · exact absurd hp stored
  case storeStatic => exact absurd hp stored
  all_goals cases hp

theorem matching_below (s : Scope) : s.Matching s (· ≤ ·) (fun _ _ => True) where
  method := rfl
  body := rfl
  same _ _ := le_rfl
  fieldValue _ := le_rfl
  callResult _ := le_rfl
  nil := trivial
  append _ _ := trivial
  receiver _ _ _ _ := trivial
  argument _ _ _ _ _ := trivial
  fieldStore _ _ _ _ := trivial
  result _ := trivial

/-- What an instruction makes of two frames of one shape: frames of that shape with stacks of one
depth, the first below the second, and the reports of the same tests. -/
structure Monotone (s : Scope) (i : Instruction) (f g : Frame) (a b : Frame × List Issue) :
    Prop where
  shape : a.1.shape = f.shape ∧ b.1.shape = f.shape
  depth : a.1.depth = b.1.depth
  below : a.1 ≤ b.1
  lesser : a.2 = (s.probes i).flatMap (·.report i.operand f)
  greater : b.2 = (s.probes i).flatMap (·.report i.operand g)
  contracts : ∀ p ∈ s.probes i, ∀ sink, p.test = .flow sink →
    sink.Softens (p.report i.operand f) (p.report i.operand g)
  receiver : ∀ member, .nullReceiver member ∈ b.2 →
    .nullReceiver member ∈ a.2 ∨ i.receiver? f = some .unused

theorem probe_values (h : f.Rel sh (· ≤ ·) g) {p : Probe} {issues : List Issue}
    {probes : List Probe} {answer : Test → Nullity → List Issue}
    (hf : Probed answer f probes issues) (hp : p ∈ probes) :
    ∃ v w, f.peek p.offset = .ok v ∧ g.peek p.offset = .ok w ∧ v ≤ w := by
  obtain ⟨v, hv, _⟩ := hf.found hp
  obtain ⟨w, hw, hle⟩ := (h.peek p.offset).ok_left hv
  exact ⟨v, w, hv, hw, hle⟩

theorem report_receiver {p : Probe} {v w : Nullity} {member : Member} (hp : p ∈ s.probes i)
    (hv : f.peek p.offset = .ok v) (hw : g.peek p.offset = .ok w) (hle : v ≤ w)
    (hm : .nullReceiver member ∈ p.report i.operand g) :
    .nullReceiver member ∈ p.report i.operand f ∨ i.receiver? f = some .unused := by
  rw [Probe.report_eq hw] at hm
  cases ht : p.test with
  | flow sink =>
      rw [ht] at hm
      exact absurd hm (nullReceiver_notMem_flow member sink w true)
  | receiver =>
      rw [ht] at hm
      by_cases hnull : w = .null
      · subst hnull
        by_cases hu : v = .unused
        · right
          rw [Instruction.receiver?, receiverOffset_of_mem_probes hp ht, Option.bind_some, hv, hu]
          rfl
        · left
          rw [Nullity.eq_null_of_le hle hu] at hv
          rwa [Probe.report_eq hv, ht]
      · simp [Test.issues, Issue.ofReceiver, hnull] at hm

theorem step_monotone {values values' : List Nullity} (hf : f.Stacks values)
    (hg : g.Stacks values') (hshape : f.shape = g.shape) (hdepth : f.depth = g.depth)
    (hle : f ≤ g) : Agree (s.Monotone i f g) (s.step i f) (s.step i g) := by
  have hrel := hf.rel hg hshape hdepth hle
  refine (s.matching_below.step i hrel).attach.imp ?_
  rintro a b ⟨hx, hy, hout, -⟩
  have ha := step_probed hx
  have hb := step_probed hy
  refine ⟨⟨hout.left, hout.right⟩, hout.depth, hout.below fun _ _ h => h, ha.eq_flatMap,
    hb.eq_flatMap, ?_, ?_⟩
  · intro p hp sink ht
    obtain ⟨v, w, hv, hw, hvw⟩ := probe_values hrel ha hp
    rw [Probe.report_eq hv, Probe.report_eq hw, ht]
    exact Issue.ofFlow_softens hvw sink
  · intro member hm
    rw [hb.eq_flatMap] at hm
    obtain ⟨p, hp, hm⟩ := List.mem_flatMap.1 hm
    obtain ⟨v, w, hv, hw, hvw⟩ := probe_values hrel ha hp
    refine (report_receiver hp hv hw hvw hm).imp_left fun hm => ?_
    rw [ha.eq_flatMap]
    exact List.mem_flatMap.2 ⟨p, hp, hm⟩

def refillMethod : MethodRef :=
  ⟨"Sample.Shelf", "Refill", true, [⟨"System.String", false⟩, ⟨"System.Object", false⟩],
    ⟨"System.Object", false⟩, false⟩

def refill : Scope where
  owner := "Sample.Shelf"
  method := ⟨"Run", ⟨"System.Void", true⟩, false, [], [], none⟩
  body := ⟨3, [⟨"System.Object", false⟩], [⟨0, .callvirt, .method refillMethod⟩], []⟩
  contracts := ⟨[],
    ["System.Object Sample.Shelf::Refill(System.String,System.Object)/0",
     "System.Object Sample.Shelf::Refill(System.String,System.Object)/1"], []⟩

theorem refill_monotone :
    let i : Instruction := ⟨0, .callvirt, .method refillMethod⟩
    let f : Frame := ⟨[.unused, .null, .nonNull], 3, [.null], []⟩
    let g : Frame := ⟨[.null, .unknown, .unknown], 3, [.unknown], []⟩
    f.Stacks f.stack ∧ g.Stacks g.stack ∧ f.shape = g.shape ∧ f.depth = g.depth ∧ f ≤ g ∧
    ∃ a b, refill.step i f = .ok a ∧ refill.step i g = .ok b ∧ refill.Monotone i f g a b ∧
      a.2 = [.nullInto .argument] ∧
      b.2 = [.maybeNullInto .argument, .maybeNullInto .argument,
        .nullReceiver (.method "Refill")] := by
  intro i f g
  have hf : f.Stacks f.stack := ⟨rfl, rfl⟩
  have hg : g.Stacks g.stack := ⟨rfl, rfl⟩
  have hle : f ≤ g := rfl
  have hx : refill.step i f = .ok (⟨[.unknown, .unused, .unused], 1, [.null], []⟩,
    [.nullInto .argument]) := by decide +kernel
  obtain ⟨b, hy, hmono⟩ := (step_monotone hf hg rfl rfl hle).ok_left hx
  refine ⟨hf, hg, rfl, rfl, hle, _, b, hx, hy, hmono, rfl, ?_⟩
  rw [hmono.greater]
  decide +kernel

end Scope

end NullFlow
