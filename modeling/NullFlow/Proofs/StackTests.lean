import NullFlow.Proofs.StepEffect

namespace NullFlow

inductive Test where
  | flow (sink : Sink)
  | receiver
  deriving DecidableEq

def Test.issues (operand : Operand) : Test → Nullity → List Issue
  | .flow sink, v => Issue.ofFlow sink v
  | .receiver, v => Issue.ofReceiver operand v

/-- A test of the value `offset` slots below the top of the stack. -/
structure Probe where
  test : Test
  offset : Nat
  deriving DecidableEq

def Probe.lower (p : Probe) (count : Nat) : Probe := { p with offset := p.offset + count }

/-- The probes find a value each, and these are the answers to all of them together. -/
inductive Probed (answer : Test → Nullity → List Issue) (f : Frame) : List Probe → List Issue → Prop
  | nil : Probed answer f [] []
  | cons {p : Probe} {v : Nullity} {probes : List Probe} {issues : List Issue}
      (hv : f.peek p.offset = .ok v) (hrest : Probed answer f probes issues) :
      Probed answer f (p :: probes) (answer p.test v ++ issues)

namespace Probed

variable {answer answer' : Test → Nullity → List Issue} {f g : Frame} {p : Probe}
  {probes probes' : List Probe} {issues issues' : List Issue}

theorem one {v : Nullity} (hv : f.peek p.offset = .ok v) :
    Probed answer f [p] (answer p.test v) := by
  have h := Probed.cons hv (.nil : Probed answer f [] [])
  rwa [List.append_nil] at h

theorem append (h : Probed answer f probes issues) (h' : Probed answer f probes' issues') :
    Probed answer f (probes ++ probes') (issues ++ issues') := by
  induction h with
  | nil => exact h'
  | cons hv _ ih =>
      rw [List.cons_append, List.append_assoc]
      exact .cons hv ih

/-- The probes of a frame from which values were popped go deeper in the frame as it was. -/
theorem shift {count : Nat}
    (hpeek : ∀ offset v, g.peek offset = .ok v → f.peek (offset + count) = .ok v)
    (h : Probed answer g probes issues) :
    Probed answer f (probes.map (·.lower count)) issues := by
  induction h with
  | nil => exact .nil
  | cons hv _ ih => exact .cons (hpeek _ _ hv) ih

theorem found (h : Probed answer f probes issues) (hp : p ∈ probes) :
    ∃ v, f.peek p.offset = .ok v ∧ answer p.test v ⊆ issues := by
  induction h with
  | nil => cases hp
  | cons hv _ ih =>
      rcases List.mem_cons.1 hp with rfl | hp
      · exact ⟨_, hv, List.subset_append_left _ _⟩
      · obtain ⟨v, hv, hsub⟩ := ih hp
        exact ⟨v, hv, List.subset_append_of_subset_right _ hsub⟩

theorem congr (h : Probed answer f probes issues)
    (ha : ∀ p ∈ probes, ∀ v, f.peek p.offset = .ok v → answer p.test v = answer' p.test v) :
    Probed answer' f probes issues := by
  induction h with
  | nil => exact .nil
  | cons hv _ ih =>
      rw [ha _ List.mem_cons_self _ hv]
      exact .cons hv (ih fun p hp => ha p (List.mem_cons_of_mem _ hp))

end Probed

namespace Scope

variable {s : Scope} {i : Instruction} {f f' : Frame} {issues : List Issue}

/-- The tests of the lowest `count` arguments, which lie on the stack in their order and are popped
from the last to the first. -/
def argumentProbes (s : Scope) (callee : String) (count : Nat) : List Probe :=
  ((List.range count).reverse.filter (s.contracts.parameter callee)).map fun index =>
    ⟨.flow .argument, count - 1 - index⟩

def callProbes (s : Scope) (callee : MethodRef) (indirect : Bool) : List Probe :=
  let receiver := if callee.hasThis then [Probe.mk .receiver callee.parameters.length] else []
  (s.argumentProbes callee.fullName callee.parameters.length ++ receiver).map
    (·.lower indirect.toNat)

/-- The tests an instruction makes, in the order of their reports. -/
def probes (s : Scope) (i : Instruction) : List Probe :=
  match i.opcode.effect with
  | .call indirect =>
    match i.methodRef with
    | .ok callee => s.callProbes callee indirect
    | .error _ => []
  | .ret =>
    if !s.method.returnType.isVoid && s.contracts.method s.fullName then [⟨.flow .result, 0⟩]
    else []
  | .loadField | .addressField => [⟨.receiver, 0⟩]
  | .storeField => ⟨.receiver, 1⟩ :: stored
  | .storeStatic => stored
  | _ => []
where
  stored : List Probe :=
    match i.fieldRef with
    | .ok ref => if s.contracts.field ref.fullName then [⟨.flow .field, 0⟩] else []
    | .error _ => []

theorem argumentProbes_succ (s : Scope) (callee : String) (index : Nat) :
    s.argumentProbes callee (index + 1) =
      (if s.contracts.parameter callee index then [⟨.flow .argument, 0⟩] else []) ++
        (s.argumentProbes callee index).map (·.lower 1) := by
  have hdeeper : ((List.range index).reverse.filter (s.contracts.parameter callee)).map
        (fun k => (⟨.flow .argument, index - k⟩ : Probe)) =
      (s.argumentProbes callee index).map (·.lower 1) := by
    rw [argumentProbes, List.map_map]
    refine List.map_congr_left fun k hk => ?_
    have hlt : k < index := by simpa using (List.mem_filter.1 hk).1
    simp only [Function.comp, Probe.lower, Probe.mk.injEq, true_and]
    omega
  rw [argumentProbes, List.range_succ, List.reverse_append, List.reverse_singleton,
    List.singleton_append, List.filter_cons, ← hdeeper]
  split <;> simp

theorem mem_callProbes {callee : MethodRef} {indirect : Bool} {index : Nat}
    (hlt : index < callee.parameters.length) (hc : s.contracts.parameter callee.fullName index) :
    ⟨.flow .argument, callee.parameters.length - 1 - index + indirect.toNat⟩ ∈
      s.callProbes callee indirect := by
  simp only [callProbes, List.map_append, List.mem_append, argumentProbes, List.map_map,
    List.mem_map, List.mem_filter, List.mem_reverse, List.mem_range]
  exact .inl ⟨index, ⟨hlt, hc⟩, rfl⟩

theorem popArguments_probed {operand : Operand} {callee : String} {count : Nat}
    (h : s.popArguments callee count f = .ok (f', issues)) :
    Probed (Test.issues operand) f (s.argumentProbes callee count) issues := by
  induction count generalizing f issues with
  | zero =>
      cases h
      exact .nil
  | succ index ih =>
      simp only [popArguments, bind_eq_ok, pure_eq_ok, Prod.exists, Prod.mk.injEq] at h
      obtain ⟨v, _, hp, _, rest, ha, rfl, rfl⟩ := h
      obtain ⟨hv, rfl⟩ := Frame.pop_eq_ok.1 hp
      have hrest := (ih ha).shift fun _ _ => Frame.peek_dropTop
      rw [argumentProbes_succ]
      refine Probed.append ?_ hrest
      split
      · exact .one (p := ⟨.flow .argument, 0⟩) hv
      · exact .nil

theorem popReceiver_probed {callee : MethodRef} {operand : Operand}
    (h : popReceiver callee operand f = .ok (f', issues)) :
    Probed (Test.issues operand) f (if callee.hasThis then [⟨.receiver, 0⟩] else []) issues := by
  unfold popReceiver at h
  split at h
  · rename_i hthis
    simp only [bind_eq_ok, pure_eq_ok, Prod.exists, Prod.mk.injEq] at h
    obtain ⟨v, _, hp, _, rfl⟩ := h
    rw [if_pos hthis]
    exact .one (p := ⟨.receiver, 0⟩) (Frame.pop_eq_ok.1 hp).1
  · rename_i hthis
    cases h
    rw [if_neg hthis]
    exact .nil

theorem call_probed {indirect : Bool} (h : s.call i indirect f = .ok (f', issues)) :
    ∃ callee, i.methodRef = .ok callee ∧
      Probed (Test.issues i.operand) f (s.callProbes callee indirect) issues := by
  simp only [call, bind_eq_ok, onFrame_eq_ok, pure_eq_ok, Prod.exists, Prod.mk.injEq] at h
  obtain ⟨callee, hm, f₁, h₁, f₂, arguments, h₂, f₃, receiver, h₃, _, _, _, rfl⟩ := h
  refine ⟨callee, hm, Probed.shift (fun _ _ => popPointer_peek h₁) ?_⟩
  refine (popArguments_probed h₂).append ?_
  have hreceiver := (popReceiver_probed h₃).shift fun _ _ => popArguments_peek h₂
  cases hthis : callee.hasThis with
  | true => simpa [hthis, Probe.lower] using hreceiver
  | false => simpa [hthis] using hreceiver

theorem fieldStore_probed {ref : FieldRef} {v : Nullity} (operand : Operand)
    (hv : f.peek 0 = .ok v) :
    Probed (Test.issues operand) f
      (if s.contracts.field ref.fullName then [⟨.flow .field, 0⟩] else [])
      (s.fieldStore ref v) := by
  unfold fieldStore
  split
  · exact .one (p := ⟨.flow .field, 0⟩) hv
  · exact .nil

theorem step_probed (h : s.step i f = .ok (f', issues)) :
    Probed (Test.issues i.operand) f (s.probes i) issues := by
  unfold step at h
  unfold probes
  cases he : i.opcode.effect <;>
    simp only [he, bind_eq_ok, onFrame_eq_ok, pure_eq_ok, Prod.exists, Prod.mk.injEq] at h ⊢
  case none | clear =>
    cases h
    exact .nil
  case push v | pop count =>
    obtain ⟨_, _, _, rfl⟩ := h
    exact .nil
  case replace count v | dup | loadStatic | addressStatic =>
    obtain ⟨_, _, _, _, _, rfl⟩ := h
    exact .nil
  -- The arguments of a construction are popped together, and none of them is tested.
  case loadArg choice | loadLocal choice | addressArg | addressLocal | construct =>
    obtain ⟨_, _, _, _, _, _, _, rfl⟩ := h
    exact .nil
  case storeArg | storeLocal choice =>
    obtain ⟨_, _, _, _, _, _, _, _, rfl⟩ := h
    exact .nil
  case call indirect =>
    obtain ⟨callee, hm, hprobed⟩ := call_probed h
    rw [hm]
    exact hprobed
  case ret =>
    split at h
    · rename_i hvoid
      cases h
      simpa [hvoid] using Probed.nil
    · rename_i hvoid
      simp only [bind_eq_ok, onFrame_eq_ok, pure_eq_ok, Prod.exists, Prod.mk.injEq] at h
      obtain ⟨v, _, hp, _, rfl⟩ := h
      simp only [hvoid, Bool.not_false, Bool.true_and]
      split
      · exact .one (p := ⟨.flow .result, 0⟩) (Frame.pop_eq_ok.1 hp).1
      · exact .nil
  case loadField | addressField =>
    obtain ⟨_, _, v, _, hp, _, _, _, rfl⟩ := h
    exact .one (p := ⟨.receiver, 0⟩) (Frame.pop_eq_ok.1 hp).1
  case storeField =>
    obtain ⟨ref, hf, v, _, hp, receiver, _, hp', rfl, rfl⟩ := h
    obtain ⟨hv, rfl⟩ := Frame.pop_eq_ok.1 hp
    have hreceiver := Frame.peek_dropTop (Frame.pop_eq_ok.1 hp').1
    rw [probes.stored, hf]
    exact .cons (p := ⟨.receiver, 1⟩) hreceiver (fieldStore_probed i.operand hv)
  case storeStatic =>
    obtain ⟨ref, hf, v, _, hp, _, rfl⟩ := h
    rw [probes.stored, hf]
    exact fieldStore_probed i.operand (Frame.pop_eq_ok.1 hp).1

end Scope

end NullFlow
