import Mathlib.Data.List.Induction
import NullFlow.Proofs.StepEffect

namespace NullFlow

namespace Frame

variable {f : Frame} {values : List Nullity} {v : Nullity}

structure Carries (f : Frame) (values : List Nullity) : Prop where
  depth : f.depth = values.length
  stack : values <+: f.stack

theorem Carries.fits (h : f.Carries values) : f.depth ≤ f.stack.length :=
  h.depth ▸ h.stack.length_le

theorem Carries.pop (h : f.Carries (values ++ [v])) :
    f.pop = .ok (v, f.dropTop) ∧ f.dropTop.Carries values := by
  obtain ⟨rest, hst⟩ := h.stack
  have hd : f.depth = values.length + 1 := by simpa using h.depth
  refine ⟨pop_eq_ok.2 ⟨peek_eq_ok.2 ⟨by omega, ?_⟩, rfl⟩, ⟨by simp [dropTop, hd], ?_⟩⟩
  · simp [← hst, hd]
  · refine ⟨.unused :: rest, ?_⟩
    simp [dropTop, ← hst, hd]

theorem Carries.push (h : f.Carries values) (hroom : f.depth < f.stack.length) :
    ∃ f', f.push v = .ok f' ∧ f'.Carries (values ++ [v]) := by
  obtain ⟨rest, hst⟩ := h.stack
  refine ⟨_, if_pos hroom, by simp [h.depth], ?_⟩
  cases rest with
  | nil =>
      rw [List.append_nil] at hst
      exact absurd hroom (by rw [h.depth, hst]; omega)
  | cons w rest => exact ⟨rest, by simp [h.depth, ← hst]⟩

/-- What comes of taking `count` values off a stack of this depth: it has them, or runs empty at one
of them. -/
inductive Took {α : Type} (out : α → Frame) (count depth : Nat) : Except FrameError α → Prop
  | short (h : depth < count) : Took out count depth (.error (.stackUnderflow 1 0))
  | done {a : α} (h : (out a).depth + count = depth) : Took out count depth (.ok a)

theorem pop_took (f : Frame) : Took Prod.snd 1 f.depth f.pop := by
  by_cases hd : 0 < f.depth
  · have hpop := pop_eq_ok.2 ⟨peek_eq_ok.2 ⟨hd, rfl⟩, rfl⟩
    rw [hpop]
    exact .done (Nat.sub_add_cancel hd)
  · have hpop : f.pop = .error (.stackUnderflow 1 0) := by
      simp [pop, peek, Nat.eq_zero_of_not_pos hd, bind, Except.bind]
    rw [hpop]
    exact .short (by omega)

theorem Took.bind {α β : Type} {out : α → Frame} {out' : β → Frame} {count count' depth : Nat}
    {x : Except FrameError α} {k : α → Except FrameError β} (h : Took out count depth x)
    (hk : ∀ a, Took out' count' (out a).depth (k a)) :
    Took out' (count + count') depth (x >>= k) := by
  cases h with
  | short h => exact .short (by omega)
  | done h =>
      rename_i a
      have hy := hk a
      show Took out' (count + count') depth (k a)
      generalize k a = y at hy
      cases hy with
      | short h' => exact .short (by omega)
      | done h' => exact .done (by omega)

theorem Took.map {α β : Type} {out : α → Frame} {out' : β → Frame} {count depth : Nat}
    {x : Except FrameError α} {k : α → β} (h : Took out count depth x)
    (hk : ∀ a, out' (k a) = out a) : Took out' count depth (do return k (← x)) := by
  cases h with
  | short h => exact .short h
  | done h => exact .done (by rwa [hk])

theorem Took.bind_underflow {α β : Type} {out : α → Frame} {count count' depth : Nat}
    {x : Except FrameError α} {k : α → Except FrameError β} (h : Took out count depth x)
    (hk : ∀ a, (out a).depth < count' → k a = .error (.stackUnderflow 1 0))
    (hlt : depth < count + count') : x >>= k = .error (.stackUnderflow 1 0) := by
  cases h with
  | short h => rfl
  | done h => exact hk _ (by omega)

theorem pop_length {f' : Frame} (h : f.pop = .ok (v, f')) : f'.stack.length = f.stack.length := by
  obtain ⟨_, rfl⟩ := pop_eq_ok.1 h
  simp [dropTop]

end Frame

/-- What a call finds above the values it leaves alone. -/
def MethodRef.passed (callee : MethodRef) (indirect : Bool) (receiver : Nullity)
    (arguments : List Nullity) (pointer : Nullity) : List Nullity :=
  (if callee.hasThis then [receiver] else []) ++ arguments ++ if indirect then [pointer] else []

def MethodRef.takes (callee : MethodRef) (indirect : Bool) : Nat :=
  callee.hasThis.toNat + callee.parameters.length + indirect.toNat

theorem MethodRef.passed_length {callee : MethodRef} {indirect : Bool} {receiver pointer : Nullity}
    {arguments : List Nullity} (h : arguments.length = callee.parameters.length) :
    (callee.passed indirect receiver arguments pointer).length = callee.takes indirect := by
  cases indirect <;> cases hthis : callee.hasThis <;> simp [passed, takes, hthis, h] <;> omega

namespace Scope

variable {s : Scope} {i : Instruction} {callee : MethodRef} {indirect : Bool} {f : Frame}
  {base arguments : List Nullity} {receiver pointer : Nullity}

def argumentReport (s : Scope) (callee : String) (index : Nat) (v : Nullity) : List Issue :=
  if s.contracts.parameter callee index then
    if v = .null then [.nullInto .argument]
    else if v = .unknown then [.maybeNullInto .argument]
    else []
  else []

def argumentReports (s : Scope) (callee : String) (arguments : List Nullity) : List Issue :=
  arguments.zipIdx.reverse.flatMap fun (v, index) => s.argumentReport callee index v

def callReports (s : Scope) (callee : MethodRef) (arguments : List Nullity) (receiver : Nullity) :
    List Issue :=
  s.argumentReports callee.fullName arguments ++
    if callee.hasThis ∧ receiver = .null then [.nullReceiver (.ofMethodName callee.name)] else []

def returned? (s : Scope) (callee : MethodRef) : Option Nullity :=
  if callee.returnType.fullName = "System.Void" then none
  else if callee.returnType.isValueType ∨ callee.unresolved ∨
      s.contracts.method callee.fullName then some .nonNull
  else some .unknown

theorem argumentReport_eq (s : Scope) (name : String) (index : Nat) (v : Nullity) :
    s.argumentReport name index v =
      if s.contracts.parameter name index then Issue.ofFlow .argument v else [] := by
  cases v <;> rfl

theorem argumentReports_concat (s : Scope) (name : String) (arguments : List Nullity)
    (v : Nullity) :
    s.argumentReports name (arguments ++ [v]) =
      s.argumentReport name arguments.length v ++ s.argumentReports name arguments := by
  simp [argumentReports, List.zipIdx_append]

/-- The loop over the parameters: the induction is on the arguments from the last one down. -/
theorem popArguments_carried (s : Scope) (name : String) (h : f.Carries (base ++ arguments)) :
    ∃ f', s.popArguments name arguments.length f = .ok (f', s.argumentReports name arguments) ∧
      f'.Carries base ∧ f'.stack.length = f.stack.length := by
  induction arguments using List.reverseRecOn generalizing f with
  | nil => exact ⟨f, rfl, by simpa using h, rfl⟩
  | append_singleton arguments v ih =>
      rw [← List.append_assoc] at h
      obtain ⟨hpop, hrest⟩ := h.pop
      obtain ⟨f', hargs, hbase, hlen⟩ := ih hrest
      refine ⟨f', ?_, hbase, hlen.trans (Frame.pop_length hpop)⟩
      rw [List.length_append, List.length_singleton, argumentReports_concat, argumentReport_eq]
      simp only [popArguments, bind_eq_ok, pure_eq_ok, Prod.exists, Prod.mk.injEq]
      exact ⟨v, _, hpop, f', _, hargs, rfl, rfl⟩

theorem popPointer_carried (h : f.Carries (base ++ if indirect then [pointer] else [])) :
    ∃ f', popPointer indirect f = .ok f' ∧ f'.Carries base ∧ f'.stack.length = f.stack.length := by
  cases indirect with
  | false => exact ⟨f, rfl, by simpa using h, rfl⟩
  | true =>
      obtain ⟨hpop, hbase⟩ := Frame.Carries.pop h
      have hdepth : 1 ≤ f.depth := (Frame.peek_eq_ok.1 (Frame.pop_eq_ok.1 hpop).1).1
      exact ⟨f.dropTop, if_pos hdepth, hbase, Frame.pop_length hpop⟩

theorem popReceiver_carried {operand : Operand}
    (hm : operand = .method callee ∨ operand = .signature callee)
    (h : f.Carries (base ++ if callee.hasThis then [receiver] else [])) :
    ∃ f', popReceiver callee operand f = .ok (f',
        if callee.hasThis ∧ receiver = .null then [.nullReceiver (.ofMethodName callee.name)]
        else []) ∧
      f'.Carries base ∧ f'.stack.length = f.stack.length := by
  unfold popReceiver
  cases hthis : callee.hasThis with
  | false => exact ⟨f, by simp, by simpa [hthis] using h, rfl⟩
  | true =>
      rw [hthis] at h
      obtain ⟨hpop, hbase⟩ := Frame.Carries.pop h
      refine ⟨f.dropTop, ?_, hbase, Frame.pop_length hpop⟩
      have hmember : Member.ofOperand? operand = some (.ofMethodName callee.name) := by
        rcases hm with rfl | rfl <;> rfl
      simp [hpop, bind, Except.bind, pure, Except.pure, Issue.ofReceiver, hmember]

theorem pushResult_eq (s : Scope) (callee : MethodRef) (f : Frame) :
    s.pushResult callee f = match s.returned? callee with
      | none => .ok f
      | some v => f.push v := by
  unfold pushResult returned? callResult TypeRef.returnKind TypeRef.isVoid
  by_cases hvoid : callee.returnType.fullName = "System.Void"
  · simp [hvoid]
  · by_cases hvalue : callee.returnType.isValueType
    · simp [hvoid, hvalue]
    · simp only [hvoid, hvalue, beq_iff_eq, if_false, Bool.or_eq_true, false_or, Bool.false_eq_true]
      split <;> rfl

theorem methodRef_of_operand (hm : i.operand = .method callee ∨ i.operand = .signature callee) :
    i.methodRef = .ok callee := by
  rcases hm with hm | hm <;> simp [Instruction.methodRef, hm]

theorem call_carried (hm : i.operand = .method callee ∨ i.operand = .signature callee)
    (hlen : arguments.length = callee.parameters.length)
    (h : f.Carries (base ++ callee.passed indirect receiver arguments pointer)) :
    ∃ f', f'.Carries base ∧ f'.slots = f.slots ∧ f'.stack.length = f.stack.length ∧
      s.call i indirect f = onFrame do
        return (← s.pushResult callee f', s.callReports callee arguments receiver) := by
  have hcallee := methodRef_of_operand hm
  rw [MethodRef.passed, ← List.append_assoc, ← List.append_assoc] at h
  obtain ⟨f₁, h₁, hc₁, hl₁⟩ := popPointer_carried h
  obtain ⟨f₂, h₂, hc₂, hl₂⟩ := s.popArguments_carried callee.fullName hc₁
  obtain ⟨f₃, h₃, hc₃, hl₃⟩ := popReceiver_carried hm hc₂
  refine ⟨f₃, hc₃, ?_, by omega, ?_⟩
  · rw [popReceiver_slots h₃, popArguments_slots h₂, popPointer_slots h₁]
  · rw [hlen] at h₂
    simp only [call, hcallee, h₁, h₂, h₃, bind, Except.bind, callReports]

theorem popPointer_took (indirect : Bool) (f : Frame) :
    Frame.Took id indirect.toNat f.depth (popPointer indirect f) := by
  cases indirect with
  | false => exact .done rfl
  | true =>
      by_cases hd : 1 ≤ f.depth
      · simp only [popPointer, Frame.popN, hd, if_true]
        exact .done (Nat.sub_add_cancel hd)
      · simp only [popPointer, Frame.popN, if_true, Nat.lt_one_iff.1 (Nat.lt_of_not_le hd)]
        exact .short Nat.one_pos

theorem popArguments_took (s : Scope) (name : String) (count : Nat) (f : Frame) :
    Frame.Took Prod.fst count f.depth (s.popArguments name count f) := by
  induction count generalizing f with
  | zero => exact .done rfl
  | succ index ih =>
      have htook : Frame.Took Prod.fst (1 + index) f.depth (s.popArguments name (index + 1) f) :=
        f.pop_took.bind fun a => (ih a.2).map fun _ => rfl
      rwa [Nat.add_comm] at htook

theorem popReceiver_took (callee : MethodRef) (operand : Operand) (f : Frame) :
    Frame.Took Prod.fst callee.hasThis.toNat f.depth (popReceiver callee operand f) := by
  unfold popReceiver
  cases callee.hasThis with
  | false => exact .done rfl
  | true => exact f.pop_took.map fun _ => rfl

theorem call_underflow (hcallee : i.methodRef = .ok callee)
    (hlt : f.depth < callee.takes indirect) :
    s.call i indirect f = .error (.frame (.stackUnderflow 1 0)) := by
  have hlt : f.depth < indirect.toNat + (callee.parameters.length + (callee.hasThis.toNat + 0)) := by
    simp only [MethodRef.takes] at hlt
    omega
  simp only [call, hcallee]
  refine congrArg onFrame ((popPointer_took indirect f).bind_underflow (fun f₁ => ?_) hlt)
  refine (s.popArguments_took _ _ f₁).bind_underflow fun a => ?_
  exact (popReceiver_took _ _ a.1).bind_underflow fun b hb => absurd hb (Nat.not_lt_zero _)

theorem step_call (hop : i.opcode = .call ∨ i.opcode = .callvirt ∨ i.opcode = .calli) :
    s.step i f = s.call i (i.opcode == .calli) f := by
  have he : i.opcode.effect = .call (i.opcode == .calli) := by
    rcases hop with hop | hop | hop <;> rw [hop] <;> rfl
  simp only [step, he]

/-- Each argument is held against the contract of its own parameter, and reported from the last to
the first, before the receiver. The result takes the place of what was passed, for which there is
room unless nothing was passed. -/
theorem call_aligned (hop : i.opcode = .call ∨ i.opcode = .callvirt ∨ i.opcode = .calli)
    (hm : i.operand = .method callee ∨ i.operand = .signature callee) :
    (f.depth < callee.takes (i.opcode == .calli) →
      s.step i f = .error (.frame (.stackUnderflow 1 0))) ∧
    (∀ base receiver arguments pointer, arguments.length = callee.parameters.length →
      f.Carries (base ++ callee.passed (i.opcode == .calli) receiver arguments pointer) →
      if callee.takes (i.opcode == .calli) = 0 ∧ f.depth = f.stack.length ∧
        s.returned? callee ≠ none
      then s.step i f = .error (.frame (.stackOverflow f.stack.length))
      else ∃ f', s.step i f = .ok (f', s.callReports callee arguments receiver) ∧
        f'.Carries (base ++ (s.returned? callee).toList) ∧
        f'.locals = f.locals ∧ f'.args = f.args) := by
  rw [step_call hop]
  constructor
  · exact call_underflow (methodRef_of_operand hm)
  · intro base receiver arguments pointer hlen h
    obtain ⟨f', hbase, hslots, hstack, hcall⟩ := call_carried (s := s) hm hlen h
    have hdepth : f'.depth + callee.takes (i.opcode == .calli) = f.depth := by
      rw [h.depth, hbase.depth, List.length_append, MethodRef.passed_length hlen]
    have hfits := h.fits
    rw [hcall, pushResult_eq]
    split
    · rename_i hfull
      obtain ⟨v, hv⟩ := Option.ne_none_iff_exists'.1 hfull.2.2
      have hpush : f'.push v = .error (.stackOverflow f'.stack.length) := if_neg (by omega)
      simp only [hv, hpush, hstack, bind, Except.bind, onFrame]
    · rename_i hroom
      cases hv : s.returned? callee with
      | none =>
          refine ⟨f', rfl, ?_, congrFun hslots .localVar, congrFun hslots .argument⟩
          simpa using hbase
      | some v =>
          have hlt : f'.depth < f'.stack.length := by
            simp only [hv, ne_eq, reduceCtorEq, not_false_eq_true, and_true] at hroom
            omega
          obtain ⟨f'', hpush, hcarries⟩ := hbase.push (v := v) hlt
          have hslots := (Frame.push_slots hpush).trans hslots
          refine ⟨f'', ?_, hcarries, congrFun hslots .localVar, congrFun hslots .argument⟩
          simp only [hpush, bind, Except.bind, pure, Except.pure, onFrame]

def relabelMethod : MethodRef :=
  ⟨"Sample.Shelf", "Relabel", true,
    [⟨"System.String", false⟩, ⟨"System.String", false⟩, ⟨"System.Object", false⟩],
    ⟨"System.String", false⟩, false⟩

def relabel : Scope where
  owner := "Sample.Shelf"
  method := ⟨"Run", ⟨"System.Void", true⟩, false, [], [], none⟩
  body := ⟨6, [], [⟨0, .calli, .signature relabelMethod⟩], []⟩
  contracts := ⟨[],
    ["System.String Sample.Shelf::Relabel(System.String,System.String,System.Object)/0",
     "System.String Sample.Shelf::Relabel(System.String,System.String,System.Object)/2"], []⟩

theorem relabel_aligned :
    let i : Instruction := ⟨0, .calli, .signature relabelMethod⟩
    let f : Frame := ⟨[.nonNull, .null, .null, .null, .unknown, .nonNull], 6, [], []⟩
    let g : Frame := ⟨[.null, .null, .unknown, .nonNull, .unused, .unused], 4, [], []⟩
    f.Carries ([.nonNull] ++ relabelMethod.passed true .null [.null, .null, .unknown] .nonNull) ∧
    (∃ f', relabel.step i f = .ok (f', [.maybeNullInto .argument, .nullInto .argument,
      .nullReceiver (.method "Relabel")]) ∧ f'.Carries [.nonNull, .unknown]) ∧
    relabel.step i g = .error (.frame (.stackUnderflow 1 0)) := by
  intro i f g
  have hf : f.Carries ([.nonNull] ++
      relabelMethod.passed true .null [.null, .null, .unknown] .nonNull) := ⟨rfl, [], rfl⟩
  have hcall := (call_aligned (s := relabel) (i := i) (f := f) (.inr (.inr rfl)) (.inr rfl)).2
    [.nonNull] .null [.null, .null, .unknown] .nonNull rfl hf
  have hreturned : relabel.returned? relabelMethod = some .unknown := by cbv
  have hreports : relabel.callReports relabelMethod [.null, .null, .unknown] .null =
      [.maybeNullInto .argument, .nullInto .argument, .nullReceiver (.method "Relabel")] := by
    decide +kernel
  rw [if_neg fun hfull => absurd hfull.1 (by decide), hreturned, hreports] at hcall
  obtain ⟨f', hstep, hcarries, _⟩ := hcall
  refine ⟨hf, ⟨f', hstep, hcarries⟩, ?_⟩
  exact (call_aligned (.inr (.inr rfl)) (.inr rfl)).1 (by decide)

end Scope

end NullFlow
