import NullFlow.MethodAnalysis
import NullFlow.Proofs.LiveFrame

namespace NullFlow

def Effect.value? : Effect → Option Nullity
  | .push v => some v
  | .replace _ v => some v
  | _ => Option.none

theorem Opcode.effect_value (op : Opcode) : op.effect.value? ≠ some .unused := by
  cases op <;> decide

namespace Scope

/-- Two readings of one method: `r` relates the values and `q` the reports on them. -/
structure Matching (s s' : Scope) (r : Nullity → Nullity → Prop)
    (q : List Issue → List Issue → Prop) : Prop where
  method : s.method = s'.method
  body : s.body = s'.body
  same : ∀ v, v ≠ .unused → r v v
  fieldValue : ∀ ref, r (s.fieldValue ref) (s'.fieldValue ref)
  callResult : ∀ callee, r (s.callResult callee) (s'.callResult callee)
  nil : q [] []
  append : ∀ {a a' b b'}, q a b → q a' b' → q (a ++ a') (b ++ b')
  receiver : ∀ operand {v w}, r v w → q (Issue.ofReceiver operand v) (Issue.ofReceiver operand w)
  argument : ∀ callee index {v w}, r v w →
    q (if s.contracts.parameter callee index then Issue.ofFlow .argument v else [])
      (if s'.contracts.parameter callee index then Issue.ofFlow .argument w else [])
  fieldStore : ∀ ref {v w}, r v w → q (s.fieldStore ref v) (s'.fieldStore ref w)
  result : ∀ {v w}, r v w →
    q (if s.contracts.method s.fullName then Issue.ofFlow .result v else [])
      (if s'.contracts.method s'.fullName then Issue.ofFlow .result w else [])

end Scope

theorem onFrame_agree {α β : Type} {R : α → β → Prop} {x : Except FrameError α}
    {y : Except FrameError β} (h : Agree R x y) : Agree R (onFrame x) (onFrame y) := by
  cases h with
  | error e => exact .error (StepError.frame e)
  | ok h => exact .ok h

namespace Scope.Matching

variable {s s' : Scope} {r : Nullity → Nullity → Prop} {q : List Issue → List Issue → Prop}
  {sh : Shape} {f g : Frame}

def Outcome (sh : Shape) (r : Nullity → Nullity → Prop) (q : List Issue → List Issue → Prop)
    (a b : Frame × List Issue) : Prop :=
  Frame.Rel sh r a.1 b.1 ∧ q a.2 b.2

theorem popArguments (m : Matching s s' r q) (callee : String) (count : Nat)
    (h : Frame.Rel sh r f g) :
    Agree (Outcome sh r q) (s.popArguments callee count f) (s'.popArguments callee count g) := by
  induction count generalizing f g with
  | zero => exact .ok ⟨h, m.nil⟩
  | succ index ih =>
      refine h.pop.bind fun a b hab => ?_
      refine (ih hab.2).bind fun c d hcd => .pure ⟨hcd.1, ?_⟩
      exact m.append (m.argument callee index hab.1) hcd.2

theorem popReceiver (m : Matching s s' r q) (callee : MethodRef) (operand : Operand)
    (h : Frame.Rel sh r f g) :
    Agree (Outcome sh r q) (Scope.popReceiver callee operand f)
      (Scope.popReceiver callee operand g) := by
  unfold Scope.popReceiver
  split
  · exact h.pop.bind fun a b hab => .pure ⟨hab.2, m.receiver operand hab.1⟩
  · exact .ok ⟨h, m.nil⟩

theorem pushResult (m : Matching s s' r q) (callee : MethodRef) (h : Frame.Rel sh r f g) :
    Agree (Frame.Rel sh r) (s.pushResult callee f) (s'.pushResult callee g) := by
  unfold Scope.pushResult
  cases callee.returnType.returnKind with
  | void => exact .ok h
  | value => exact h.push (m.same _ (by decide))
  | reference => exact h.push (m.callResult callee)

theorem call (m : Matching s s' r q) (i : Instruction) (indirect : Bool)
    (h : Frame.Rel sh r f g) :
    Agree (Outcome sh r q) (s.call i indirect f) (s'.call i indirect g) := by
  refine (Agree.same i.methodRef).bind fun callee _ he => ?_
  subst he
  have hpointer : Agree (Frame.Rel sh r) (popPointer indirect f) (popPointer indirect g) := by
    cases indirect with
    | false => exact .ok h
    | true => exact h.popN 1
  refine onFrame_agree (hpointer.bind fun f g h => ?_)
  refine (m.popArguments callee.fullName callee.parameters.length h).bind fun a b hab => ?_
  refine (m.popReceiver callee i.operand hab.1).bind fun c d hcd => ?_
  exact (m.pushResult callee hcd.1).bind fun f g h => .pure ⟨h, m.append hab.2 hcd.2⟩

/-- Related frames step to related frames with related reports, or both fail with the same error. -/
theorem step (m : Matching s s' r q) (i : Instruction) (h : Frame.Rel sh r f g) :
    Agree (Outcome sh r q) (s.step i f) (s'.step i g) := by
  have value (v : Nullity) (hv : i.opcode.effect.value? = some v) : r v v :=
    m.same v fun hu => i.opcode.effect_value (hu ▸ hv)
  have nonNull : r .nonNull .nonNull := m.same _ (by decide)
  have unknown : r .unknown .unknown := m.same _ (by decide)
  unfold Scope.step
  cases he : i.opcode.effect with
  | none => exact .ok ⟨h, m.nil⟩
  | push v => exact (onFrame_agree (h.push (value v (by rw [he]; rfl)))).bind fun _ _ h => .pure ⟨h, m.nil⟩
  | pop count => exact (onFrame_agree (h.popN count)).bind fun _ _ h => .pure ⟨h, m.nil⟩
  | replace count v =>
      refine onFrame_agree ((h.popN count).bind fun _ _ h => ?_)
      exact (h.push (value v (by rw [he]; rfl))).bind fun _ _ h => .pure ⟨h, m.nil⟩
  | dup =>
      refine onFrame_agree ((h.peek 0).bind fun _ _ hv => ?_)
      exact (h.push hv).bind fun _ _ h => .pure ⟨h, m.nil⟩
  | clear => exact .ok ⟨h.clearStack, m.nil⟩
  | loadArg choice =>
      refine (Agree.same (i.chosenSlot choice)).bind fun index _ he => ?_
      subst he
      refine onFrame_agree ((h.getArg index).bind fun _ _ hv => ?_)
      exact (h.push hv).bind fun _ _ h => .pure ⟨h, m.nil⟩
  | storeArg =>
      refine (onFrame_agree h.pop).bind fun a b hab => ?_
      refine (Agree.same i.slot).bind fun index _ he => ?_
      subst he
      exact (onFrame_agree (hab.2.setArg hab.1 index)).bind fun _ _ h => .pure ⟨h, m.nil⟩
  | addressArg =>
      refine (Agree.same i.slot).bind fun index _ he => ?_
      subst he
      refine onFrame_agree ((h.setArg unknown index).bind fun _ _ h => ?_)
      exact (h.push nonNull).bind fun _ _ h => .pure ⟨h, m.nil⟩
  | loadLocal choice =>
      refine (Agree.same (i.chosenSlot choice)).bind fun index _ he => ?_
      subst he
      refine onFrame_agree ((h.getLocal index).bind fun _ _ hv => ?_)
      exact (h.push hv).bind fun _ _ h => .pure ⟨h, m.nil⟩
  | storeLocal choice =>
      refine (Agree.same (i.chosenSlot choice)).bind fun index _ he => ?_
      subst he
      refine onFrame_agree (h.pop.bind fun a b hab => ?_)
      exact (hab.2.setLocal hab.1 index).bind fun _ _ h => .pure ⟨h, m.nil⟩
  | addressLocal =>
      refine (Agree.same i.slot).bind fun index _ he => ?_
      subst he
      refine onFrame_agree ((h.setLocal unknown index).bind fun _ _ h => ?_)
      exact (h.push nonNull).bind fun _ _ h => .pure ⟨h, m.nil⟩
  | call indirect => exact m.call i indirect h
  | ret =>
      dsimp only
      rw [← m.method]
      split
      · exact .ok ⟨h, m.nil⟩
      · exact onFrame_agree (h.pop.bind fun a b hab => .pure ⟨hab.2, m.result hab.1⟩)
  | construct =>
      refine (Agree.same i.methodRef).bind fun constructor _ he => ?_
      subst he
      refine onFrame_agree ((h.popN constructor.parameters.length).bind fun _ _ h => ?_)
      exact (h.push nonNull).bind fun _ _ h => .pure ⟨h, m.nil⟩
  | loadField =>
      refine (Agree.same i.fieldRef).bind fun ref _ he => ?_
      subst he
      refine onFrame_agree (h.pop.bind fun a b hab => ?_)
      exact (hab.2.push (m.fieldValue ref)).bind fun _ _ h => .pure ⟨h, m.receiver i.operand hab.1⟩
  | addressField =>
      refine (Agree.same i.fieldRef).bind fun _ _ _ => ?_
      refine onFrame_agree (h.pop.bind fun a b hab => ?_)
      exact (hab.2.push nonNull).bind fun _ _ h => .pure ⟨h, m.receiver i.operand hab.1⟩
  | storeField =>
      refine (Agree.same i.fieldRef).bind fun ref _ he => ?_
      subst he
      refine onFrame_agree (h.pop.bind fun a b hab => hab.2.pop.bind fun c d hcd => ?_)
      exact .pure ⟨hcd.2, m.append (m.receiver i.operand hcd.1) (m.fieldStore ref hab.1)⟩
  | loadStatic =>
      refine (Agree.same i.fieldRef).bind fun ref _ he => ?_
      subst he
      exact (onFrame_agree (h.push (m.fieldValue ref))).bind fun _ _ h => .pure ⟨h, m.nil⟩
  | addressStatic =>
      refine (Agree.same i.fieldRef).bind fun _ _ _ => ?_
      exact (onFrame_agree (h.push nonNull)).bind fun _ _ h => .pure ⟨h, m.nil⟩
  | storeStatic =>
      refine (Agree.same i.fieldRef).bind fun ref _ he => ?_
      subst he
      exact onFrame_agree (h.pop.bind fun a b hab => .pure ⟨hab.2, m.fieldStore ref hab.1⟩)

/-- Related reports of instructions make up related findings. -/
structure Reporting (q : List Issue → List Issue → Prop)
    (findings : List Finding → List Finding → Prop) : Prop where
  nil : findings [] []
  append : ∀ offset {a b l l'}, q a b → findings l l' →
    findings (a.map (Finding.mk offset) ++ l) (b.map (Finding.mk offset) ++ l')

theorem execute_reports (m : Matching s s' r q) {reports : List Finding → List Finding → Prop}
    (hq : Reporting q reports) (index : Nat) (instructions : List Instruction)
    (h : Frame.Rel sh r f g) :
    Agree (fun a b => Frame.Rel sh r a.1 b.1 ∧ reports a.2 b.2) (s.execute index instructions f)
      (s'.execute index instructions g) := by
  induction instructions generalizing index f g with
  | nil => exact .ok ⟨h, hq.nil⟩
  | cons i rest ih =>
      have hstep := m.step i h
      unfold Scope.execute
      revert hstep
      generalize s.step i f = x
      generalize s'.step i g = y
      intro hstep
      cases hstep with
      | error e => exact .error _
      | ok hab =>
          refine (ih (index + 1) hab.1).bind fun _ _ hrest => .pure ⟨hrest.1, ?_⟩
          exact hq.append i.offset hab.2 hrest.2

theorem execute (m : Matching s s' r q) (index : Nat) (instructions : List Instruction)
    (h : Frame.Rel sh r f g) :
    Agree (fun a b => Frame.Rel sh r a.1 b.1) (s.execute index instructions f)
      (s'.execute index instructions g) := by
  have hq : Reporting q fun _ _ => True := ⟨trivial, fun _ _ _ _ _ _ _ => trivial⟩
  exact (m.execute_reports hq index instructions h).imp fun _ _ hab => hab.1

theorem executeNode_reports (m : Matching s s' r q) {reports : List Finding → List Finding → Prop}
    (hq : Reporting q reports) (node : Node) (h : Frame.Rel sh r f g) :
    Agree (fun a b => Frame.Rel sh r a.1 b.1 ∧ reports a.2 b.2) (s.executeNode node f)
      (s'.executeNode node g) := by
  cases node with
  | block b =>
      simp only [Scope.executeNode, ← m.body]
      exact m.execute_reports hq _ _ h
  | entry | exit | exception => exact .ok ⟨h, hq.nil⟩

theorem executeNode (m : Matching s s' r q) (node : Node) (h : Frame.Rel sh r f g) :
    Agree (fun a b => Frame.Rel sh r a.1 b.1) (s.executeNode node f) (s'.executeNode node g) := by
  have hq : Reporting q fun _ _ => True := ⟨trivial, fun _ _ _ _ _ _ _ => trivial⟩
  exact (m.executeNode_reports hq node h).imp fun _ _ hab => hab.1

end Scope.Matching

namespace Scope

variable {s : Scope} {sh : Shape} {f g out : Frame}

theorem fieldValue_ne_unused (s : Scope) (ref : FieldRef) : s.fieldValue ref ≠ .unused := by
  unfold fieldValue
  split <;> decide

theorem callResult_ne_unused (s : Scope) (callee : MethodRef) : s.callResult callee ≠ .unused := by
  unfold callResult
  split <;> decide

theorem matching_used (s : Scope) :
    s.Matching s (fun a b => a = b ∧ a ≠ .unused) (fun _ _ => True) where
  method := rfl
  body := rfl
  same _ hv := ⟨rfl, hv⟩
  fieldValue ref := ⟨rfl, s.fieldValue_ne_unused ref⟩
  callResult callee := ⟨rfl, s.callResult_ne_unused callee⟩
  nil := trivial
  append _ _ := trivial
  receiver _ _ _ _ := trivial
  argument _ _ _ _ _ := trivial
  fieldStore _ _ _ _ := trivial
  result _ := trivial

theorem executeNode_live {node : Node} {findings : List Finding} (h : f.Live sh)
    (he : s.executeNode node f = .ok (out, findings)) : out.Live sh := by
  obtain ⟨_, he', hrel⟩ := (s.matching_used.executeNode node (Frame.live_iff_rel.1 h)).ok_left he
  obtain rfl : (out, findings) = _ := Except.ok.inj (he.symm.trans he')
  exact Frame.live_iff_rel.2 hrel

theorem nullReceiver_notMem_flow (member : Member) (sink : Sink) (v : Nullity) (declared : Bool) :
    .nullReceiver member ∉ if declared then Issue.ofFlow sink v else [] := by
  cases declared <;> cases v <;> simp [Issue.ofFlow]

theorem matching_traced (s : Scope) : s.Matching s Nullity.Traced
    (fun a b => ∀ member, .nullReceiver member ∈ b → .nullReceiver member ∈ a) where
  method := rfl
  body := rfl
  same _ hv := ⟨hv, le_rfl⟩
  fieldValue ref := ⟨s.fieldValue_ne_unused ref, le_rfl⟩
  callResult callee := ⟨s.callResult_ne_unused callee, le_rfl⟩
  nil _ h := h
  append ha hb member h := by
    rcases List.mem_append.1 h with h | h
    · exact List.mem_append_left _ (ha member h)
    · exact List.mem_append_right _ (hb member h)
  receiver operand v w hv member h := by
    by_cases hw : w = .null
    · subst hw
      rwa [Nullity.eq_null_of_le hv.2 hv.1]
    · simp [Issue.ofReceiver, hw] at h
  argument _ _ _ _ _ member h := absurd h (nullReceiver_notMem_flow member _ _ _)
  fieldStore _ _ _ _ member h := absurd h (nullReceiver_notMem_flow member _ _ _)
  result _ member h := absurd h (nullReceiver_notMem_flow member _ _ _)

end Scope

end NullFlow
