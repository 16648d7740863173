import NullFlow.Proofs.StepRelation

namespace NullFlow

theorem onFrame_eq_ok {α : Type} {x : Except FrameError α} {a : α} :
    onFrame x = .ok a ↔ x = .ok a := by
  cases x <;> simp [onFrame]

def Frame.slots (f : Frame) : SlotKind → List Nullity
  | .localVar => f.locals
  | .argument => f.args

namespace Instruction

/-- The slot an instruction stores to or takes the address of. -/
def written? (i : Instruction) : Option (SlotKind × Nat) :=
  match i.opcode.effect with
  | .storeArg | .addressArg => i.slot.toOption.map (.argument, ·)
  | .storeLocal choice => (i.chosenSlot choice).toOption.map (.localVar, ·)
  | .addressLocal => i.slot.toOption.map (.localVar, ·)
  | _ => none

def receiverOffset? (i : Instruction) : Option Nat :=
  match i.opcode.effect with
  | .loadField | .addressField => some 0
  | .storeField => some 1
  | .call indirect =>
    match i.methodRef with
    | .ok callee =>
      if callee.hasThis then some (callee.parameters.length + indirect.toNat) else none
    | .error _ => none
  | _ => none

def receiver? (i : Instruction) (f : Frame) : Option Nullity :=
  i.receiverOffset?.bind fun offset => (f.peek offset).toOption

end Instruction

namespace Frame

variable {f g : Frame} {v : Nullity} {kind : SlotKind}

theorem slots_below (h : f ≤ g) (kind : SlotKind) : Slots.Below (f.slots kind) (g.slots kind) := by
  obtain ⟨_, _, hl, ha⟩ := le_iff.1 h
  cases kind with
  | localVar => exact hl
  | argument => exact ha

theorem push_slots (h : f.push v = .ok g) : g.slots = f.slots := by
  unfold push at h
  split at h
  · cases h
    rfl
  · cases h

theorem pop_eq_ok : f.pop = .ok (v, g) ↔ f.peek 0 = .ok v ∧ f.dropTop = g := by
  simp only [pop, bind_eq_ok, pure_eq_ok, Prod.mk.injEq]
  constructor
  · rintro ⟨_, hv, rfl, rfl⟩
    exact ⟨hv, rfl⟩
  · rintro ⟨hv, rfl⟩
    exact ⟨v, hv, rfl, rfl⟩

theorem pop_slots (h : f.pop = .ok (v, g)) : g.slots = f.slots := by
  obtain ⟨_, rfl⟩ := pop_eq_ok.1 h
  rfl

theorem dropTops_slots (count : Nat) (f : Frame) : (dropTops count f).slots = f.slots := by
  induction count generalizing f with
  | zero => rfl
  | succ count ih => exact ih f.dropTop

theorem popN_slots {count : Nat} (h : f.popN count = .ok g) : g.slots = f.slots := by
  unfold popN at h
  split at h
  · cases h
    exact dropTops_slots count f
  · cases h

theorem writeSlot_getElem? {slots slots' : List Nullity} {index j : Nat}
    (h : writeSlot kind slots index v = .ok slots') (hj : index ≠ j) : slots'[j]? = slots[j]? := by
  unfold writeSlot at h
  split at h
  · cases h
    exact List.getElem?_set_ne hj
  · cases h

theorem setLocal_slots {index j : Nat} (h : f.setLocal index v = .ok g)
    (hj : (.localVar, index) ≠ (kind, j)) : (g.slots kind)[j]? = (f.slots kind)[j]? := by
  simp only [setLocal, bind_eq_ok, pure_eq_ok] at h
  obtain ⟨slots, hw, rfl⟩ := h
  cases kind with
  | localVar => exact writeSlot_getElem? hw fun he => hj (he ▸ rfl)
  | argument => rfl

theorem setArg_slots {index j : Nat} (h : f.setArg index v = .ok g)
    (hj : (.argument, index) ≠ (kind, j)) : (g.slots kind)[j]? = (f.slots kind)[j]? := by
  simp only [setArg, bind_eq_ok, pure_eq_ok] at h
  obtain ⟨slots, hw, rfl⟩ := h
  cases kind with
  | localVar => rfl
  | argument => exact writeSlot_getElem? hw fun he => hj (he ▸ rfl)

theorem peek_eq_ok {offset : Nat} : f.peek offset = .ok v ↔
    offset < f.depth ∧ f.stack.getD (f.depth - 1 - offset) .unused = v := by
  unfold peek
  split <;> simp_all

theorem peek_dropTop {offset : Nat} (h : f.dropTop.peek offset = .ok v) :
    f.peek (offset + 1) = .ok v := by
  obtain ⟨hlt, hv⟩ := peek_eq_ok.1 h
  simp only [dropTop] at hlt hv
  rw [Slots.getD_set, if_neg (by omega), Nat.sub_right_comm] at hv
  exact peek_eq_ok.2 ⟨by omega, by rwa [Nat.sub_add_eq]⟩

end Frame

namespace Scope

variable {s : Scope} {i : Instruction} {f f' : Frame} {issues : List Issue}

theorem popArguments_slots {callee : String} {count : Nat}
    (h : s.popArguments callee count f = .ok (f', issues)) : f'.slots = f.slots := by
  induction count generalizing f issues with
  | zero =>
      cases h
      rfl
  | succ index ih =>
      simp only [popArguments, bind_eq_ok, pure_eq_ok, Prod.exists, Prod.mk.injEq] at h
      obtain ⟨_, g, hp, _, _, ha, rfl, _⟩ := h
      exact (ih ha).trans (Frame.pop_slots hp)

theorem popPointer_slots {indirect : Bool} (h : popPointer indirect f = .ok f') :
    f'.slots = f.slots := by
  unfold popPointer at h
  split at h
  · exact Frame.popN_slots h
  · cases h
    rfl

theorem popReceiver_slots {callee : MethodRef} {operand : Operand}
    (h : popReceiver callee operand f = .ok (f', issues)) : f'.slots = f.slots := by
  unfold popReceiver at h
  split at h
  · simp only [bind_eq_ok, pure_eq_ok, Prod.exists, Prod.mk.injEq] at h
    obtain ⟨_, _, hp, rfl, _⟩ := h
    exact Frame.pop_slots hp
  · cases h
    rfl

theorem pushResult_slots {callee : MethodRef} (h : s.pushResult callee f = .ok f') :
    f'.slots = f.slots := by
  unfold pushResult at h
  split at h
  · cases h
    rfl
  · exact Frame.push_slots h
  · exact Frame.push_slots h

theorem call_slots {indirect : Bool} (h : s.call i indirect f = .ok (f', issues)) :
    f'.slots = f.slots := by
  simp only [call, bind_eq_ok, onFrame_eq_ok, pure_eq_ok, Prod.exists, Prod.mk.injEq] at h
  obtain ⟨callee, _, f₁, h₁, f₂, _, h₂, f₃, _, h₃, _, h₄, rfl, _⟩ := h
  rw [pushResult_slots h₄, popReceiver_slots h₃, popArguments_slots h₂, popPointer_slots h₁]

theorem popArguments_peek {callee : String} {count offset : Nat} {v : Nullity}
    (h : s.popArguments callee count f = .ok (f', issues)) (hv : f'.peek offset = .ok v) :
    f.peek (offset + count) = .ok v := by
  induction count generalizing f issues with
  | zero =>
      cases h
      exact hv
  | succ index ih =>
      simp only [popArguments, bind_eq_ok, pure_eq_ok, Prod.exists, Prod.mk.injEq] at h
      obtain ⟨_, g, hp, _, _, ha, rfl, _⟩ := h
      obtain ⟨_, rfl⟩ := Frame.pop_eq_ok.1 hp
      exact Frame.peek_dropTop (ih ha)

theorem popPointer_peek {indirect : Bool} {offset : Nat} {v : Nullity}
    (h : popPointer indirect f = .ok f') (hv : f'.peek offset = .ok v) :
    f.peek (offset + indirect.toNat) = .ok v := by
  cases indirect with
  | false =>
      cases h
      exact hv
  | true =>
      simp only [popPointer, Frame.popN, if_true] at h
      split at h
      · cases h
        exact Frame.peek_dropTop hv
      · cases h

theorem nullReceiver_notMem_popArguments {callee : String} {count : Nat}
    (h : s.popArguments callee count f = .ok (f', issues)) (member : Member) :
    .nullReceiver member ∉ issues := by
  induction count generalizing f issues with
  | zero =>
      cases h
      exact List.not_mem_nil
  | succ index ih =>
      simp only [popArguments, bind_eq_ok, pure_eq_ok, Prod.exists, Prod.mk.injEq] at h
      obtain ⟨_, g, hp, _, _, ha, rfl, rfl⟩ := h
      simp only [List.mem_append, not_or]
      exact ⟨nullReceiver_notMem_flow member _ _ _, ih ha⟩

theorem ofReceiver_iff {operand : Operand} {v : Nullity} (h : (Member.ofOperand? operand).isSome) :
    (∃ member, .nullReceiver member ∈ Issue.ofReceiver operand v) ↔ v = .null := by
  obtain ⟨member, hm⟩ := Option.isSome_iff_exists.1 h
  unfold Issue.ofReceiver
  split <;> simp_all

theorem member_of_methodRef {callee : MethodRef} (h : i.methodRef = .ok callee) :
    (Member.ofOperand? i.operand).isSome := by
  unfold Instruction.methodRef at h
  split at h <;> simp_all [Member.ofOperand?]

theorem member_of_fieldRef {ref : FieldRef} (h : i.fieldRef = .ok ref) :
    (Member.ofOperand? i.operand).isSome := by
  unfold Instruction.fieldRef at h
  split at h <;> simp_all [Member.ofOperand?]

theorem call_receiver {indirect : Bool} (he : i.opcode.effect = .call indirect)
    (h : s.call i indirect f = .ok (f', issues)) :
    (∃ member, .nullReceiver member ∈ issues) ↔ i.receiver? f = some .null := by
  simp only [call, bind_eq_ok, onFrame_eq_ok, pure_eq_ok, Prod.exists, Prod.mk.injEq] at h
  obtain ⟨callee, hm, f₁, h₁, f₂, arguments, h₂, f₃, receiver, h₃, _, _, _, rfl⟩ := h
  have hargs := nullReceiver_notMem_popArguments h₂
  unfold popReceiver at h₃
  simp only [List.mem_append, hargs, false_or, Instruction.receiver?, Instruction.receiverOffset?,
    he, hm]
  split at h₃
  · rename_i hthis
    simp only [bind_eq_ok, pure_eq_ok, Prod.exists, Prod.mk.injEq] at h₃
    obtain ⟨v, _, hp, _, rfl⟩ := h₃
    have hv := popPointer_peek h₁ (popArguments_peek h₂ (Frame.pop_eq_ok.1 hp).1)
    rw [Nat.zero_add] at hv
    rw [ofReceiver_iff (member_of_methodRef hm), if_pos hthis, Option.bind_some, hv]
    simp [Except.toOption]
  · rename_i hthis
    cases h₃
    simp [hthis]

/-- An instruction leaves every slot alone but the one it writes, and it reports a null receiver
when the object it is used on is certainly null. -/
theorem step_effect (h : s.step i f = .ok (f', issues)) :
    (∀ kind j, i.written? ≠ some (kind, j) → (f'.slots kind)[j]? = (f.slots kind)[j]?) ∧
    ((∃ member, .nullReceiver member ∈ issues) ↔ i.receiver? f = some .null) := by
  have keep (hs : f'.slots = f.slots) (kind : SlotKind) (j : Nat)
      (_ : i.written? ≠ some (kind, j)) : (f'.slots kind)[j]? = (f.slots kind)[j]? := by
    rw [hs]
  have silent (hr : i.receiverOffset? = none) (hi : ∀ member, .nullReceiver member ∉ issues) :
      (∃ member, .nullReceiver member ∈ issues) ↔ i.receiver? f = some .null := by
    simp [Instruction.receiver?, hr, hi]
  have checked {offset : Nat} {v : Nullity} (hr : i.receiverOffset? = some offset)
      (hv : f.peek offset = .ok v) (hi : (∃ member, .nullReceiver member ∈ issues) ↔ v = .null) :
      (∃ member, .nullReceiver member ∈ issues) ↔ i.receiver? f = some .null := by
    simp [Instruction.receiver?, hr, hv, hi, Except.toOption]
  have hr := Instruction.receiverOffset?.eq_def i
  unfold step at h
  cases he : i.opcode.effect <;>
    simp only [he, bind_eq_ok, onFrame_eq_ok, pure_eq_ok, Prod.exists, Prod.mk.injEq] at h hr
  case none | clear =>
    cases h
    exact ⟨keep rfl, silent hr (by simp)⟩
  case push v =>
    obtain ⟨_, hp, rfl, rfl⟩ := h
    exact ⟨keep (Frame.push_slots hp), silent hr (by simp)⟩
  case pop count =>
    obtain ⟨_, hp, rfl, rfl⟩ := h
    exact ⟨keep (Frame.popN_slots hp), silent hr (by simp)⟩
  case replace count v =>
    obtain ⟨_, hn, _, hp, rfl, rfl⟩ := h
    exact ⟨keep ((Frame.push_slots hp).trans (Frame.popN_slots hn)), silent hr (by simp)⟩
  case dup | loadStatic | addressStatic =>
    obtain ⟨_, _, _, hp, rfl, rfl⟩ := h
    exact ⟨keep (Frame.push_slots hp), silent hr (by simp)⟩
  case loadArg choice | loadLocal choice =>
    obtain ⟨_, _, _, _, _, hp, rfl, rfl⟩ := h
    exact ⟨keep (Frame.push_slots hp), silent hr (by simp)⟩
  case storeArg =>
    obtain ⟨_, _, hp, index, hi, _, hset, rfl, rfl⟩ := h
    have hwritten : i.written? = some (.argument, index) := by
      simp [Instruction.written?, he, hi, Except.toOption]
    refine ⟨fun kind j hw => ?_, silent hr (by simp)⟩
    rw [Frame.setArg_slots hset fun e => hw (e ▸ hwritten), Frame.pop_slots hp]
  case storeLocal choice =>
    obtain ⟨index, hi, _, _, hp, _, hset, rfl, rfl⟩ := h
    have hwritten : i.written? = some (.localVar, index) := by
      simp [Instruction.written?, he, hi, Except.toOption]
    refine ⟨fun kind j hw => ?_, silent hr (by simp)⟩
    rw [Frame.setLocal_slots hset fun e => hw (e ▸ hwritten), Frame.pop_slots hp]
  case addressArg =>
    obtain ⟨index, hi, _, hset, _, hp, rfl, rfl⟩ := h
    have hwritten : i.written? = some (.argument, index) := by
      simp [Instruction.written?, he, hi, Except.toOption]
    refine ⟨fun kind j hw => ?_, silent hr (by simp)⟩
    rw [Frame.push_slots hp, Frame.setArg_slots hset fun e => hw (e ▸ hwritten)]
  case addressLocal =>
    obtain ⟨index, hi, _, hset, _, hp, rfl, rfl⟩ := h
    have hwritten : i.written? = some (.localVar, index) := by
      simp [Instruction.written?, he, hi, Except.toOption]
    refine ⟨fun kind j hw => ?_, silent hr (by simp)⟩
    rw [Frame.push_slots hp, Frame.setLocal_slots hset fun e => hw (e ▸ hwritten)]
  case call indirect => exact ⟨keep (call_slots h), call_receiver he h⟩
  case ret =>
    split at h
    · cases h
      exact ⟨keep rfl, silent hr (by simp)⟩
    · simp only [bind_eq_ok, onFrame_eq_ok, pure_eq_ok, Prod.exists, Prod.mk.injEq] at h
      obtain ⟨_, _, hp, rfl, rfl⟩ := h
      refine ⟨keep (Frame.pop_slots hp), silent hr fun member => ?_⟩
      exact nullReceiver_notMem_flow member _ _ _
  case construct =>
    obtain ⟨_, _, _, hn, _, hp, rfl, rfl⟩ := h
    exact ⟨keep ((Frame.push_slots hp).trans (Frame.popN_slots hn)), silent hr (by simp)⟩
  case loadField | addressField =>
    obtain ⟨ref, hf, v, _, hpop, _, hp, rfl, rfl⟩ := h
    refine ⟨keep ((Frame.push_slots hp).trans (Frame.pop_slots hpop)), ?_⟩
    exact checked hr (Frame.pop_eq_ok.1 hpop).1 (ofReceiver_iff (member_of_fieldRef hf))
  case storeField =>
    obtain ⟨ref, hf, w, _, hpop, v, _, hpop', rfl, rfl⟩ := h
    refine ⟨keep ((Frame.pop_slots hpop').trans (Frame.pop_slots hpop)), ?_⟩
    obtain ⟨_, rfl⟩ := Frame.pop_eq_ok.1 hpop
    refine checked hr (Frame.peek_dropTop (Frame.pop_eq_ok.1 hpop').1) ?_
    rw [← ofReceiver_iff (v := v) (member_of_fieldRef hf)]
    have hflow (member : Member) := nullReceiver_notMem_flow member .field w
      (s.contracts.field ref.fullName)
    simp only [List.mem_append, fieldStore, hflow, or_false]
  case storeStatic =>
    obtain ⟨ref, _, _, _, hp, rfl, rfl⟩ := h
    refine ⟨keep (Frame.pop_slots hp), silent hr fun member => ?_⟩
    exact nullReceiver_notMem_flow member _ _ _

theorem arrive_slots (node : Node) (f : Frame) : (arrive node f).slots = f.slots := by
  cases node with
  | exception | entry | exit | block => rfl

theorem execute_cons {index : Nat} {rest : List Instruction} {findings : List Finding} :
    s.execute index (i :: rest) f = .ok (f', findings) ↔
      ∃ mid issues findings', s.step i f = .ok (mid, issues) ∧
        s.execute (index + 1) rest mid = .ok (f', findings') ∧
        issues.map (Finding.mk i.offset) ++ findings' = findings := by
  rw [execute]
  cases s.step i f with
  | error cause => simp
  | ok r =>
      simp only [bind_eq_ok, pure_eq_ok, Prod.exists, Prod.mk.injEq, Except.ok.injEq]
      constructor
      · rintro ⟨_, findings', he, rfl, rfl⟩
        exact ⟨r.1, r.2, findings', rfl, he, rfl⟩
      · rintro ⟨mid, issues, findings', rfl, he, rfl⟩
        exact ⟨f', findings', he, rfl, rfl⟩

theorem execute_append {index : Nat} {first rest : List Instruction} {findings : List Finding}
    (h : s.execute index (first ++ rest) f = .ok (f', findings)) :
    ∃ mid findings₁ findings₂, s.execute index first f = .ok (mid, findings₁) ∧
      s.execute (index + first.length) rest mid = .ok (f', findings₂) := by
  induction first generalizing index f findings with
  | nil => exact ⟨f, [], findings, rfl, h⟩
  | cons i first ih =>
      obtain ⟨f₁, issues, _, hstep, he, _⟩ := execute_cons.1 h
      obtain ⟨mid, findings₁, findings₂, hfirst, hrest⟩ := ih he
      refine ⟨mid, _, findings₂, execute_cons.2 ⟨f₁, issues, findings₁, hstep, hfirst, rfl⟩, ?_⟩
      rwa [List.length_cons, Nat.add_comm first.length, ← Nat.add_assoc]

theorem execute_slots {index j : Nat} {instructions : List Instruction} {findings : List Finding}
    {kind : SlotKind} (h : s.execute index instructions f = .ok (f', findings))
    (hw : ∀ i ∈ instructions, i.written? ≠ some (kind, j)) :
    (f'.slots kind)[j]? = (f.slots kind)[j]? := by
  induction instructions generalizing index f findings with
  | nil =>
      cases h
      rfl
  | cons i rest ih =>
      obtain ⟨mid, _, _, hstep, he, _⟩ := execute_cons.1 h
      rw [ih he fun i hi => hw i (List.mem_cons_of_mem _ hi),
        (step_effect hstep).1 kind j (hw i List.mem_cons_self)]

def before (s : Scope) (b : Block) (k : Nat) (f : Frame) : Except FlowError Frame :=
  (s.execute b.first ((b.instructions s.body).take k) f).map (·.1)

theorem before_ok {b : Block} {out : Frame} {findings : List Finding}
    (h : s.executeNode (.block b) f = .ok (out, findings)) (k : Nat) :
    ∃ mid index findings', s.before b k f = .ok mid ∧
      s.execute index ((b.instructions s.body).drop k) mid = .ok (out, findings') := by
  rw [executeNode, ← List.take_append_drop k (b.instructions s.body)] at h
  obtain ⟨mid, findings₁, findings₂, hfirst, hrest⟩ := execute_append h
  refine ⟨mid, _, findings₂, ?_, hrest⟩
  rw [before, hfirst]
  rfl

theorem before_live {sh : Shape} {b : Block} {k : Nat} {mid : Frame} (h : f.Live sh)
    (hb : s.before b k f = .ok mid) : mid.Live sh := by
  obtain ⟨⟨_, findings⟩, he, rfl⟩ := map_eq_ok.1 hb
  obtain ⟨_, he', hrel⟩ :=
    (s.matching_used.execute b.first _ (Frame.live_iff_rel.1 h)).ok_left he
  obtain rfl := Except.ok.inj (he.symm.trans he')
  exact Frame.live_iff_rel.2 hrel

end Scope

end NullFlow
