import NullFlow.Proofs.FrameLattice
import NullFlow.Proofs.StepEffect

namespace NullFlow

theorem Agree.self {ε α : Type} {R : α → α → Prop} {x : Except ε α} {a : α} (h : Agree R x x)
    (hx : x = .ok a) : R a a := by
  obtain ⟨_, hx', hr⟩ := h.ok_left hx
  obtain rfl := Except.ok.inj (hx.symm.trans hx')
  exact hr

namespace Frame

inductive Operation where
  | push (v : Nullity)
  | pop
  | popN (count : Nat)
  | peek (offset : Nat)
  | clearStack
  | getLocal (index : Nat)
  | setLocal (index : Nat) (v : Nullity)
  | getArg (index : Nat)
  | setArg (index : Nat) (v : Nullity)
  | merge (other : Frame)

def Operation.run : Operation → Frame → Except FrameError (Option Nullity × Frame)
  | .push v, f => do return (none, ← f.push v)
  | .pop, f => do
    let (v, f) ← f.pop
    return (some v, f)
  | .popN count, f => do return (none, ← f.popN count)
  | .peek offset, f => do return (some (← f.peek offset), f)
  | .clearStack, f => .ok (none, f.clearStack)
  | .getLocal index, f => do return (some (← f.getLocal index), f)
  | .setLocal index v, f => do return (none, ← f.setLocal index v)
  | .getArg index, f => do return (some (← f.getArg index), f)
  | .setArg index v, f => do return (none, ← f.setArg index v)
  | .merge other, f => do return (none, ← f.merge other)

/-- A computation on a frame that is held in place. What it wrote before an error stays written. -/
abbrev Command := EStateM FrameError Frame

namespace Command

def demand (wanted : Nat) : Command Unit := do
  let f ← get
  if f.depth < wanted then throw (.stackUnderflow wanted f.depth)

def push (v : Nullity) : Command Unit := do
  let f ← get
  if f.depth < f.stack.length then
    modify fun f => { f with stack := f.stack.set f.depth v }
    modify fun f => { f with depth := f.depth + 1 }
  else throw (.stackOverflow f.stack.length)

def pop : Command Nullity := do
  demand 1
  modify fun f => { f with depth := f.depth - 1 }
  let f ← get
  modify fun f => { f with stack := f.stack.set f.depth .unused }
  return f.stack.getD f.depth .unused

def pops : Nat → Command Unit
  | 0 => return
  | count + 1 => do
    let _ ← pop
    pops count

def peek (offset : Nat) : Command Nullity := do
  demand (offset + 1)
  let f ← get
  return f.stack.getD (f.depth - 1 - offset) .unused

def clearStack : Command Unit := do
  modify fun f => { f with stack := List.replicate f.stack.length .unused }
  modify fun f => { f with depth := 0 }

def read (kind : SlotKind) (index : Nat) : Command Nullity := do
  let slots := (← get).slots kind
  match slots[index]? with
  | some v => return v
  | none => throw (.slotOutOfRange kind index slots.length)

def write (kind : SlotKind) (index : Nat) (v : Nullity) : Command Unit := do
  let slots := (← get).slots kind
  if index < slots.length then
    modify fun f => match kind with
      | .localVar => { f with locals := f.locals.set index v }
      | .argument => { f with args := f.args.set index v }
  else throw (.slotOutOfRange kind index slots.length)

def merge (other : Frame) : Command Unit := do
  let f ← get
  if f.shape = other.shape then
    modify fun f => { f with stack := List.zipWith Nullity.merge f.stack other.stack }
    modify fun f => { f with locals := List.zipWith Nullity.merge f.locals other.locals }
    modify fun f => { f with args := List.zipWith Nullity.merge f.args other.args }
    modify fun f => { f with depth := max f.depth other.depth }
  else throw .incompatibleMerge

end Command

def Operation.inPlace : Operation → Command (Option Nullity)
  | .push v => do
    Command.push v
    return none
  | .pop => do return some (← Command.pop)
  | .popN count => do
    Command.demand count
    Command.pops count
    return none
  | .peek offset => do return some (← Command.peek offset)
  | .clearStack => do
    Command.clearStack
    return none
  | .getLocal index => do return some (← Command.read .localVar index)
  | .setLocal index v => do
    Command.write .localVar index v
    return none
  | .getArg index => do return some (← Command.read .argument index)
  | .setArg index v => do
    Command.write .argument index v
    return none
  | .merge other => do
    Command.merge other
    return none

def Command.settled {α : Type} (f : Frame) : Except FrameError (α × Frame) →
    EStateM.Result FrameError Frame α
  | .ok (a, g) => .ok a g
  | .error e => .error e f

variable {sh : Shape} {f g : Frame} {v : Nullity} {op : Operation}

namespace Command

theorem demand_met {wanted : Nat} (h : wanted ≤ f.depth) : (demand wanted).run f = .ok () f := by
  simp only [demand, EStateM.run_bind, EStateM.run_get, if_neg (Nat.not_lt.2 h)]
  rfl

theorem demand_unmet {wanted : Nat} (h : f.depth < wanted) :
    (demand wanted).run f = .error (.stackUnderflow wanted f.depth) f := by
  simp only [demand, EStateM.run_bind, EStateM.run_get, if_pos h]
  rfl

theorem pop_run (h : 0 < f.depth) :
    pop.run f = .ok (f.stack.getD (f.depth - 1) .unused) f.dropTop := by
  simp only [pop, EStateM.run_bind, demand_met (Nat.succ_le_of_lt h)]
  rfl

theorem pops_run {count : Nat} (h : count ≤ f.depth) :
    (pops count).run f = .ok () (dropTops count f) := by
  induction count generalizing f with
  | zero => rfl
  | succ count ih =>
      have hpop := pop_run (f := f) (Nat.zero_lt_of_lt h)
      have hrest : count ≤ f.dropTop.depth := Nat.le_sub_of_add_le h
      simp only [pops, EStateM.run_bind, hpop]
      exact ih hrest

end Command

/-- An operation makes all its checks before its first write. -/
theorem Operation.inPlace_run (op : Operation) (f : Frame) :
    op.inPlace.run f = Command.settled f (op.run f) := by
  cases op with
  | push v =>
      by_cases h : f.depth < f.stack.length <;>
        simp only [inPlace, run, EStateM.run_bind, EStateM.run_get, Command.push, Frame.push, h,
          if_true, if_false] <;> rfl
  | pop =>
      by_cases h : 0 < f.depth
      · simp only [inPlace, run, EStateM.run_bind, Command.pop_run h, Frame.pop, Frame.peek,
          if_pos h]
        rfl
      · have hempty : f.depth < 1 := Nat.lt_one_iff.2 (Nat.eq_zero_of_not_pos h)
        simp only [inPlace, run, EStateM.run_bind, Command.pop, Command.demand_unmet hempty,
          Frame.pop, Frame.peek, if_neg h]
        rfl
  | popN count =>
      by_cases h : count ≤ f.depth
      · simp only [inPlace, run, EStateM.run_bind, Command.demand_met h, Command.pops_run h,
          Frame.popN, if_pos h]
        rfl
      · simp only [inPlace, run, EStateM.run_bind, Command.demand_unmet (Nat.lt_of_not_le h),
          Frame.popN, if_neg h]
        rfl
  | peek offset =>
      by_cases h : offset < f.depth
      · simp only [inPlace, run, EStateM.run_bind, Command.peek, Command.demand_met h, Frame.peek,
          if_pos h]
        rfl
      · have hless : f.depth < offset + 1 := by omega
        simp only [inPlace, run, EStateM.run_bind, Command.peek, Command.demand_unmet hless,
          Frame.peek, if_neg h]
        rfl
  | clearStack => rfl
  | getLocal index =>
      cases h : f.locals[index]? <;>
        simp only [inPlace, run, EStateM.run_bind, EStateM.run_get, Command.read, slots,
          Frame.getLocal, readSlot, h] <;> rfl
  | setLocal index v =>
      by_cases h : index < f.locals.length <;>
        simp only [inPlace, run, EStateM.run_bind, EStateM.run_get, Command.write, slots,
          Frame.setLocal, writeSlot, h, if_true, if_false] <;> rfl
  | getArg index =>
      cases h : f.args[index]? <;>
        simp only [inPlace, run, EStateM.run_bind, EStateM.run_get, Command.read, slots,
          Frame.getArg, readSlot, h] <;> rfl
  | setArg index v =>
      by_cases h : index < f.args.length <;>
        simp only [inPlace, run, EStateM.run_bind, EStateM.run_get, Command.write, slots,
          Frame.setArg, writeSlot, h, if_true, if_false] <;> rfl
  | merge other =>
      by_cases h : f.shape = other.shape
      · simp only [inPlace, run, EStateM.run_bind, EStateM.run_get, Command.merge, if_pos h,
          merge_of_shape h]
        rfl
      · simp only [inPlace, run, EStateM.run_bind, EStateM.run_get, Command.merge, if_neg h,
          merge_of_shape_ne h]
        rfl

def Operation.after (op : Operation) (f : Frame) : Frame :=
  match op.inPlace.run f with
  | .ok _ g => g
  | .error _ g => g

theorem Operation.after_cases (op : Operation) (f : Frame) :
    (∃ e, op.run f = .error e ∧ op.after f = f) ∨ ∃ a, op.run f = .ok (a, op.after f) := by
  rw [after, inPlace_run]
  cases op.run f with
  | error e => exact .inl ⟨e, rfl, rfl⟩
  | ok r => exact .inr ⟨r.1, rfl⟩

inductive Fresh : Frame → Prop
  | blank (maxStack locals args : Nat) : Fresh (Frame.blank maxStack locals args)
  | withSlots (maxStack : Nat) (locals args : List Nullity) :
      Fresh (Frame.withSlots maxStack locals args)

/-- The second frame is what operations, done one after another, have made of the first. A frame that
is merged with it came about in the same way. -/
inductive Becomes : Frame → Frame → Prop
  | none (f : Frame) : Becomes f f
  | alone {f g : Frame} (h : Becomes f g) (op : Operation) (hop : ∀ other, op ≠ .merge other) :
      Becomes f (op.after g)
  | merge {f g start other : Frame} (h : Becomes f g) (hstart : Fresh start)
      (hother : Becomes start other) : Becomes f ((Operation.merge other).after g)

/-- The stack is not deeper than its slots go, and none of them is in use from the depth on. -/
structure Kept (sh : Shape) (f : Frame) : Prop extends Trim sh f where
  fits : f.depth ≤ sh.stack

theorem kept_iff_rel : f.Kept sh ↔ Rel sh (· = ·) f f := by
  constructor
  · intro h
    exact ⟨h.shape, h.shape, rfl, h.fits, fun _ _ => rfl, fun i hi => ⟨h.free i hi, h.free i hi⟩,
      List.forall₂_same.2 fun _ _ => rfl, List.forall₂_same.2 fun _ _ => rfl⟩
  · intro h
    exact ⟨⟨h.left, fun i hi => (h.free i hi).1⟩, h.fits⟩

theorem Tidy.kept (h : f.Tidy sh) : f.Kept sh := ⟨h.trim, h.fits⟩

theorem Kept.join (hf : f.Kept sh) (hg : g.Kept sh) : (f.join g).Kept sh :=
  ⟨hf.toTrim.join hg.toTrim, Nat.max_le.2 ⟨hf.fits, hg.fits⟩⟩

theorem withSlots_kept (maxStack : Nat) (locals args : List Nullity) :
    (withSlots maxStack locals args).Kept ⟨maxStack, locals.length, args.length⟩ := by
  refine ⟨⟨by simp [withSlots, shape], fun i _ => ?_⟩, Nat.zero_le _⟩
  change (List.replicate maxStack Nullity.unused).getD i .unused = .unused
  grind

theorem Fresh.kept (h : f.Fresh) : f.Kept f.shape := by
  cases h with
  | blank maxStack locals args =>
      have hkept := withSlots_kept maxStack (.replicate locals .unused) (.replicate args .unused)
      exact hkept.shape.symm ▸ hkept
  | withSlots maxStack locals args =>
      have hkept := withSlots_kept maxStack locals args
      exact hkept.shape.symm ▸ hkept

theorem Operation.run_rel (hf : Rel sh (· = ·) f f) (hop : ∀ other, op ≠ .merge other) :
    Agree (fun a b => Rel sh (· = ·) a.2 b.2) (op.run f) (op.run f) := by
  cases op with
  | push v => exact (hf.push rfl).bind fun _ _ h => .pure h
  | pop => exact hf.pop.bind fun _ _ h => .pure h.2
  | popN count => exact (hf.popN count).bind fun _ _ h => .pure h
  | peek offset => exact (hf.peek offset).bind fun _ _ _ => .pure hf
  | clearStack => exact .ok hf.clearStack
  | getLocal index => exact (hf.getLocal index).bind fun _ _ _ => .pure hf
  | setLocal index v => exact (hf.setLocal rfl index).bind fun _ _ h => .pure h
  | getArg index => exact (hf.getArg index).bind fun _ _ _ => .pure hf
  | setArg index v => exact (hf.setArg rfl index).bind fun _ _ h => .pure h
  | merge other => exact absurd rfl (hop other)

theorem Kept.after (hf : f.Kept sh) (hop : ∀ other, op ≠ .merge other) : (op.after f).Kept sh := by
  rcases op.after_cases f with ⟨_, _, hsame⟩ | ⟨_, hrun⟩
  · rwa [hsame]
  · exact kept_iff_rel.2 ((Operation.run_rel (kept_iff_rel.1 hf) hop).self hrun)

theorem Kept.after_merge {sh' : Shape} (hf : f.Kept sh) (hg : g.Kept sh') :
    ((Operation.merge g).after f).Kept sh := by
  rcases (Operation.merge g).after_cases f with ⟨_, _, hsame⟩ | ⟨_, hrun⟩
  · rwa [hsame]
  · simp only [Operation.run, bind_eq_ok, pure_eq_ok, Prod.mk.injEq] at hrun
    obtain ⟨_, hmerge, _, hafter⟩ := hrun
    obtain ⟨hs, rfl⟩ := merge_eq_ok_iff.1 hmerge
    have hsh : sh' = sh := by rw [← hg.shape, ← hs, hf.shape]
    rw [← hafter]
    exact hf.join (hsh ▸ hg)

theorem Becomes.kept (h : f.Becomes g) (hf : f.Kept sh) : g.Kept sh := by
  induction h generalizing sh with
  | none => exact hf
  | alone _ op hop ih => exact (ih hf).after hop
  | merge _ hstart _ ih ih' => exact (ih hf).after_merge (ih' hstart.kept)

theorem Kept.pop_push (hf : f.Kept sh) (hroom : f.depth < sh.stack) (v : Nullity) :
    ∃ g, f.push v = .ok g ∧ g.pop = .ok (v, f) := by
  have hlen : f.stack.length = sh.stack := congrArg Shape.stack hf.shape
  have hlt : f.depth < f.stack.length := hlen ▸ hroom
  have hfree : f.stack[f.depth] = .unused := by
    simpa [hlt] using hf.free f.depth le_rfl
  refine ⟨_, if_pos hlt, pop_eq_ok.2 ⟨peek_eq_ok.2 ⟨Nat.succ_pos _, by simp [hlt]⟩, ?_⟩⟩
  simp [dropTop, ← hfree]

theorem Kept.push_full (hf : f.Kept sh) (hfull : f.depth = sh.stack) (v : Nullity) :
    f.push v = .error (.stackOverflow f.depth) := by
  have hlen : f.stack.length = sh.stack := congrArg Shape.stack hf.shape
  rw [push, hlen, ← hfull, if_neg (Nat.lt_irrefl _)]

def pops : Nat → Frame → Except FrameError (List Nullity × Frame)
  | 0, f => .ok ([], f)
  | count + 1, f => do
    let (v, f) ← f.pop
    let (values, f) ← pops count f
    return (v :: values, f)

theorem pops_eq {count : Nat} (h : count ≤ f.depth) :
    ∃ values, f.pops count = .ok (values, f.dropTops count) := by
  induction count generalizing f with
  | zero => exact ⟨[], rfl⟩
  | succ count ih =>
      have hpop := pop_eq_ok.2 ⟨peek_eq_ok.2 ⟨Nat.zero_lt_of_lt h, rfl⟩, rfl⟩
      obtain ⟨values, hrest⟩ := ih (f := f.dropTop) (Nat.le_sub_of_add_le h)
      refine ⟨f.stack.getD (f.depth - 1) .unused :: values, ?_⟩
      rw [pops, hpop]
      simp only [bind, Except.bind, hrest]
      rfl

theorem Kept.ext_iff (hf : f.Kept sh) (hg : g.Kept sh) : f = g ↔ f.depth = g.depth ∧
    f.stack.take f.depth = g.stack.take g.depth ∧ f.locals = g.locals ∧ f.args = g.args := by
  constructor
  · rintro rfl
    exact ⟨rfl, rfl, rfl, rfl⟩
  · rintro ⟨hdepth, htake, hlocals, hargs⟩
    have hlen : f.stack.length = g.stack.length :=
      congrArg Shape.stack (hf.shape.trans hg.shape.symm)
    have hstack : f.stack = g.stack := by
      rw [← List.take_append_drop f.depth f.stack, ← List.take_append_drop g.depth g.stack, htake,
        hf.drop_eq, hg.drop_eq, hlen, hdepth]
    cases f
    cases g
    simp_all

/-- What holds of a frame that operations have made of another. -/
structure Maintained (start f : Frame) : Prop where
  kept : f.Kept start.shape
  done : ∀ (op : Operation) a g, op.run f = .ok (a, g) → op.inPlace.run f = .ok a g
  failed : ∀ (op : Operation) e, op.run f = .error e → op.inPlace.run f = .error e f
  pop_push : ∀ v, f.depth < start.shape.stack → ∃ g, f.push v = .ok g ∧ g.pop = .ok (v, f)
  push_full : ∀ v, f.depth = start.shape.stack → f.push v = .error (.stackOverflow f.depth)
  popN_ok : ∀ count ≤ f.depth, ∃ values g, f.popN count = .ok g ∧ f.pops count = .ok (values, g)
  popN_short : ∀ count, f.depth < count → f.popN count = .error (.stackUnderflow count f.depth)
  eq_iff : ∀ start' g, Fresh start' → Becomes start' g → g.shape = f.shape →
    (f = g ↔ f.depth = g.depth ∧ f.stack.take f.depth = g.stack.take g.depth ∧
      f.locals = g.locals ∧ f.args = g.args)

theorem operations_maintain {start : Frame} (hstart : start.Fresh) (h : start.Becomes f) :
    Maintained start f where
  kept := h.kept hstart.kept
  done op a g hrun := by
    rw [op.inPlace_run, hrun]
    rfl
  failed op e hrun := by
    rw [op.inPlace_run, hrun]
    rfl
  pop_push v hroom := (h.kept hstart.kept).pop_push hroom v
  push_full v hfull := (h.kept hstart.kept).push_full hfull v
  popN_ok count hle := by
    obtain ⟨values, hpops⟩ := pops_eq hle
    exact ⟨values, _, if_pos hle, hpops⟩
  popN_short count hlt := if_neg (Nat.not_le.2 hlt)
  eq_iff start' g hstart' h' hs := by
    have hkept := h.kept hstart.kept
    have hkept' := h'.kept hstart'.kept
    rw [← hkept'.shape, hs, hkept.shape] at hkept'
    exact hkept.ext_iff hkept'

/-- What is left of a blank frame after pushes of which one finds no room, a merge with a frame whose
stack is deeper, and pops of which one asks for too much. -/
def worn : Frame := ⟨[.unknown, .unused], 1, [.unknown], []⟩

theorem worn_maintained : Fresh (blank 2 1 0) ∧ Becomes (blank 2 1 0) worn ∧
    Maintained (blank 2 1 0) worn ∧
    (Operation.popN 3).inPlace.run worn = .error (.stackUnderflow 3 1) worn ∧
    ∃ g, worn.push .null = .ok g ∧ g.pop = .ok (.null, worn) := by
  have hother : Becomes (withSlots 2 [.null] []) ⟨[.unknown, .nonNull], 2, [.null], []⟩ :=
    ((Becomes.none _).alone (.push .unknown) nofun).alone (.push .nonNull) nofun
  have hfull : Becomes (blank 2 1 0) ⟨[.null, .nonNull], 2, [.nonNull], []⟩ :=
    ((((Becomes.none _).alone (.push .null) nofun).alone (.push .nonNull) nofun).alone
      (.setLocal 0 .nonNull) nofun).alone (.push .null) nofun
  have hworn : Becomes (blank 2 1 0) worn :=
    (((hfull.alone .pop nofun).merge (.withSlots 2 [.null] []) hother).alone (.popN 3) nofun).alone
      .pop nofun
  have hmaintained := operations_maintain (.blank 2 1 0) hworn
  exact ⟨.blank 2 1 0, hworn, hmaintained, hmaintained.failed _ _ rfl,
    hmaintained.pop_push .null (by decide)⟩

end Frame

end NullFlow
