import NullFlow.Proofs.HandlerCoverage

namespace NullFlow

/-- The operand is the number of a slot, in any of the ways it can be given. -/
def Operand.Numbers (operand : Operand) (j : Nat) : Prop :=
  operand = .localVar j ∨ operand = .arg j ∨ operand = .int j

instance (operand : Operand) (j : Nat) : Decidable (operand.Numbers j) :=
  inferInstanceAs (Decidable (_ ∨ _ ∨ _))

namespace Opcode

variable {op : Opcode}

theorem mem_of_writes_argument (h : op.effect = .storeArg ∨ op.effect = .addressArg) :
    op ∈ [.stargS, .starg, .ldargaS, .ldarga] := by
  revert h
  cases op <;> decide

theorem mem_of_writes_local (h : op.effect = .storeLocal .operand ∨ op.effect = .addressLocal) :
    op ∈ [.stlocS, .stloc, .ldlocaS, .ldloca] := by
  revert h
  cases op <;> decide

theorem mem_of_writes_fixed {j : Nat} (h : op.effect = .storeLocal (.fixed j)) :
    (op, j) ∈ [(.stloc0, 0), (.stloc1, 1), (.stloc2, 2), (.stloc3, 3)] := by
  cases op <;> cases h <;> decide

end Opcode

namespace Instruction

variable {i : Instruction} {kind : SlotKind} {j : Nat}

def Writes (i : Instruction) : SlotKind → Nat → Prop
  | .argument, j => i.opcode ∈ [.stargS, .starg, .ldargaS, .ldarga] ∧ i.operand.Numbers j
  | .localVar, j => i.opcode ∈ [.stlocS, .stloc, .ldlocaS, .ldloca] ∧ i.operand.Numbers j ∨
    (i.opcode, j) ∈ [(.stloc0, 0), (.stloc1, 1), (.stloc2, 2), (.stloc3, 3)]

instance (i : Instruction) (kind : SlotKind) (j : Nat) : Decidable (i.Writes kind j) :=
  match kind with
  | .argument => inferInstanceAs (Decidable (_ ∧ _))
  | .localVar => inferInstanceAs (Decidable (_ ∧ _ ∨ _))

theorem numbers_of_slot (h : i.slot = .ok j) : i.operand.Numbers j := by
  unfold slot at h
  split at h
  case h_1 hop =>
    cases h
    exact .inl hop
  case h_2 hop =>
    cases h
    exact .inr (.inl hop)
  case h_3 hop =>
    split at h
    · cases h
      refine .inr (.inr ?_)
      rwa [Int.toNat_of_nonneg ‹_›]
    · cases h
  case h_4 => cases h

theorem writes_of_written (h : i.written? = some (kind, j)) : i.Writes kind j := by
  have hslot {kind' : SlotKind} (h : i.slot.toOption.map (kind', ·) = some (kind, j)) :
      kind' = kind ∧ i.operand.Numbers j := by
    cases hi : i.slot with
    | error cause =>
        rw [hi] at h
        cases h
    | ok j' =>
        rw [hi] at h
        cases h
        exact ⟨rfl, numbers_of_slot hi⟩
  unfold written? at h
  split at h
  case h_1 he =>
    obtain ⟨rfl, hj⟩ := hslot h
    exact ⟨Opcode.mem_of_writes_argument (.inl he), hj⟩
  case h_2 he =>
    obtain ⟨rfl, hj⟩ := hslot h
    exact ⟨Opcode.mem_of_writes_argument (.inr he), hj⟩
  case h_3 choice he =>
    cases choice with
    | fixed index =>
        cases h
        exact .inr (Opcode.mem_of_writes_fixed he)
    | operand =>
        obtain ⟨rfl, hj⟩ := hslot h
        exact .inl ⟨Opcode.mem_of_writes_local (.inl he), hj⟩
  case h_4 he =>
    obtain ⟨rfl, hj⟩ := hslot h
    exact .inl ⟨Opcode.mem_of_writes_local (.inr he), hj⟩
  case h_5 => cases h

end Instruction

theorem Frame.join_slots (f g : Frame) (kind : SlotKind) :
    (f.join g).slots kind = List.zipWith Nullity.merge (f.slots kind) (g.slots kind) := by
  cases kind <;> rfl

namespace Scope

variable {s : Scope} {g : Graph} {sol : Solution} {kind : SlotKind} {j : Nat}

def Unwritten (s : Scope) (kind : SlotKind) (j : Nat) : Prop :=
  ∀ i ∈ s.body.instructions, ¬ i.Writes kind j

instance (s : Scope) (kind : SlotKind) (j : Nat) : Decidable (s.Unwritten kind j) :=
  inferInstanceAs (Decidable (∀ i ∈ s.body.instructions, _))

theorem unreached_slots (s : Scope) (kind : SlotKind) (j : Nat) :
    (s.unreached.slots kind)[j]? = (s.entry.slots kind)[j]?.map fun _ => .unused := by
  have hlen := Frame.slots_length s.unreached_tidy.shape s.entry_live.shape kind
  have hblank : s.unreached.slots kind =
      List.replicate (s.unreached.slots kind).length .unused := by
    cases kind <;> simp [Frame.slots, unreached, Frame.blank, Frame.withSlots]
  rw [hblank, hlen, ← List.getElem?_map, List.map_const']

theorem executeNode_slots {node : Node} {f out : Frame} {findings : List Finding}
    (hw : s.Unwritten kind j) (h : s.executeNode node f = .ok (out, findings)) :
    (out.slots kind)[j]? = (f.slots kind)[j]? := by
  cases node with
  | entry | exit | exception =>
      cases h
      rfl
  | block b =>
      refine execute_slots h fun i hi hwritten => ?_
      have hmem : i ∈ s.body.instructions := List.mem_of_mem_drop (List.mem_of_mem_take hi)
      exact hw i hmem (Instruction.writes_of_written hwritten)

theorem join_unwritten {fact out : Frame}
    (hfact : (fact.slots kind)[j]? = (s.entry.slots kind)[j]? ∨
      (fact.slots kind)[j]? = (s.unreached.slots kind)[j]?)
    (hout : (out.slots kind)[j]? = (s.entry.slots kind)[j]?) :
    ((fact.join out).slots kind)[j]? = (s.entry.slots kind)[j]? := by
  rw [Frame.join_slots, List.getElem?_zipWith, hout]
  rcases hfact with hsame | hblank
  · rw [hsame]
    cases (s.entry.slots kind)[j]? with
    | none => rfl
    | some v => exact congrArg some (sup_idem v)
  · -- The first merge replaces what stands for no value.
    rw [hblank, unreached_slots]
    cases (s.entry.slots kind)[j]? with
    | none => rfl
    | some v => rfl

theorem dataflow_unwritten (hg : Graph.ofBody s.body = .ok g) :
    (s.dataflow g).Preserving
      (fun _ f => ∀ kind j, s.Unwritten kind j →
        (f.slots kind)[j]? = (s.entry.slots kind)[j]? ∨
        (f.slots kind)[j]? = (s.unreached.slots kind)[j]?)
      (fun _ f => ∀ kind j, s.Unwritten kind j →
        (f.slots kind)[j]? = (s.entry.slots kind)[j]?) where
  seed {n f} hf kind j _ := by
    simp only [dataflow] at hf
    cases hnode : g.nodes.getD n .exit with
    | entry =>
        rw [hnode] at hf
        cases hf
        exact .inl rfl
    | exit | block =>
        rw [hnode] at hf
        cases hf
        exact .inr rfl
    | exception index receives =>
        rw [hnode] at hf
        exact .inl (by rw [seed_slots hf])
  first hf kind j _ := by rw [dataflow_seed_entry hg hf]
  within h kind j hw := .inl (h kind j hw)
  visit {n f out} hmet ht t _ fact m hfact hm kind j hw := by
    obtain ⟨findings, he⟩ := dataflow_transfer.1 ht
    obtain ⟨_, rfl⟩ := Frame.merge_eq_ok_iff.1 (dataflow_merge.1 hm)
    apply join_unwritten (hfact kind j hw)
    simp only [dataflow, arrive_slots]
    exact (executeNode_slots hw he).trans (hmet kind j hw)

/-- Every slot that nothing writes has its first value: the receiver and parameters declared so are
not null, nothing is known of the other parameters, and locals are null. -/
structure KeepsUnwritten (s : Scope) (fact : Frame) : Prop where
  arguments : ∀ a, s.Unwritten .argument a → fact.args[a]? = s.entry.args[a]?
  receiver : s.method.hasThis → s.Unwritten .argument 0 → fact.args[0]? = some .nonNull
  parameters : ∀ p < s.method.parameters.length,
    s.Unwritten .argument (p + s.method.hasThis.toNat) →
    fact.args[p + s.method.hasThis.toNat]? =
      some (if s.contracts.parameter s.fullName p then .nonNull else .unknown)
  locals : ∀ l < s.body.locals.length, s.Unwritten .localVar l → fact.locals[l]? = some .null

theorem solve_unwritten (hg : Graph.ofBody s.body = .ok g) (h : s.solve g = .ok sol) {n : Nat}
    (hn : sol.reached n) : ∃ fact, sol.facts[n]? = some fact ∧ s.KeepsUnwritten fact := by
  obtain ⟨fact, hf, hkeeps⟩ := reached_met hg h (dataflow_unwritten hg) hn
  have hargs {a : Nat} (hw : s.Unwritten .argument a) : fact.args[a]? = s.entry.args[a]? :=
    hkeeps .argument a hw
  refine ⟨fact, hf, fun a => hargs, fun hthis hw => ?_, fun p hp hw => ?_, fun l hl hw => ?_⟩
  · rw [hargs hw, entry_receiver hthis]
  · rw [hargs hw, entry_parameter hp]
  · have hlocal : fact.locals[l]? = s.entry.locals[l]? := hkeeps .localVar l hw
    rw [hlocal]
    exact List.getElem?_replicate_of_lt hl

def reassign : Scope where
  owner := "Sample.Widget"
  method := ⟨"Run", ⟨"System.Void", true⟩, true,
    [⟨"name", ⟨"System.String", false⟩, []⟩, ⟨"next", ⟨"System.Object", false⟩, []⟩,
      ⟨"rest", ⟨"System.Object", false⟩, []⟩], [], none⟩
  body := {
    maxStack := 1
    locals := [⟨"System.Object", false⟩, ⟨"System.Object", false⟩]
    instructions := [
      ⟨0, .ldarg3, .none⟩, ⟨1, .stargS, .arg 2⟩, ⟨2, .ldarg1, .none⟩, ⟨3, .stlocS, .localVar 0⟩,
      ⟨4, .leave, .target 7⟩,
      ⟨5, .pop, .none⟩, ⟨6, .leave, .target 7⟩,
      ⟨7, .ldloc1, .none⟩, ⟨8, .brfalse, .target 0⟩, ⟨9, .ret, .none⟩]
    handlers := [⟨.catch, 0, 5, 5, 7, none⟩] }
  contracts :=
    ⟨[], ["System.Void Sample.Widget::Run(System.String,System.Object,System.Object)/0"], []⟩

def reassignGraph : Graph := Graph.assemble reassign.body

def reassignSolution : Solution where
  facts := [
    ⟨[.unused], 0, [.null, .null], [.nonNull, .nonNull, .unknown, .unknown]⟩,
    ⟨[.unused], 0, [.unknown, .null], [.nonNull, .nonNull, .unknown, .unknown]⟩,
    ⟨[.unused], 0, [.unknown, .null], [.nonNull, .nonNull, .unknown, .unknown]⟩,
    ⟨[.nonNull], 1, [.unknown, .null], [.nonNull, .nonNull, .unknown, .unknown]⟩,
    ⟨[.unused], 0, [.unknown, .null], [.nonNull, .nonNull, .unknown, .unknown]⟩,
    ⟨[.unused], 0, [.unknown, .null], [.nonNull, .nonNull, .unknown, .unknown]⟩,
    ⟨[.nonNull], 1, [.unknown, .null], [.nonNull, .nonNull, .unknown, .unknown]⟩]
  trail := [1, 5, 4, 1, 3, 5, 2, 6, 4, 2, 0]
  findings := []

theorem reassign_keeps : Graph.ofBody reassign.body = .ok reassignGraph ∧
    reassign.solve reassignGraph = .ok reassignSolution ∧ reassignSolution.reached 4 ∧
    (∀ a ∈ [0, 1, 3], reassign.Unwritten .argument a) ∧ ¬ reassign.Unwritten .argument 2 ∧
    reassign.Unwritten .localVar 1 ∧ ¬ reassign.Unwritten .localVar 0 ∧
    ∃ fact, reassignSolution.facts[4]? = some fact ∧ reassign.KeepsUnwritten fact := by
  refine ⟨rfl, rfl, rfl, by decide, by decide, by decide, by decide, ?_⟩
  exact solve_unwritten (g := reassignGraph) rfl rfl rfl

end Scope

end NullFlow
