import NullFlow.Proofs.Reporting
import NullFlow.Proofs.StackTests

namespace NullFlow

def Opcode.invokes : Opcode → Bool
  | .call | .callvirt | .calli | .newobj => true
  | _ => false

theorem Opcode.invokes_cases {op : Opcode} (h : op.invokes) :
    op = .newobj ∨ op ≠ .newobj ∧ op.effect = .call (op == .calli) := by
  revert h
  cases op <;> decide

/-- How far below the top of the stack the value for a parameter lies: under those of the parameters
behind it, and under the function pointer of an indirect call. -/
def Instruction.argumentOffset (i : Instruction) (callee : MethodRef) (index : Nat) : Nat :=
  callee.parameters.length - 1 - index + (i.opcode == .calli).toNat

namespace Scope

variable {s : Scope} {g : Graph} {sol : Solution} {i : Instruction} {f f' : Frame}
  {issues : List Issue} {callee : MethodRef} {index : Nat}

theorem call_argument (hcall : i.opcode.effect = .call (i.opcode == .calli))
    (hcallee : i.methodRef = .ok callee) (hlt : index < callee.parameters.length)
    (hc : s.contracts.parameter callee.fullName index) (h : s.step i f = .ok (f', issues)) :
    ∃ v, f.peek (i.argumentOffset callee index) = .ok v ∧ Issue.ofFlow .argument v ⊆ issues := by
  have hprobed := step_probed h
  simp only [probes, hcall, hcallee] at hprobed
  exact hprobed.found (mem_callProbes hlt hc)

theorem construct_argument (hnew : i.opcode = .newobj) (hcallee : i.methodRef = .ok callee)
    (hlt : index < callee.parameters.length) (h : s.step i f = .ok (f', issues)) :
    (∃ v, f.peek (i.argumentOffset callee index) = .ok v) ∧ issues = [] := by
  have he : i.opcode.effect = .construct := by rw [hnew]; rfl
  constructor
  · have hpop : callee.parameters.length ≤ f.depth := by
      simp only [step, he, hcallee, bind_eq_ok, onFrame_eq_ok, Frame.popN] at h
      obtain ⟨_, hm, _, hpop, _⟩ := h
      cases hm
      by_contra hdeep
      simp [hdeep] at hpop
    have hoffset : i.argumentOffset callee index = callee.parameters.length - 1 - index := by
      simp [Instruction.argumentOffset, hnew]
    refine ⟨_, Frame.peek_eq_ok.2 ⟨?_, rfl⟩⟩
    rw [hoffset]
    omega
  · have hprobed := step_probed h
    simp only [probes, he] at hprobed
    cases hprobed
    rfl

/-- A value that may be null and is passed for a parameter declared not to be, in whose method the
parameter is taken not to be null, is reported where a call passes it. A construction reports
nothing, whatever it passes. -/
theorem invocation_reports (hg : Graph.ofBody s.body = .ok g) (h : s.solve g = .ok sol)
    {n k : Nat} {b : Block} (hb : g.nodes[n]? = some (.block b)) (hin : b.Holds k)
    (hn : sol.reached n) (hi : s.body.instructions[k]? = some i) (hinvokes : i.opcode.invokes)
    (hcallee : i.methodRef = .ok callee) (hlt : index < callee.parameters.length)
    (hc : s.contracts.parameter callee.fullName index) :
    (∀ m : Scope, m.contracts = s.contracts → m.fullName = callee.fullName →
      index < m.method.parameters.length →
      m.entry.args[index + m.method.hasThis.toNat]? = some .nonNull) ∧
    ∃ fact mid v, sol.facts[n]? = some fact ∧ s.before b (k - b.first) fact = .ok mid ∧
      mid.peek (i.argumentOffset callee index) = .ok v ∧
      (i.opcode ≠ .newobj →
        (v = .null → ⟨i.offset, .nullInto .argument⟩ ∈ sol.findings) ∧
        (v = .unknown → ⟨i.offset, .maybeNullInto .argument⟩ ∈ sol.findings)) ∧
      (i.opcode = .newobj →
        (∀ j x, s.body.instructions[j]? = some x → x.offset = i.offset → j = k) →
        ∀ found ∈ sol.findings, found.offset ≠ i.offset) := by
  constructor
  · intro m hm hname hlt'
    rw [entry_parameter hlt', hm, hname, if_pos hc]
  · obtain ⟨fact, mid, next, issues, hf, hmid, hstep, hreport⟩ := reached_reports hg h hb hin hn hi
    rcases Opcode.invokes_cases hinvokes with hnew | ⟨hnew, hcall⟩
    · obtain ⟨⟨v, hv⟩, rfl⟩ := construct_argument hnew hcallee hlt hstep
      exact ⟨fact, mid, v, hf, hmid, hv, fun hne => absurd hnew hne, fun _ => hreport.silent hg h⟩
    · obtain ⟨v, hv, hsub⟩ := call_argument hcall hcallee hlt hc hstep
      have hmem {issue : Issue} (hissue : issue ∈ Issue.ofFlow .argument v) :
          ⟨i.offset, issue⟩ ∈ sol.findings :=
        (mem_findings hg h).2 ⟨k, _, hreport, List.mem_map_of_mem (hsub hissue)⟩
      refine ⟨fact, mid, v, hf, hmid, hv, fun _ => ⟨?_, ?_⟩, fun he => absurd he hnew⟩
      · rintro rfl
        exact hmem List.mem_cons_self
      · rintro rfl
        exact hmem List.mem_cons_self

def itemConstructor : MethodRef :=
  ⟨"Sample.Item", ".ctor", true, [⟨"System.String", false⟩], ⟨"System.Void", true⟩, false⟩

def derived : Scope where
  owner := "Sample.Derived"
  method := ⟨".ctor", ⟨"System.Void", true⟩, true, [], [], none⟩
  body := {
    maxStack := 2
    locals := []
    instructions := [
      ⟨0, .ldarg0, .none⟩, ⟨1, .ldnull, .none⟩, ⟨2, .call, .method itemConstructor⟩,
      ⟨7, .ldnull, .none⟩, ⟨8, .newobj, .method itemConstructor⟩, ⟨13, .pop, .none⟩,
      ⟨14, .ret, .none⟩]
    handlers := [] }
  contracts := ⟨[], ["System.Void Sample.Item::.ctor(System.String)/0"], []⟩

def derivedGraph : Graph := Graph.assemble derived.body

def derivedSolution : Solution where
  facts := [
    ⟨[.unused, .unused], 0, [], [.nonNull]⟩, ⟨[.unused, .unused], 0, [], [.nonNull]⟩,
    ⟨[.unused, .unused], 0, [], [.nonNull]⟩]
  trail := [1, 2, 0]
  findings := [⟨2, .nullInto .argument⟩]

theorem derived_reports : Graph.ofBody derived.body = .ok derivedGraph ∧
    derived.solve derivedGraph = .ok derivedSolution ∧
    derived.contracts.parameter itemConstructor.fullName 0 ∧
    ⟨2, .nullInto .argument⟩ ∈ derivedSolution.findings := by
  have hc : derived.contracts.parameter itemConstructor.fullName 0 := by decide
  have hsolve : derived.solve derivedGraph = .ok derivedSolution := rfl
  obtain ⟨_, fact, mid, v, hf, hmid, hv, hcall, _⟩ := invocation_reports (n := 2) (k := 2)
    (b := ⟨0, 6⟩) rfl hsolve rfl ⟨by decide, by decide⟩ rfl rfl rfl rfl
    (by decide : 0 < itemConstructor.parameters.length) hc
  cases hf
  cases hmid
  cases hv
  exact ⟨rfl, hsolve, hc, (hcall (by decide)).1 rfl⟩

theorem derived_construct_silent : Graph.ofBody derived.body = .ok derivedGraph ∧
    derived.solve derivedGraph = .ok derivedSolution ∧ derivedSolution.reached 2 ∧
    derived.contracts.parameter itemConstructor.fullName 0 ∧
    (∃ fact mid, derivedSolution.facts[2]? = some fact ∧ derived.before ⟨0, 6⟩ 4 fact = .ok mid ∧
      derived.body.instructions[4]? = some ⟨8, .newobj, .method itemConstructor⟩ ∧
      mid.peek 0 = .ok .null) ∧
    ∀ found ∈ derivedSolution.findings, found.offset ≠ 8 :=
  ⟨rfl, rfl, rfl, by decide, ⟨_, _, rfl, rfl, rfl, rfl⟩, by decide⟩

end Scope

end NullFlow
