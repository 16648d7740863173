import NullFlow.Proofs.PathSoundness
import NullFlow.Proofs.StackTests

namespace NullFlow

theorem Frame.Live.peek_ne_unused {sh : Shape} {f : Frame} {offset : Nat} {v : Nullity}
    (h : f.Live sh) (hv : f.peek offset = .ok v) : v ≠ .unused := by
  obtain ⟨hlt, rfl⟩ := peek_eq_ok.1 hv
  intro hu
  have hfits := h.fits
  have hfree := (h.unused_iff (f.depth - 1 - offset) (by omega)).1 hu
  omega

namespace Scope

variable {s : Scope} {g : Graph} {sol : Solution}

theorem reached_live (hg : Graph.ofBody s.body = .ok g) (h : s.solve g = .ok sol) {n : Nat}
    {fact : Frame} (hn : n ∈ sol.trail) (hf : sol.facts[n]? = some fact) : fact.Live s.shape :=
  (solve_guarded hg h).used n fact (.inl hn) hf

/-- An answer that a test would give to an unused value is never asked for. -/
theorem step_probed_live {i : Instruction} {f f' : Frame} {issues : List Issue} {sh : Shape}
    (hf : f.Live sh) (hstep : s.step i f = .ok (f', issues))
    {answer : Test → Nullity → List Issue}
    (ha : ∀ test v, v ≠ .unused → answer test v = test.issues i.operand v) :
    Probed answer f (s.probes i) issues := by
  refine (step_probed hstep).congr fun p _ v hv => ?_
  exact (ha p.test v (hf.peek_ne_unused hv)).symm

/-- The fact of a reached node is live, and so are the frames between the instructions of a reached
block that is executed from its fact. A test that one of these instructions makes finds a value, so
that what it would say of an unused slot has no part in the report. -/
structure AllLive (s : Scope) (g : Graph) (sol : Solution) : Prop where
  facts : ∀ n, sol.reached n → ∃ fact, sol.facts[n]? = some fact ∧ fact.Live s.shape
  frames : ∀ n b fact, sol.reached n → g.nodes[n]? = some (.block b) →
    sol.facts[n]? = some fact → ∀ k, ∃ mid, s.before b k fact = .ok mid ∧ mid.Live s.shape
  tests : ∀ n b fact, sol.reached n → g.nodes[n]? = some (.block b) →
    sol.facts[n]? = some fact → ∀ k i, (b.instructions s.body)[k]? = some i →
    ∃ mid next issues, s.before b k fact = .ok mid ∧ s.step i mid = .ok (next, issues) ∧
      (∀ p ∈ s.probes i, ∃ v, mid.peek p.offset = .ok v ∧ v ≠ .unused) ∧
      ∀ answer, (∀ test v, v ≠ .unused → answer test v = test.issues i.operand v) →
        Probed answer mid (s.probes i) issues

theorem solve_live (hg : Graph.ofBody s.body = .ok g) (h : s.solve g = .ok sol) :
    s.AllLive g sol where
  facts n hn := by
    have hn := Solution.reached_iff.1 hn
    obtain ⟨fact, _, hf, _⟩ := reached_transfer hg h hn
    exact ⟨fact, hf, reached_live hg h hn hf⟩
  frames n b fact hn hb hf k := by
    have hn := Solution.reached_iff.1 hn
    obtain ⟨mid, _, _, _, hmid, _⟩ := reached_before hg h hn hb hf k
    exact ⟨mid, hmid, before_live (reached_live hg h hn hf) hmid⟩
  tests n b fact hn hb hf k i hi := by
    have hn := Solution.reached_iff.1 hn
    obtain ⟨mid, next, issues, hmid, hstep⟩ := reached_step hg h hn hb hf hi
    have hlive := before_live (reached_live hg h hn hf) hmid
    refine ⟨mid, next, issues, hmid, hstep, ?_, ?_⟩
    · intro p hp
      obtain ⟨v, hv, _⟩ := (step_probed hstep).found hp
      exact ⟨v, hv, hlive.peek_ne_unused hv⟩
    · intro answer ha
      exact step_probed_live hlive hstep ha

def uneven : Scope where
  owner := "Sample.Widget"
  method := ⟨"Run", ⟨"System.Void", true⟩, false,
    [⟨"flag", ⟨"System.Boolean", true⟩, []⟩], [], none⟩
  body := {
    maxStack := 2
    locals := [⟨"System.Object", false⟩]
    instructions := [
      ⟨0, .ldarg0, .none⟩, ⟨1, .brfalse, .target 3⟩, ⟨2, .ldnull, .none⟩,
      ⟨3, .callvirt,
        .method ⟨"System.Object", "ToString", true, [], ⟨"System.String", false⟩, false⟩⟩,
      ⟨4, .stloc0, .none⟩, ⟨5, .ret, .none⟩]
    handlers := [] }
  contracts := .empty

def unevenGraph : Graph := Graph.assemble uneven.body

def unevenSolution : Solution where
  facts := [
    ⟨[.unused, .unused], 0, [.null], [.unknown]⟩, ⟨[.unused, .unused], 0, [.unknown], [.unknown]⟩,
    ⟨[.unused, .unused], 0, [.null], [.unknown]⟩, ⟨[.unused, .unused], 0, [.null], [.unknown]⟩,
    ⟨[.null, .unused], 1, [.null], [.unknown]⟩]
  trail := [1, 4, 3, 2, 0]
  findings := [⟨3, .nullReceiver (.method "ToString")⟩]

theorem uneven_live : Graph.ofBody uneven.body = .ok unevenGraph ∧
    uneven.solve unevenGraph = .ok unevenSolution ∧
    ¬ uneven.DepthConsistent unevenGraph unevenSolution ∧
    uneven.AllLive unevenGraph unevenSolution :=
  ⟨rfl, rfl, by decide +kernel, solve_live rfl rfl⟩

end Scope

end NullFlow
