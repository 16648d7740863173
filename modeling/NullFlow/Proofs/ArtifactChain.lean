import Mathlib.Data.Int.Order.Basic
import NullFlow.Artifact

namespace NullFlow.Artifact

/-- The artifact of a number and the archives around it, up to the outermost. -/
inductive Chain (artifacts : List Artifact) : Int → List Artifact → Prop
  | outside {index : Int} : at? artifacts index = none → Chain artifacts index []
  | top {index : Int} {a : Artifact} : at? artifacts index = some a → a.parent = none →
      Chain artifacts index [a]
  | inside {index parent : Int} {a : Artifact} {way : List Artifact} :
      at? artifacts index = some a → a.parent = some parent → Chain artifacts parent way →
      Chain artifacts index (a :: way)

def Ordered (artifacts : List Artifact) : Prop :=
  ∀ (k : ℕ) (a : Artifact) (parent : Int), artifacts[k]? = some a → a.parent = some parent →
    parent < k

variable {artifacts way way' : List Artifact} {index : Int} {a : Artifact}

theorem at?_eq_some (h : at? artifacts index = some a) :
    ∃ k : ℕ, index = k ∧ artifacts[k]? = some a := by
  rw [at?] at h
  split at h
  · rename_i hindex
    exact ⟨index.toNat, (Int.toNat_of_nonneg hindex).symm, h⟩
  · cases h

theorem Ordered.chain (h : Ordered artifacts) {fuel : ℕ} (hfuel : index < fuel) :
    Chain artifacts index (ancestry artifacts fuel index) := by
  induction fuel generalizing index with
  | zero => exact .outside (if_neg (by omega))
  | succ fuel ih =>
      rw [ancestry]
      split
      · rename_i ha
        exact .outside ha
      · rename_i a ha
        split
        · rename_i hparent
          exact .top ha hparent
        · rename_i parent hparent
          obtain ⟨k, rfl, hk⟩ := at?_eq_some ha
          have hlt : parent < k := h k a parent hk hparent
          exact .inside ha hparent (ih (lt_of_lt_of_le hlt (by omega)))

theorem Ordered.chain_ancestry (h : Ordered artifacts) (index : Int) :
    Chain artifacts index (ancestry artifacts (artifacts.length + 1) index) := by
  by_cases hindex : index < (artifacts.length + 1 : ℕ)
  · exact h.chain hindex
  · have hnone : at? artifacts index = none := by
      rw [at?, if_pos (by omega), List.getElem?_eq_none (by omega)]
    rw [ancestry, hnone]
    exact .outside hnone

theorem Chain.unique (h : Chain artifacts index way) (h' : Chain artifacts index way') :
    way = way' := by
  induction h generalizing way' with
  | outside hnone => cases h' <;> simp_all
  | top ha hparent => cases h' <;> simp_all
  | inside ha hparent _ ih =>
      cases h' with
      | inside ha' hparent' hrest' =>
          obtain rfl := Option.some.inj (ha.symm.trans ha')
          obtain rfl := Option.some.inj (hparent.symm.trans hparent')
          rw [ih hrest']
      | outside hnone => simp_all
      | top ha' hparent' => simp_all

theorem Ordered.analyzed_iff (h : Ordered artifacts) (hway : Chain artifacts index way) :
    analyzed artifacts index ↔ (∀ a ∈ artifacts, ¬ a.isTarget) ∨ ∃ a ∈ way, a.isTarget := by
  rw [hway.unique (h.chain_ancestry index)]
  simp [analyzed]

end NullFlow.Artifact
