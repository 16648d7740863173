import NullFlow.Proofs.KeyedSort
import NullFlow.Report

namespace NullFlow

theorem Report.result_eq_iff {r r' : Result} :
    Report.result r = Report.result r' ↔ r.key = r'.key ∧ r.uri = r'.uri := by
  rw [Result.key_eq_iff]
  constructor
  · intro h
    simp only [Report.result, Report.location, Json.nat, Json.object.injEq, Json.array.injEq,
      Json.string.injEq, Json.number.injEq, Json.Number.int.injEq, List.cons.injEq,
      Prod.mk.injEq, Int.natCast_inj, true_and, and_true] at h
    obtain ⟨⟨hlocation, hphysical⟩, hmessage, hoffset, hrule⟩ := h
    have hfinding : r.finding = r'.finding := by
      apply Finding.key_injective
      rw [Finding.key, Finding.key, hoffset, hmessage]
    refine ⟨⟨hrule, hlocation, hfinding⟩, ?_⟩
    cases hr : r.uri <;> cases hr' : r'.uri <;> simp_all
  · rintro ⟨⟨hrule, hlocation, hfinding⟩, huri⟩
    simp only [Report.result, Report.location, hrule, hlocation, hfinding, huri]

namespace Inspection

variable {i : Inspection} {r kept : Result}

def produced (i : Inspection) : List Result := i.runs.flatMap TypeRun.results

theorem results_eq (i : Inspection) : i.results = Keyed.sort Result.key i.produced :=
  Result.sort_eq _

theorem exists_kept (hr : r ∈ i.produced) : ∃ kept ∈ i.results, kept.key = r.key ∧
    i.produced.find? (fun p => p.key = r.key) = some kept := by
  rw [results_eq]
  exact Keyed.exists_mem_sort Result.key hr

theorem shown_iff (hk : kept ∈ i.results) (hkey : kept.key = r.key) :
    Report.result r ∈ i.results.map Report.result ↔ kept.uri = r.uri := by
  rw [List.mem_map]
  constructor
  · rintro ⟨r', hr', hshown⟩
    obtain ⟨hkey', huri⟩ := Report.result_eq_iff.1 hshown
    rw [results_eq] at hk hr'
    rw [Keyed.eq_of_mem_sort hk hr' (hkey.trans hkey'.symm), huri]
  · intro huri
    exact ⟨kept, hk, Report.result_eq_iff.2 ⟨hkey, huri⟩⟩

/-- The first result of each rule, location, offset and message is listed, and no other. A result is
shown where that first one comes from the same artifact. -/
structure KeepsFirst (i : Inspection) : Prop where
  first : ∀ r, r ∈ i.results ↔ i.produced.find? (fun p => p.key = r.key) = some r
  shown : ∀ r ∈ i.produced, ∃ kept, i.produced.find? (fun p => p.key = r.key) = some kept ∧
    (Report.result r ∈ i.results.map Report.result ↔ kept.uri = r.uri)
  complete : (∀ r ∈ i.produced, Report.result r ∈ i.results.map Report.result) ↔
    ∀ r ∈ i.produced, ∀ r' ∈ i.produced, r.rule = r'.rule → r.location = r'.location →
      r.finding = r'.finding → r.uri = r'.uri

theorem results_keepFirst (i : Inspection) : i.KeepsFirst where
  first r := by
    rw [results_eq]
    exact Keyed.mem_sort
  shown r hr := by
    obtain ⟨kept, hk, hkey, hfirst⟩ := exists_kept hr
    exact ⟨kept, hfirst, shown_iff hk hkey⟩
  complete := by
    constructor
    · intro h r hr r' hr' hrule hlocation hfinding
      obtain ⟨kept, hk, hkey, _⟩ := exists_kept hr
      have hkey' : kept.key = r'.key :=
        hkey.trans (Result.key_eq_iff.2 ⟨hrule, hlocation, hfinding⟩)
      rw [← (shown_iff hk hkey).1 (h r hr), (shown_iff hk hkey').1 (h r' hr')]
    · intro h r hr
      obtain ⟨kept, hk, hkey, hfirst⟩ := exists_kept hr
      obtain ⟨hrule, hlocation, hfinding⟩ := Result.key_eq_iff.1 hkey
      have hmem := List.mem_of_find?_eq_some hfirst
      exact (shown_iff hk hkey).2 (h kept hmem r hr hrule hlocation hfinding)

def widget : Assembly where
  name := "Sample"
  modules := [⟨"Sample.dll", [.mk "Sample.Widget" [] [{
    name := "Render"
    returnType := ⟨"System.Void", true⟩
    hasThis := false
    parameters := []
    attributes := []
    body := some {
      maxStack := 1
      locals := []
      instructions := [
        ⟨0, .ldnull, .none⟩,
        ⟨1, .callvirt,
          .method ⟨"System.Object", "ToString", true, [], ⟨"System.String", false⟩, false⟩⟩,
        ⟨6, .pop, .none⟩, ⟨7, .ret, .none⟩]
      handlers := [] } }] []]⟩]

def copies : Inspection where
  subjects := [⟨widget, 0⟩, ⟨widget, 1⟩]
  contracts := .empty
  artifacts := [
    ⟨some "file:///left/sample.json", none, none, true⟩,
    ⟨some "file:///right/sample.json", none, none, true⟩]
  trace := false

def copyResult (uri : String) : Result where
  rule := "NULL_DEREF"
  owner := "Sample.Widget"
  method := "Render"
  uri := some uri
  finding := ⟨1, .nullReceiver (.method "ToString")⟩

theorem copies_produced : copies.produced =
    [copyResult "file:///left/sample.json", copyResult "file:///right/sample.json"] := by
  decide +kernel

theorem copies_keepFirst : copyResult "file:///left/sample.json" ∈ copies.results ∧
    copyResult "file:///right/sample.json" ∉ copies.results ∧
    ¬ ∀ r ∈ copies.produced, Report.result r ∈ copies.results.map Report.result := by
  have hkeeps := results_keepFirst copies
  refine ⟨(hkeeps.first _).2 ?_, fun hmem => ?_, fun hall => ?_⟩
  · rw [copies_produced]
    decide +kernel
  · have hfirst := (hkeeps.first _).1 hmem
    rw [copies_produced] at hfirst
    revert hfirst
    decide +kernel
  · have huri := hkeeps.complete.1 hall (copyResult "file:///left/sample.json")
      (by simp [copies_produced]) (copyResult "file:///right/sample.json")
      (by simp [copies_produced]) rfl rfl rfl
    revert huri
    decide

/-- Both files are inputs and neither is part of an archive, yet of the second nothing is shown. -/
theorem copies_lost : (∀ a ∈ copies.artifacts, a.isTarget ∧ a.parent = none) ∧
    copyResult "file:///right/sample.json" ∈ copies.produced ∧
    ∀ r ∈ copies.results,
      Report.result r ≠ Report.result (copyResult "file:///right/sample.json") := by
  have hresults : copies.results = [copyResult "file:///left/sample.json"] := by decide +kernel
  refine ⟨by decide, by simp [copies_produced], fun r hr hshown => ?_⟩
  rw [hresults, List.mem_singleton] at hr
  have huri := (Report.result_eq_iff.1 hshown).2
  rw [hr] at huri
  revert huri
  decide

end Inspection

end NullFlow
