import NullFlow.Proofs.ContractTables

namespace NullFlow

namespace Text

theorem lines_ne_nil (cs : List Char) : lines cs ≠ [] := by
  cases cs with
  | nil => simp [lines]
  | cons c cs =>
      unfold lines
      split
      · simp
      · split <;> simp

theorem lines_append_newline (cs rest : List Char) :
    lines (cs ++ '\n' :: rest) = lines cs ++ lines rest := by
  induction cs with
  | nil =>
      obtain ⟨l, ls, h⟩ := List.exists_cons_of_ne_nil (lines_ne_nil rest)
      simp [lines, h]
  | cons c cs ih =>
      obtain ⟨l, ls, h⟩ := List.exists_cons_of_ne_nil (lines_ne_nil cs)
      rw [List.cons_append, lines, lines, ih, h]
      simp only [List.cons_append]
      split <;> simp

theorem lines_of_notMem {cs : List Char} (h : '\n' ∉ cs) : lines cs = [cs] := by
  induction cs with
  | nil => rfl
  | cons c cs ih =>
      simp only [List.mem_cons, not_or] at h
      rw [lines, ih h.2]
      simp [Ne.symm h.1]

theorem lines_intercalate {ls : List (List Char)} (h : ∀ l ∈ ls, '\n' ∉ l) (hne : ls ≠ []) :
    lines (['\n'].intercalate ls) = ls := by
  induction ls with
  | nil => exact absurd rfl hne
  | cons l ls ih =>
      cases ls with
      | nil =>
          rw [List.intercalate_singleton]
          exact lines_of_notMem (h l List.mem_cons_self)
      | cons l' ls =>
          rw [List.intercalate_cons_cons, List.append_assoc, List.singleton_append,
            lines_append_newline, lines_of_notMem (h l List.mem_cons_self),
            ih (fun l hl => h l (List.mem_cons_of_mem _ hl)) (List.cons_ne_nil _ _),
            List.singleton_append]

theorem dropWhile_of_head {p : Char → Bool} {cs : List Char} (h : ∀ c ∈ cs.head?, p c = false) :
    cs.dropWhile p = cs := by
  cases cs with
  | nil => rfl
  | cons c cs => simp [h c rfl]

theorem trim_of_ends {cs : List Char} (hhead : ∀ c ∈ cs.head?, isBlank c = false)
    (hlast : ∀ c ∈ cs.getLast?, isBlank c = false) : trim cs = cs := by
  rw [trim, dropWhile_of_head hhead, dropWhile_of_head (by simpa using hlast), List.reverse_reverse]

end Text

def Contract.entry : Contract → String
  | .method name => name
  | .parameter key => key
  | .field name => name

def Contract.ofEntry (entry : String) : Contract :=
  if '/' ∈ entry.toList then .parameter entry
  else if '(' ∈ entry.toList then .method entry
  else .field entry

/-- The shape by which the entry of a declaration is read as one of its kind. -/
def Contract.Recognized : Contract → Prop
  | .method name => '/' ∉ name.toList ∧ '(' ∈ name.toList
  | .parameter key => '/' ∈ key.toList
  | .field name => '/' ∉ name.toList ∧ '(' ∉ name.toList

theorem Contract.ofEntry_eq_iff {entry : String} {c : Contract} :
    ofEntry entry = c ↔ entry = c.entry ∧ c.Recognized := by
  unfold ofEntry
  by_cases hslash : '/' ∈ entry.toList <;> by_cases hparen : '(' ∈ entry.toList <;>
    cases c <;> simp [hslash, hparen, Contract.entry, Recognized] <;> grind

/-- What the names of members have in common with the entries of their kind. -/
def Contract.Shaped : Contract → Prop
  | .method name => '(' ∈ name.toList
  | .parameter key => '/' ∈ key.toList
  | .field name => name ≠ ""

theorem Contract.Shaped.entry_ne {c : Contract} (h : c.Shaped) : c.entry ≠ "" := by
  cases c with
  | field name => exact h
  | method name | parameter key =>
      rintro rfl
      cases h

namespace Contracts

variable {assemblies : List Assembly} {marker entry text : String} {entries : List String}
  {c : Contract}

structure Plain (entry : String) : Prop where
  oneLine : '\n' ∉ entry.toList
  head : ∀ c ∈ entry.toList.head?, Text.isBlank c = false
  last : ∀ c ∈ entry.toList.getLast?, Text.isBlank c = false
  noRemark : entry.toList.head? ≠ some '#'

theorem Plain.ofList {cs : List Char} (h : '\n' ∉ cs ∧ cs.head?.any Text.isBlank = false ∧
    cs.getLast?.any Text.isBlank = false ∧ cs.head? ≠ some '#') : Plain (String.ofList cs) := by
  simp only [Option.any_eq_false] at h
  rw [← String.toList_ofList (l := cs)] at h
  exact ⟨h.1, h.2.1, h.2.2.1, h.2.2.2⟩

theorem ofLine_of_plain (h : Plain entry) (hne : entry ≠ "") :
    ofLine entry.toList = some (.ofEntry entry) := by
  have hempty : entry.toList ≠ [] := by simpa using hne
  simp only [ofLine, Text.trim_of_ends h.head h.last, List.isEmpty_iff, hempty, h.noRemark, or_self,
    if_false, List.contains_iff_mem, String.ofList_toList, Contract.ofEntry]
  split
  · rfl
  · split <;> rfl

/-- One entry a line, with or without a line feed behind the last. -/
def Written (entries : List String) (text : String) : Prop :=
  text = "\n".intercalate entries ∨ text = "\n".intercalate entries ++ "\n"

theorem filterMap_lines (htext : Written entries text) (h : ∀ entry ∈ entries, Plain entry) :
    (Text.lines text.toList).filterMap ofLine = entries.filterMap fun e => ofLine e.toList := by
  have hfeed : "\n".toList = ['\n'] := rfl
  have hlines : (Text.lines ("\n".intercalate entries).toList).filterMap ofLine =
      entries.filterMap fun e => ofLine e.toList := by
    cases entries with
    | nil => rfl
    | cons e es =>
        rw [String.toList_intercalate, hfeed, Text.lines_intercalate,
          List.filterMap_map, Function.comp_def]
        · simpa using fun e he => (h e he).oneLine
        · simp
  rcases htext with rfl | rfl
  · exact hlines
  · rw [String.toList_append, hfeed, Text.lines_append_newline,
      List.filterMap_append, hlines]
    exact List.append_nil _

theorem declares_addList (hplain : ∀ entry ∈ entries, Plain entry)
    (hne : ∀ entry ∈ entries, entry ≠ "") (htext : Written entries text) :
    (empty.addList text).Declares c ↔ c.entry ∈ entries ∧ c.Recognized := by
  have hread (entry : String) : entry ∈ entries ∧ ofLine entry.toList = some c ↔
      entry = c.entry ∧ c.entry ∈ entries ∧ c.Recognized := by
    constructor
    · rintro ⟨he, hc⟩
      rw [ofLine_of_plain (hplain entry he) (hne entry he), Option.some.injEq,
        Contract.ofEntry_eq_iff] at hc
      exact ⟨hc.1, hc.1 ▸ he, hc.2⟩
    · rintro ⟨rfl, he, hc⟩
      rw [ofLine_of_plain (hplain _ he) (hne _ he), Contract.ofEntry_eq_iff.2 ⟨rfl, hc⟩]
      exact ⟨he, rfl⟩
  simp only [addList, declares_insertAll, not_declares_empty, or_false,
    filterMap_lines htext hplain, List.mem_filterMap, hread, exists_eq_left]

theorem shaped_of_collect (h : (collect assemblies marker).Declares c) : c.Shaped := by
  obtain ⟨_, _, t, _, hc⟩ := declares_collect.1 h
  rcases mem_ofType.1 hc with ⟨m, _, hm⟩ | ⟨f, _, _, rfl⟩
  · rcases mem_ofMethod.1 hm with ⟨index, _, _, _, rfl⟩ | ⟨_, rfl⟩
    · simp [Contract.Shaped, MemberName.parameter]
    · simp [Contract.Shaped, MethodDef.fullName, MemberName.method]
  · intro he
    have hcolon := congrArg (':' ∈ String.toList ·) he
    simp [FieldDef.fullName, MemberName.field] at hcolon

def Lists (table : Contracts) (entries : List String) : Prop :=
  entries.Perm (table.methods ++ table.parameters ++ table.fields)

theorem mem_of_lists {table : Contracts} (h : table.Lists entries) (entry : String) :
    entry ∈ entries ↔ table.Declares (.method entry) ∨ table.Declares (.parameter entry) ∨
      table.Declares (.field entry) := by
  rw [h.mem_iff]
  simp [Declares]

def SameAnswers (table table' : Contracts) : Prop :=
  (∀ name, table.method name = table'.method name) ∧
  (∀ method index, table.parameter method index = table'.parameter method index) ∧
  ∀ name, table.field name = table'.field name

/-- What a table says that was read from a list of all that another declares. -/
structure ReadFrom (loaded table : Contracts) : Prop where
  method : ∀ name, loaded.method name ↔
    '/' ∉ name.toList ∧ (table.method name ∨ table.field name ∧ '(' ∈ name.toList)
  parameter : ∀ method index, loaded.parameter method index ↔
    table.parameter method index ∨ table.method (MemberName.parameter method index) ∨
      table.field (MemberName.parameter method index)
  field : ∀ name, loaded.field name ↔
    table.field name ∧ '/' ∉ name.toList ∧ '(' ∉ name.toList

theorem readFrom_collect (hentries : (collect assemblies marker).Lists entries)
    (hplain : ∀ entry ∈ entries, Plain entry) (htext : Written entries text) :
    (empty.addList text).ReadFrom (collect assemblies marker) := by
  have hmem := mem_of_lists hentries
  have hne : ∀ entry ∈ entries, entry ≠ "" := by
    intro entry he
    rcases (hmem entry).1 he with h | h | h <;> exact (shaped_of_collect h).entry_ne
  have hloaded (c : Contract) := declares_addList (c := c) hplain hne htext
  have hshape (c : Contract) (h : (collect assemblies marker).Declares c) := shaped_of_collect h
  constructor
  · intro name
    have hmethod := hshape (.method name)
    have hparameter := hshape (.parameter name)
    rw [method_iff, method_iff, field_iff, hloaded, Contract.entry, hmem]
    simp only [Contract.Shaped, Contract.Recognized] at hmethod hparameter ⊢
    tauto
  · intro method index
    have hslash : '/' ∈ (MemberName.parameter method index).toList := by
      simp [MemberName.parameter]
    rw [parameter_iff, parameter_iff, method_iff, field_iff, hloaded, Contract.entry, hmem]
    simp only [Contract.Recognized, hslash]
    tauto
  · intro name
    have hmethod := hshape (.method name)
    have hparameter := hshape (.parameter name)
    rw [field_iff, field_iff, hloaded, Contract.entry, hmem]
    simp only [Contract.Shaped, Contract.Recognized] at hmethod hparameter ⊢
    tauto

/-- A list of all that is declared says the same as the declarations exactly when no method's name
has a slash, and no field's name has a slash or an opening parenthesis. -/
theorem list_sameAnswers_iff (hentries : (collect assemblies marker).Lists entries)
    (hplain : ∀ entry ∈ entries, Plain entry) (htext : Written entries text) :
    (empty.addList text).ReadFrom (collect assemblies marker) ∧
    ((empty.addList text).SameAnswers (collect assemblies marker) ↔
      (∀ name, (collect assemblies marker).method name → '/' ∉ name.toList) ∧
      ∀ name, (collect assemblies marker).field name →
        '/' ∉ name.toList ∧ '(' ∉ name.toList) := by
  have hread := readFrom_collect hentries hplain htext
  refine ⟨hread, ?_, ?_⟩
  · rintro ⟨hmethod, _, hfield⟩
    constructor
    · intro name h
      rw [← hmethod] at h
      exact ((hread.method name).1 h).1
    · intro name h
      rw [← hfield] at h
      exact ((hread.field name).1 h).2
  · rintro ⟨hmethod, hfield⟩
    refine ⟨fun name => ?_, fun method index => ?_, fun name => ?_⟩
    · rw [Bool.eq_iff_iff, hread.method]
      have hmethod := hmethod name
      have hfield := hfield name
      tauto
    · have hslash : '/' ∈ (MemberName.parameter method index).toList := by
        simp [MemberName.parameter]
      rw [Bool.eq_iff_iff, hread.parameter]
      have hmethod := hmethod (MemberName.parameter method index)
      have hfield := hfield (MemberName.parameter method index)
      tauto
    · rw [Bool.eq_iff_iff, hread.field]
      have hfield := hfield name
      tauto

def marked : Attributes := [some defaultMarker]

def catalogue : Assembly :=
  ⟨"Sample", [⟨"Sample.dll", [.mk "Sample.Shelf"
    [⟨"label", ⟨"System.String", false⟩, marked⟩]
    [⟨"Find", ⟨"System.Object", false⟩, true,
      [⟨"count", ⟨"System.Int32", true⟩, []⟩, ⟨"key", ⟨"System.String", false⟩, marked⟩],
      marked, none⟩] []]⟩]⟩

def catalogueEntries : List String :=
  ["System.String Sample.Shelf::label",
   "System.Object Sample.Shelf::Find(System.Int32,System.String)/1",
   "System.Object Sample.Shelf::Find(System.Int32,System.String)"]

theorem catalogue_collect : collect [catalogue] defaultMarker =
    ⟨["System.Object Sample.Shelf::Find(System.Int32,System.String)"],
      ["System.Object Sample.Shelf::Find(System.Int32,System.String)/1"],
      ["System.String Sample.Shelf::label"]⟩ := by
  decide +kernel

theorem catalogue_sameAnswers :
    (collect [catalogue] defaultMarker).Lists catalogueEntries ∧
    (∀ entry ∈ catalogueEntries, Plain entry) ∧
    (empty.addList ("\n".intercalate catalogueEntries)).SameAnswers
      (collect [catalogue] defaultMarker) := by
  have hentries : (collect [catalogue] defaultMarker).Lists catalogueEntries := by
    rw [catalogue_collect, Lists]
    decide +kernel
  have hplain : ∀ entry ∈ catalogueEntries, Plain entry := by
    simp only [catalogueEntries, List.forall_mem_cons, List.not_mem_nil, false_implies, implies_true,
      and_true]
    exact ⟨.ofList (by decide +kernel), .ofList (by decide +kernel), .ofList (by decide +kernel)⟩
  refine ⟨hentries, hplain, (list_sameAnswers_iff hentries hplain (.inl rfl)).2.2 ⟨?_, ?_⟩⟩
  · rw [catalogue_collect]
    intro name h
    obtain rfl := List.mem_singleton.1 (method_iff.1 h)
    simp
  · rw [catalogue_collect]
    intro name h
    obtain rfl := List.mem_singleton.1 (field_iff.1 h)
    simp

def annex : Assembly :=
  ⟨"Sample", [⟨"Sample.dll", [.mk "Sample.Shelf"
    [⟨"notify", ⟨"method System.Void *(System.Object)", false⟩, marked⟩] []
    [.mk "Sample.Shelf/Slot" [⟨"label", ⟨"System.String", false⟩, marked⟩]
      [⟨"Find", ⟨"System.Object", false⟩, true, [], marked, none⟩] []]]⟩]⟩

def annexEntries : List String :=
  ["System.Object Sample.Shelf/Slot::Find()",
   "System.String Sample.Shelf/Slot::label",
   "method System.Void *(System.Object) Sample.Shelf::notify"]

theorem annex_collect : collect [annex] defaultMarker =
    ⟨["System.Object Sample.Shelf/Slot::Find()"], [],
      ["System.String Sample.Shelf/Slot::label",
       "method System.Void *(System.Object) Sample.Shelf::notify"]⟩ := by
  decide +kernel

/-- The method and the field of the nested type are taken for parameters, and the other field for a
method. -/
theorem annex_misread :
    let table := collect [annex] defaultMarker
    let loaded := empty.addList ("\n".intercalate annexEntries)
    table.Lists annexEntries ∧ (∀ entry ∈ annexEntries, Plain entry) ∧
    (table.method "System.Object Sample.Shelf/Slot::Find()" ∧
      ¬ loaded.method "System.Object Sample.Shelf/Slot::Find()") ∧
    (table.field "System.String Sample.Shelf/Slot::label" ∧
      ¬ loaded.field "System.String Sample.Shelf/Slot::label") ∧
    (table.field "method System.Void *(System.Object) Sample.Shelf::notify" ∧
      ¬ loaded.field "method System.Void *(System.Object) Sample.Shelf::notify") := by
  intro table loaded
  have hentries : table.Lists annexEntries := by
    simp only [table, annex_collect]
    exact .refl _
  have hplain : ∀ entry ∈ annexEntries, Plain entry := by
    simp only [annexEntries, List.forall_mem_cons, List.not_mem_nil, false_implies, implies_true,
      and_true]
    exact ⟨.ofList (by decide +kernel), .ofList (by decide +kernel), .ofList (by decide +kernel)⟩
  have hread : loaded.ReadFrom table := readFrom_collect hentries hplain (.inl rfl)
  refine ⟨hentries, hplain, ⟨?_, fun h => ?_⟩, ⟨?_, fun h => ?_⟩, ⟨?_, fun h => ?_⟩⟩
  · simp [table, annex_collect, method]
  · exact absurd ((hread.method _).1 h).1 (by simp)
  · simp [table, annex_collect, field]
  · exact absurd ((hread.field _).1 h).2.1 (by simp)
  · simp [table, annex_collect, field]
  · exact absurd ((hread.field _).1 h).2.2 (by simp)

end Contracts

end NullFlow
