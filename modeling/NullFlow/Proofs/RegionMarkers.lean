import NullFlow.Graph.Drawing
import NullFlow.Proofs.ContractLists
import NullFlow.Proofs.DanglingReferences
import NullFlow.Proofs.HandlerEdges

namespace NullFlow

namespace Offset

theorem newline_notMem_digits (n : Nat) : '\n' ∉ (Nat.toDigits 16 n).map Char.toUpper := by
  have hdigit : ∀ d < 16, '\n' ≠ (Nat.digitChar d).toUpper := by decide
  induction n using Nat.strongRecOn with
  | ind n ih =>
      rw [Nat.toDigits_eq_if (by decide)]
      split
      · simpa using hdigit n (by assumption)
      · rw [List.map_append, List.mem_append, not_or]
        refine ⟨ih (n / 16) (by omega), ?_⟩
        simpa using hdigit (n % 16) (Nat.mod_lt _ (by decide))

theorem newline_notMem_label (offset : Nat) : '\n' ∉ (label offset).toList := by
  have hdigits := newline_notMem_digits offset
  have hzeros (n : Nat) : '\n' ∉ List.replicate n '0' := by simp
  have hhead : '\n' ∉ "IL_".toList := by decide
  simp only [label, hex, String.toList_append, String.toList_ofList, List.mem_append, not_or]
  exact ⟨hhead, hzeros _, hdigits⟩

end Offset

-- The texts are matched as characters: decoding each of them from its bytes takes long.
theorem Opcode.newline_notMem_mnemonic (op : Opcode) : '\n' ∉ op.mnemonic.toList := by
  have hofList {cs : List Char} (h : '\n' ∉ cs) : '\n' ∉ (String.ofList cs).toList := by
    rwa [String.toList_ofList]
  cases op <;> exact hofList (by decide)

theorem Text.lines_join {ls : List String} (h : ∀ l ∈ ls, '\n' ∉ l.toList) :
    lines (String.join (ls.map (· ++ "\n"))).toList = ls.map String.toList ++ [[]] := by
  have hfeed : "\n".toList = ['\n'] := rfl
  rw [String.toList_join, List.flatMap_map]
  induction ls with
  | nil => rfl
  | cons l ls ih =>
      rw [List.flatMap_cons, String.toList_append, hfeed, List.append_assoc, List.singleton_append,
        lines_append_newline, lines_of_notMem (h l List.mem_cons_self),
        ih fun l hl => h l (List.mem_cons_of_mem _ hl)]
      rfl

inductive Region where
  | tried | handled
  deriving DecidableEq

inductive Marker where
  | opening (r : Region)
  | closing (r : Region)
  deriving DecidableEq

namespace Marker

def text : Marker → String
  | .opening .tried => "Try \x7b"
  | .opening .handled => "Handle \x7b"
  | .closing .tried => "\x7d (Try)"
  | .closing .handled => "\x7d (Handle)"

def border : Marker → ExceptionHandler → Nat
  | .opening .tried, h => h.tryStart
  | .opening .handled, h => h.handlerStart
  | .closing .tried, h => h.tryEnd
  | .closing .handled, h => h.handlerEnd

/-- A marker is written with the instruction it stands before, or with the one that comes earlier by
so many places. -/
def lead : Marker → Nat
  | .opening _ => 0
  | .closing _ => 1

/-- The order in which the markers of one instruction are written. The instruction itself is at 2. -/
def stage : Marker → Nat
  | .opening .tried => 0
  | .opening .handled => 1
  | .closing .tried => 3
  | .closing .handled => 4

def all : List Marker := [.opening .tried, .opening .handled, .closing .tried, .closing .handled]

theorem mem_all (m : Marker) : m ∈ all := by
  rcases m with ⟨_ | _⟩ | ⟨_ | _⟩ <;> decide

theorem text_inj {m m' : Marker} : m.text = m'.text ↔ m = m' := by
  constructor
  · rcases m with ⟨_ | _⟩ | ⟨_ | _⟩ <;> rcases m' with ⟨_ | _⟩ | ⟨_ | _⟩ <;> decide
  · exact congrArg text

theorem newline_notMem_text (m : Marker) : '\n' ∉ m.text.toList := by
  rcases m with ⟨_ | _⟩ | ⟨_ | _⟩ <;> decide

end Marker

/-- What stands on a line of a listing: the instruction, or a marker of the handler of this index. -/
inductive Part where
  | code
  | marker (m : Marker) (handler : Nat)
  deriving DecidableEq

structure Line where
  index : Nat
  part : Part
  deriving DecidableEq

def Part.stage : Part → Nat
  | .code => 2
  | .marker m _ => m.stage

def Line.key (l : Line) : Nat := 5 * l.index + l.part.stage

theorem Part.stage_lt (p : Part) : p.stage < 5 := by
  rcases p with _ | ⟨⟨_ | _⟩ | ⟨_ | _⟩, _⟩ <;> simp [stage, Marker.stage]

def Line.Before (l l' : Line) : Prop := l.key ≤ l'.key ∧ l ≠ l'

theorem Line.before_of_key_lt {l l' : Line} (h : l.key < l'.key) : l.Before l' :=
  ⟨Nat.le_of_lt h, fun heq => Nat.lt_irrefl _ (heq ▸ h)⟩

def Line.owner? (m : Marker) (l : Line) : Option Nat :=
  match l.part with
  | .code => none
  | .marker m' i => if m' = m then some i else none

theorem Line.owner?_eq_some {m : Marker} {l : Line} {i : Nat} :
    l.owner? m = some i ↔ l = ⟨l.index, .marker m i⟩ := by
  obtain ⟨k, _ | ⟨m', i'⟩⟩ := l
  · simp [owner?]
  · simp [owner?]

namespace MethodBody

variable {body : MethodBody} {h : ExceptionHandler} {x y : Instruction} {m : Marker} {i j k : Nat}
  {l l' : Line}

def Borders (body : MethodBody) (m : Marker) (h : ExceptionHandler) (index : Nat) : Prop :=
  ∃ x, body.instructions[index]? = some x ∧ m.border h = x.offset

instance (body : MethodBody) (m : Marker) (h : ExceptionHandler) (index : Nat) :
    Decidable (body.Borders m h index) :=
  decidable_of_iff (body.instructions[index]?.any fun x => m.border h == x.offset) (by
    simp [Borders, Option.any_eq_true])

def marked (body : MethodBody) (m : Marker) (k : Nat) : List Line :=
  body.handlers.zipIdx.filterMap fun e =>
    if body.Borders m e.1 (k + m.lead) then some ⟨k, .marker m e.2⟩ else none

def linesAt (body : MethodBody) (k : Nat) : List Line :=
  body.marked (.opening .tried) k ++ (body.marked (.opening .handled) k ++ ([⟨k, .code⟩] ++
    (body.marked (.closing .tried) k ++ body.marked (.closing .handled) k)))

def lines (body : MethodBody) : List Line :=
  (List.range body.instructions.length).flatMap body.linesAt

theorem mem_marked : l ∈ body.marked m k ↔
    ∃ i h, body.handlers[i]? = some h ∧ body.Borders m h (k + m.lead) ∧ l = ⟨k, .marker m i⟩ := by
  simp only [marked, List.mem_filterMap, Prod.exists, List.mk_mem_zipIdx_iff_getElem?,
    Option.ite_none_right_eq_some, Option.some.injEq]
  constructor
  · rintro ⟨h, i, hh, hb, rfl⟩
    exact ⟨i, h, hh, hb, rfl⟩
  · rintro ⟨i, h, hh, hb, rfl⟩
    exact ⟨h, i, hh, hb, rfl⟩

theorem mem_linesAt : l ∈ body.linesAt k ↔ (∃ m, l ∈ body.marked m k) ∨ l = ⟨k, .code⟩ := by
  simp only [linesAt, List.mem_append, List.mem_singleton]
  constructor
  · rintro (hl | hl | hl | hl | hl)
    · exact .inl ⟨_, hl⟩
    · exact .inl ⟨_, hl⟩
    · exact .inr hl
    · exact .inl ⟨_, hl⟩
    · exact .inl ⟨_, hl⟩
  · rintro (⟨⟨_ | _⟩ | ⟨_ | _⟩, hl⟩ | hl) <;> simp [hl]

theorem index_of_mem_linesAt (hl : l ∈ body.linesAt k) : l.index = k := by
  rcases mem_linesAt.1 hl with ⟨m, hl⟩ | rfl
  · obtain ⟨i, h, _, _, rfl⟩ := mem_marked.1 hl
    rfl
  · rfl

theorem mem_lines :
    l ∈ body.lines ↔ l.index < body.instructions.length ∧ l ∈ body.linesAt l.index := by
  simp only [lines, List.mem_flatMap, List.mem_range]
  constructor
  · rintro ⟨k, hk, hl⟩
    obtain rfl := index_of_mem_linesAt hl
    exact ⟨hk, hl⟩
  · rintro ⟨hk, hl⟩
    exact ⟨_, hk, hl⟩

theorem code_mem_lines : ⟨k, .code⟩ ∈ body.lines ↔ k < body.instructions.length := by
  rw [mem_lines, mem_linesAt]
  exact and_iff_left (.inr rfl)

theorem marker_mem_lines : ⟨k, .marker m i⟩ ∈ body.lines ↔
    ∃ h, body.handlers[i]? = some h ∧ body.Borders m h (k + m.lead) := by
  rw [mem_lines, mem_linesAt]
  constructor
  · rintro ⟨_, ⟨m', hl⟩ | hl⟩
    · obtain ⟨i', h, hh, hb, heq⟩ := mem_marked.1 hl
      cases heq
      exact ⟨h, hh, hb⟩
    · cases hl
  · rintro ⟨h, hh, hb⟩
    obtain ⟨x, hx, _⟩ := id hb
    have hlt := (List.getElem?_eq_some_iff.1 hx).1
    exact ⟨Nat.lt_of_le_of_lt (Nat.le_add_right _ _) hlt,
      .inl ⟨m, mem_marked.2 ⟨i, h, hh, hb, rfl⟩⟩⟩

theorem marker_mem_lines_of_borders (hh : body.handlers[i]? = some h) (hlead : m.lead ≤ j)
    (hj : body.Borders m h j) : ⟨j - m.lead, .marker m i⟩ ∈ body.lines := by
  refine marker_mem_lines.2 ⟨h, hh, ?_⟩
  rwa [Nat.sub_add_cancel hlead]

theorem marked_before (body : MethodBody) (m : Marker) (k : Nat) :
    (body.marked m k).Pairwise Line.Before := by
  have hindices : body.handlers.zipIdx.Pairwise fun e e' => e.2 ≠ e'.2 := by
    rw [← List.pairwise_map, List.zipIdx_map_snd]
    exact List.nodup_range'
  refine List.pairwise_filterMap.2 (hindices.imp ?_)
  intro e e' hne l hl l' hl'
  simp only [Option.ite_none_right_eq_some, Option.some.injEq] at hl hl'
  obtain ⟨-, rfl⟩ := hl
  obtain ⟨-, rfl⟩ := hl'
  refine ⟨Nat.le_refl _, fun heq => hne ?_⟩
  simpa using heq

theorem key_of_mem_marked (hl : l ∈ body.marked m k) : l.key = 5 * k + m.stage := by
  obtain ⟨i, h, _, _, rfl⟩ := mem_marked.1 hl
  rfl

theorem linesAt_before (body : MethodBody) (k : Nat) : (body.linesAt k).Pairwise Line.Before := by
  have hcode : Line.key ⟨k, .code⟩ = 5 * k + 2 := rfl
  -- The five parts stand in the order of their stages.
  have hjoin {a b : List Line} (n : Nat) (ha : a.Pairwise Line.Before) (hb : b.Pairwise Line.Before)
      (hle : ∀ l ∈ a, l.key ≤ n) (hlt : ∀ l ∈ b, n < l.key) : (a ++ b).Pairwise Line.Before := by
    refine List.pairwise_append.2 ⟨ha, hb, fun l hl l' hl' => ?_⟩
    exact Line.before_of_key_lt (Nat.lt_of_le_of_lt (hle l hl) (hlt l' hl'))
  have hkey (m : Marker) (l : Line) (hl : l ∈ body.marked m k) : l.key = 5 * k + m.stage :=
    key_of_mem_marked hl
  apply hjoin (5 * k) (body.marked_before _ k)
  apply hjoin (5 * k + 1) (body.marked_before _ k)
  apply hjoin (5 * k + 2) (List.pairwise_singleton _ _)
  apply hjoin (5 * k + 3) (body.marked_before _ k) (body.marked_before _ k)
  all_goals grind [Marker.stage]

theorem lines_before (body : MethodBody) : body.lines.Pairwise Line.Before := by
  refine List.pairwise_flatMap.2 ⟨fun k _ => body.linesAt_before k, List.pairwise_lt_range.imp ?_⟩
  intro k k' hlt l hl l' hl'
  apply Line.before_of_key_lt
  have hstage := l.part.stage_lt
  rw [Line.key, Line.key, index_of_mem_linesAt hl, index_of_mem_linesAt hl']
  omega

theorem lines_nodup (body : MethodBody) : body.lines.Nodup :=
  body.lines_before.imp And.right

def place (body : MethodBody) (l : Line) : Nat := body.lines.idxOf l

theorem getElem?_place (hl : l ∈ body.lines) : body.lines[body.place l]? = some l :=
  List.getElem?_idxOf hl

theorem place_lt (hl : l ∈ body.lines) (hl' : l' ∈ body.lines) (hlt : l.key < l'.key) :
    body.place l < body.place l' := by
  rcases Nat.lt_trichotomy (body.place l) (body.place l') with h | h | h
  · exact h
  · obtain rfl : l = l' := (List.idxOf_inj hl).1 h
    exact absurd hlt (Nat.lt_irrefl _)
  · have hbefore := List.pairwise_iff_getElem.1 body.lines_before _ _
      (List.idxOf_lt_length_iff.2 hl') (List.idxOf_lt_length_iff.2 hl) h
    rw [List.getElem_idxOf, List.getElem_idxOf] at hbefore
    exact absurd hbefore.1 (Nat.not_le_of_lt hlt)

theorem place_lt_iff (hl : l ∈ body.lines) (hl' : l' ∈ body.lines) (hne : l.key ≠ l'.key) :
    body.place l < body.place l' ↔ l.key < l'.key := by
  constructor
  · intro hplace
    by_contra hkey
    have := place_lt hl' hl (by omega)
    omega
  · exact place_lt hl hl'

theorem hasOffset_border : body.HasOffset (m.border h) ↔ ∃ j, body.Borders m h j := by
  constructor
  · rintro ⟨x, hx, hoffset⟩
    obtain ⟨j, hj⟩ := List.mem_iff_getElem?.1 hx
    exact ⟨j, x, hj, hoffset.symm⟩
  · rintro ⟨j, x, hj, hoffset⟩
    exact ⟨x, List.mem_of_getElem? hj, hoffset.symm⟩

theorem Ordered.marker_le_iff (ho : body.Ordered) (hb : body.Borders m h j)
    (hx : body.instructions[k]? = some x) : m.border h ≤ x.offset ↔ j ≤ k := by
  obtain ⟨y, hy, hoffset⟩ := hb
  rw [hoffset]
  exact ho.offset_le_iff hy hx

theorem Ordered.borders_unique (ho : body.Ordered) (hj : body.Borders m h j)
    (hk : body.Borders m h k) : j = k := by
  obtain ⟨x, hx, hxo⟩ := id hj
  obtain ⟨y, hy, hyo⟩ := id hk
  apply Nat.le_antisymm
  · exact (ho.marker_le_iff hj hy).1 (Nat.le_of_eq hyo)
  · exact (ho.marker_le_iff hk hx).1 (Nat.le_of_eq hxo)

theorem mem_owners (hlead : ∀ h ∈ body.handlers, ∀ j, body.Borders m h j → m.lead ≤ j) :
    i ∈ body.lines.filterMap (Line.owner? m) ↔
      ∃ h, body.handlers[i]? = some h ∧ body.HasOffset (m.border h) := by
  simp only [List.mem_filterMap, Line.owner?_eq_some]
  constructor
  · rintro ⟨l, hl, heq⟩
    rw [heq, marker_mem_lines] at hl
    obtain ⟨h, hh, hb⟩ := hl
    exact ⟨h, hh, hasOffset_border.2 ⟨_, hb⟩⟩
  · rintro ⟨h, hh, hmet⟩
    obtain ⟨j, hj⟩ := hasOffset_border.1 hmet
    have hle := hlead h (List.mem_of_getElem? hh) j hj
    exact ⟨_, marker_mem_lines_of_borders hh hle hj, rfl⟩

theorem owners_nodup (ho : body.Ordered) (m : Marker) :
    (body.lines.filterMap (Line.owner? m)).Nodup := by
  refine List.pairwise_filterMap.2 (body.lines_nodup.imp_of_mem ?_)
  rintro l l' hl hl' hne i hi _ hi' rfl
  apply hne
  rw [Line.owner?_eq_some] at hi hi'
  rw [hi, marker_mem_lines] at hl
  rw [hi', marker_mem_lines] at hl'
  obtain ⟨h, hh, hb⟩ := hl
  obtain ⟨h', hh', hb'⟩ := hl'
  cases Option.some.inj (hh.symm.trans hh')
  have hindex := Nat.add_right_cancel (ho.borders_unique hb hb')
  rw [hi, hi', hindex]

theorem key_lt_code_iff (ho : body.Ordered) (hlead : m.lead ≤ j) (hj : body.Borders m h j)
    (hx : body.instructions[k]? = some x) :
    Line.key ⟨j - m.lead, .marker m i⟩ < Line.key ⟨k, .code⟩ ↔ m.border h ≤ x.offset := by
  rw [ho.marker_le_iff hj hx]
  rcases m with ⟨_ | _⟩ | ⟨_ | _⟩ <;>
    simp only [Line.key, Part.stage, Marker.stage, Marker.lead] at hlead ⊢ <;> omega

/-- A marker is written once for each handler that has an instruction it stands before. -/
theorem countP_owner (ho : body.Ordered)
    (hlead : ∀ h ∈ body.handlers, ∀ j, body.Borders m h j → m.lead ≤ j) :
    (body.lines.countP fun l => (l.owner? m).isSome) =
      body.handlers.countP (body.HasOffset <| m.border ·) := by
  let chosen := (body.handlers.zipIdx.filter fun e => body.HasOffset (m.border e.1)).map Prod.snd
  have hchosen : chosen.Nodup := by
    have hindices : (body.handlers.zipIdx.map Prod.snd).Nodup := by
      rw [List.zipIdx_map_snd]
      exact List.nodup_range'
    exact hindices.sublist (List.filter_sublist.map _)
  have hperm : (body.lines.filterMap (Line.owner? m)).Perm chosen := by
    refine (List.perm_ext_iff_of_nodup (owners_nodup ho m) hchosen).2 fun i => ?_
    rw [mem_owners hlead]
    simp [chosen, List.mk_mem_zipIdx_iff_getElem?]
  calc (body.lines.countP fun l => (l.owner? m).isSome)
      = chosen.length := by rw [← List.length_filterMap_eq_countP, hperm.length_eq]
    _ = (body.handlers.zipIdx.map Prod.fst).countP (body.HasOffset <| m.border ·) := by
        rw [List.length_map, ← List.countP_eq_length_filter, List.countP_map]
        rfl
    _ = body.handlers.countP (body.HasOffset <| m.border ·) := by rw [List.zipIdx_map_fst]

theorem filter_linesAt (body : MethodBody) (k : Nat) :
    (body.linesAt k).filter (fun l => l.part = .code) = [⟨k, .code⟩] := by
  have hmarked (m : Marker) : (body.marked m k).filter (fun l => l.part = .code) = [] := by
    refine List.filter_eq_nil_iff.2 fun l hl => ?_
    obtain ⟨i, h, _, _, rfl⟩ := mem_marked.1 hl
    simp
  simp [linesAt, hmarked]

theorem filter_lines (body : MethodBody) : body.lines.filter (fun l => l.part = .code) =
    (List.range body.instructions.length).map fun k => ⟨k, .code⟩ := by
  simp only [lines, List.filter_flatMap, filter_linesAt]
  exact List.map_eq_flatMap.symm

def markerPlace (body : MethodBody) (m : Marker) (i : Nat) : Nat :=
  let index := (body.handlers[i]?.bind fun h => body.indexOf? (m.border h)).getD 0
  body.place ⟨index - m.lead, .marker m i⟩

theorem markerPlace_eq (ho : body.Ordered) (hh : body.handlers[i]? = some h)
    (hb : body.Borders m h j) : body.markerPlace m i = body.place ⟨j - m.lead, .marker m i⟩ := by
  obtain ⟨x, hx, hoffset⟩ := hb
  have hindex : body.indexOf? (m.border h) = some j := by
    rw [indexOf?_eq_some_iff, hoffset]
    exact ho.names hx
  simp [markerPlace, hh, hindex]

def Opened (body : MethodBody) (r : Region) (h : ExceptionHandler) : Prop :=
  Marker.border (.opening r) h < Marker.border (.closing r) h ∧
    body.HasOffset (Marker.border (.opening r) h)

instance (body : MethodBody) (r : Region) (h : ExceptionHandler) : Decidable (body.Opened r h) :=
  inferInstanceAs (Decidable (_ ∧ _))

theorem Opened.lt_of_borders (ho : body.Ordered) {r : Region} (hopened : body.Opened r h)
    (hj : body.Borders (.opening r) h j) (hk : body.Borders (.closing r) h k) : j < k := by
  obtain ⟨x, hx, hoffset⟩ := id hj
  have hlt := hopened.1
  by_contra hle
  have := (ho.marker_le_iff hk hx).2 (Nat.le_of_not_lt hle)
  omega

theorem lead_le_of_borders (ho : body.Ordered) (hopened : ∀ r, body.Opened r h)
    (hj : body.Borders m h j) : m.lead ≤ j := by
  cases m with
  | opening r => exact Nat.zero_le _
  | closing r =>
      obtain ⟨k, hk⟩ := hasOffset_border.1 (hopened r).2
      exact Nat.lt_of_le_of_lt (Nat.zero_le _) ((hopened r).lt_of_borders ho hk hj)

end MethodBody

namespace Graph

variable {g : Graph} {body : MethodBody} {m : Marker} {x : Instruction} {i k : Nat} {l : Line}

def star (g : Graph) (k : Nat) : String :=
  if ∃ b ∈ g.blocks, b.first = k then "*   " else "    "

def lineText (g : Graph) (body : MethodBody) (l : Line) : String :=
  match l.part with
  | .code => g.star l.index ++ (body.instructions[l.index]?.elim "" Instruction.text)
  | .marker m _ => m.text

theorem map_marked {s : String} {f : Line → String} (hf : ∀ i, f ⟨k, .marker m i⟩ = s) :
    (body.marked m k).map f =
      List.replicate (body.handlers.countP (body.Borders m · (k + m.lead))) s := by
  refine List.eq_replicate_iff.2 ⟨?_, ?_⟩
  · conv_rhs => rw [← List.zipIdx_map_fst 0 body.handlers, List.countP_map]
    rw [List.length_map, MethodBody.marked, List.length_filterMap_eq_countP]
    congr 1
    funext e
    by_cases hb : body.Borders m e.1 (k + m.lead) <;> simp [hb]
  · intro t ht
    obtain ⟨l, hl, rfl⟩ := List.mem_map.1 ht
    obtain ⟨i, h, _, _, rfl⟩ := MethodBody.mem_marked.1 hl
    exact hf i

theorem countP_borders (body : MethodBody) (m : Marker) (j : Nat) :
    body.handlers.countP (body.Borders m · j) = match body.instructions[j]? with
      | some y => body.handlers.countP fun h => m.border h == y.offset
      | none => 0 := by
  cases hy : body.instructions[j]? with
  | some y => exact List.countP_congr fun h _ => by simp [MethodBody.Borders, hy]
  | none => exact List.countP_eq_zero.2 fun h _ => by simp [MethodBody.Borders, hy]

theorem listingAt_eq (hx : body.instructions[k]? = some x) :
    g.listingAt body k x = (body.linesAt k).map fun l => g.lineText body l ++ "\n" := by
  have hmarked (m : Marker) : (body.marked m k).map (fun l => g.lineText body l ++ "\n") =
      marks (match body.instructions[k + m.lead]? with
        | some y => body.handlers.countP fun h => m.border h == y.offset
        | none => 0) (m.text ++ "\n") := by
    rw [← countP_borders]
    exact map_marked fun _ => rfl
  have hcode : g.lineText body ⟨k, .code⟩ = g.star k ++ x.text := by simp [lineText, hx]
  have hstar : g.star k = if g.blocks.any (·.first == k) then "*   " else "    " := by
    simp [star]
  simp only [MethodBody.linesAt, List.map_append, List.map_cons, List.map_nil, hmarked, hcode,
    hstar, Marker.lead, Nat.add_zero, hx, listingAt, List.append_assoc]
  rfl

theorem listing_eq (g : Graph) (body : MethodBody) :
    g.listing body = body.lines.map fun l => g.lineText body l ++ "\n" := by
  rw [listing, MethodBody.lines, List.map_flatMap, List.range_eq_range',
    ← List.zipIdx_map_snd 0 body.instructions, List.flatMap_map]
  refine List.flatMap_congr fun e he => ?_
  exact listingAt_eq (List.mem_zipIdx_iff_getElem?.1 he)

theorem newline_notMem_lineText (hx : ∀ x ∈ body.instructions, '\n' ∉ x.operand.text.toList)
    (l : Line) : '\n' ∉ (g.lineText body l).toList := by
  obtain ⟨k, _ | ⟨m, i⟩⟩ := l
  · have hstar : '\n' ∉ (g.star k).toList := by
      unfold star
      split <;> decide
    have hcolon : '\n' ∉ ": ".toList := by decide
    rw [lineText, String.toList_append, List.mem_append, not_or]
    refine ⟨hstar, ?_⟩
    cases hk : body.instructions[k]? with
    | none => decide
    | some x =>
        have hoperand := hx x (List.mem_of_getElem? hk)
        simp only [Option.elim_some, Instruction.text, String.toList_append, List.mem_append, not_or]
        exact ⟨⟨⟨Offset.newline_notMem_label _, hcolon⟩, x.opcode.newline_notMem_mnemonic⟩, hoperand⟩
  · exact m.newline_notMem_text

def listingLines (g : Graph) (body : MethodBody) : List String :=
  (Text.lines (g.listingText body).toList).dropLast.map String.ofList

theorem listingLines_eq (hx : ∀ x ∈ body.instructions, '\n' ∉ x.operand.text.toList) :
    g.listingLines body = body.lines.map (g.lineText body) := by
  have htext : ∀ t ∈ body.lines.map (g.lineText body), '\n' ∉ t.toList := by
    intro t ht
    obtain ⟨l, _, rfl⟩ := List.mem_map.1 ht
    exact newline_notMem_lineText hx l
  have hlisting : g.listing body = (body.lines.map (g.lineText body)).map (· ++ "\n") := by
    rw [listing_eq, List.map_map]
    rfl
  rw [listingLines, listingText, hlisting, Text.lines_join htext, List.dropLast_concat, List.map_map]
  simp

theorem star_append_ne (g : Graph) (k : Nat) (t : String) (m : Marker) : g.star k ++ t ≠ m.text := by
  intro heq
  have hhead := congrArg (fun s => s.toList.head?) heq
  have hstar : (g.star k ++ t).toList.head? = some '*' ∨
      (g.star k ++ t).toList.head? = some ' ' := by
    unfold star
    split
    · exact .inl (by simp)
    · exact .inr (by simp)
  have hmarker : m.text.toList.head? ≠ some '*' ∧ m.text.toList.head? ≠ some ' ' := by
    rcases m with ⟨_ | _⟩ | ⟨_ | _⟩ <;> decide
  grind

theorem lineText_eq_text : g.lineText body l = m.text ↔ (l.owner? m).isSome := by
  obtain ⟨k, _ | ⟨m', i⟩⟩ := l
  · simpa [lineText, Line.owner?] using g.star_append_ne k _ m
  · simp [lineText, Line.owner?, Marker.text_inj]

theorem lineText_mem_texts : g.lineText body l ∈ Marker.all.map Marker.text ↔ l.part ≠ .code := by
  obtain ⟨k, _ | ⟨m, i⟩⟩ := l
  · simp only [List.mem_map, ne_eq, not_true_eq_false, iff_false]
    rintro ⟨m, _, heq⟩
    exact g.star_append_ne k _ m heq.symm
  · simpa [lineText] using ⟨m, m.mem_all, rfl⟩

/-- Where the lines of a listing stand: `code` gives the places of the instructions and `marker` those
of the markers, by the index of the handler. -/
structure Placed (g : Graph) (body : MethodBody) (code : Nat → Nat) (marker : Marker → Nat → Nat) :
    Prop where
  code_text : ∀ (k : Nat) (x : Instruction), body.instructions[k]? = some x →
    (g.listingLines body)[code k]? = some (g.star k ++ x.text)
  marker_text : ∀ (m : Marker) (i : Nat) (h : ExceptionHandler), body.handlers[i]? = some h →
    body.HasOffset (m.border h) → (g.listingLines body)[marker m i]? = some m.text
  marker_injective : ∀ (m : Marker) (i j : Nat) (h h' : ExceptionHandler),
    body.handlers[i]? = some h → body.handlers[j]? = some h' → body.HasOffset (m.border h) →
    body.HasOffset (m.border h') → marker m i = marker m j → i = j
  before_code : ∀ (m : Marker) (i k : Nat) (h : ExceptionHandler) (x : Instruction),
    body.handlers[i]? = some h → body.HasOffset (m.border h) → body.instructions[k]? = some x →
    (marker m i < code k ↔ m.border h ≤ x.offset)
  opened_before : ∀ (r : Region) (i : Nat) (h : ExceptionHandler), body.handlers[i]? = some h →
    body.HasOffset (Marker.border (.closing r) h) → marker (.opening r) i < marker (.closing r) i

/-- Each region is opened by one line, and closed by one if an instruction stands where it ends. The
other lines are those of the instructions. -/
structure Listed (g : Graph) (body : MethodBody) : Prop where
  opened : ∀ r : Region,
    (g.listingLines body).count (Marker.text (.opening r)) = body.handlers.length
  closed : ∀ r : Region, (g.listingLines body).count (Marker.text (.closing r)) =
    body.handlers.countP (body.HasOffset <| Marker.border (.closing r) ·)
  balanced : ∀ r : Region, (g.listingLines body).count (Marker.text (.opening r)) =
      (g.listingLines body).count (Marker.text (.closing r)) ↔
    ∀ h ∈ body.handlers, body.HasOffset (Marker.border (.closing r) h)
  placed : ∃ code marker, Placed g body code marker
  remaining : (g.listingLines body).filter (fun t => t ∉ Marker.all.map Marker.text) =
    body.instructions.zipIdx.map fun e => g.star e.2 ++ e.1.text
  starred : ∀ k, (∃ b ∈ g.blocks, b.first = k) ↔ k ∈ body.leaders

section

variable (ho : body.Ordered) (hopened : ∀ h ∈ body.handlers, ∀ r : Region, body.Opened r h)
  (hlines : ∀ x ∈ body.instructions, '\n' ∉ x.operand.text.toList)
include ho hopened hlines

theorem listing_placed : Placed g body (fun k => body.place ⟨k, .code⟩) body.markerPlace := by
  -- The line that holds the marker of a handler.
  have hmarker {m : Marker} {i : Nat} {h : ExceptionHandler} (hh : body.handlers[i]? = some h)
      (hm : body.HasOffset (m.border h)) : ∃ j, body.Borders m h j ∧ m.lead ≤ j ∧
        ⟨j - m.lead, .marker m i⟩ ∈ body.lines ∧
        body.markerPlace m i = body.place ⟨j - m.lead, .marker m i⟩ := by
    obtain ⟨j, hj⟩ := MethodBody.hasOffset_border.1 hm
    have hlead := MethodBody.lead_le_of_borders ho (hopened h (List.mem_of_getElem? hh)) hj
    exact ⟨j, hj, hlead, MethodBody.marker_mem_lines_of_borders hh hlead hj,
      MethodBody.markerPlace_eq ho hh hj⟩
  have hcode {k : Nat} {x : Instruction} (hx : body.instructions[k]? = some x) :
      ⟨k, .code⟩ ∈ body.lines :=
    MethodBody.code_mem_lines.2 (List.getElem?_eq_some_iff.1 hx).1
  constructor
  · intro k x hx
    rw [listingLines_eq hlines, List.getElem?_map, MethodBody.getElem?_place (hcode hx)]
    simp [lineText, hx]
  · intro m i h hh hm
    obtain ⟨j, hj, _, hl, hplace⟩ := hmarker hh hm
    rw [listingLines_eq hlines, List.getElem?_map, hplace, MethodBody.getElem?_place hl]
    rfl
  · intro m i i' h h' hh hh' hm hm' heq
    obtain ⟨j, hj, _, hl, hplace⟩ := hmarker hh hm
    obtain ⟨j', hj', _, hl', hplace'⟩ := hmarker hh' hm'
    rw [hplace, hplace'] at heq
    have hsame := (List.idxOf_inj hl).1 heq
    simp only [Line.mk.injEq, Part.marker.injEq] at hsame
    exact hsame.2.2
  · intro m i k h x hh hm hx
    obtain ⟨j, hj, hlead, hl, hplace⟩ := hmarker hh hm
    have hne : Line.key ⟨j - m.lead, .marker m i⟩ ≠ Line.key ⟨k, .code⟩ := by
      rcases m with ⟨_ | _⟩ | ⟨_ | _⟩ <;> simp only [Line.key, Part.stage, Marker.stage] <;> omega
    rw [hplace, MethodBody.place_lt_iff hl (hcode hx) hne]
    exact MethodBody.key_lt_code_iff ho hlead hj hx
  · intro r i h hh hm
    have hopens := hopened h (List.mem_of_getElem? hh) r
    obtain ⟨j, hj, _, hl, hplace⟩ := hmarker hh hopens.2
    obtain ⟨j', hj', _, hl', hplace'⟩ := hmarker hh hm
    have hlt := hopens.lt_of_borders ho hj hj'
    rw [hplace, hplace']
    apply MethodBody.place_lt hl hl'
    cases r <;> simp only [Line.key, Part.stage, Marker.stage, Marker.lead] <;> omega

theorem count_text (m : Marker) : (g.listingLines body).count m.text =
    body.handlers.countP (body.HasOffset <| m.border ·) := by
  have hlead : ∀ h ∈ body.handlers, ∀ j, body.Borders m h j → m.lead ≤ j := by
    intro h hh j hj
    exact MethodBody.lead_le_of_borders ho (hopened h hh) hj
  rw [listingLines_eq hlines, List.count_eq_countP, List.countP_map,
    ← MethodBody.countP_owner ho hlead]
  refine List.countP_congr fun l _ => ?_
  simp [lineText_eq_text]

end

theorem filter_listingLines (hlines : ∀ x ∈ body.instructions, '\n' ∉ x.operand.text.toList) :
    (g.listingLines body).filter (fun t => t ∉ Marker.all.map Marker.text) =
      body.instructions.zipIdx.map fun e => g.star e.2 ++ e.1.text := by
  have hcode : (fun t => decide (t ∉ Marker.all.map Marker.text)) ∘ g.lineText body =
      fun l => decide (l.part = .code) := by
    funext l
    rw [Function.comp_apply, decide_eq_decide, lineText_mem_texts, not_not]
  rw [listingLines_eq hlines, List.filter_map, hcode, MethodBody.filter_lines, List.map_map,
    List.range_eq_range', ← List.zipIdx_map_snd 0 body.instructions, List.map_map]
  refine List.map_congr_left fun e he => ?_
  simp [lineText, List.mem_zipIdx_iff_getElem?.1 he]

theorem listing_markers (hg : ofBody body = .ok g) (ho : body.Ordered)
    (hopened : ∀ h ∈ body.handlers, ∀ r : Region, body.Opened r h)
    (hlines : ∀ x ∈ body.instructions, '\n' ∉ x.operand.text.toList) : Listed g body := by
  have hcount := count_text (g := g) ho hopened hlines
  have hall (r : Region) : (g.listingLines body).count (Marker.text (.opening r)) =
      body.handlers.length := by
    rw [hcount, List.countP_eq_length]
    intro h hh
    simpa using (hopened h hh r).2
  refine ⟨hall, fun r => hcount _, fun r => ?_, ⟨_, _, listing_placed ho hopened hlines⟩,
    filter_listingLines hlines, fun k => ?_⟩
  · rw [hall, hcount, eq_comm, List.countP_eq_length]
    simp only [decide_eq_true_eq]
  · rw [eq_assemble hg, assemble_blocks]
    exact MethodBody.exists_block_first

theorem guarded_listed : ∃ g, ofBody guarded = .ok g ∧ Listed g guarded := by
  refine ⟨assemble guarded, rfl, listing_markers rfl (by decide) ?_ (by decide +kernel)⟩
  rintro h hh (_ | _) <;> revert h <;> decide

def trailing : MethodBody where
  maxStack := 1
  locals := []
  instructions := [
    ⟨0, .brS, .target 3⟩, ⟨2, .ret, .none⟩, ⟨3, .nop, .none⟩, ⟨4, .leaveS, .target 2⟩,
    ⟨6, .pop, .none⟩, ⟨7, .rethrow, .none⟩]
  handlers := [⟨.catch, 3, 6, 6, 9, none⟩]

theorem trailing_unclosed : ∃ g, ofBody trailing = .ok g ∧ trailing.Ordered ∧
    (∀ h ∈ trailing.handlers, trailing.Opened .tried h ∧ trailing.Opened .handled h ∧
      trailing.HasOffset h.tryEnd ∧ ∀ x ∈ trailing.instructions, x.offset < h.handlerEnd) ∧
    (∀ x ∈ trailing.instructions, '\n' ∉ x.operand.text.toList) ∧
    (g.listingLines trailing).count "Handle \x7b" = 1 ∧
    (g.listingLines trailing).count "\x7d (Handle)" = 0 := by
  have ho : trailing.Ordered := by decide
  have hlines : ∀ x ∈ trailing.instructions, '\n' ∉ x.operand.text.toList := by decide +kernel
  have hopened : ∀ h ∈ trailing.handlers, ∀ r : Region, trailing.Opened r h := by
    rintro h hh (_ | _) <;> revert h <;> decide
  have hcount := count_text (g := assemble trailing) ho hopened hlines
  refine ⟨assemble trailing, rfl, ho, by decide, hlines, ?_, ?_⟩
  · exact (hcount (.opening .handled)).trans (by decide)
  · exact (hcount (.closing .handled)).trans (by decide)

end Graph

end NullFlow
