import NullFlow.Proofs.LocalLexemes

namespace NullFlow.Json

open Text (Bytes)

variable {α β γ δ σ : Type}

theorem lift_eq_ok {x : Except Reason α} {a : α} : lift x = .ok a ↔ x = .ok a := by
  cases x <;> simp [lift, fail]

theorem within_eq_ok {step : Step} {x : Except Failure α} {a : α} :
    within step x = .ok a ↔ x = .ok a := by
  cases x <;> simp [within]

section

variable {near : Bytes → Bytes → Prop} {least : Nat} {place : α → Bytes → γ}

theorem Local.lift {read : Bytes → Except Reason γ} (h : Local near least place read) :
    Local near least place fun s => lift (read s) :=
  h.of_ok fun _ _ => lift_eq_ok

theorem Local.within {step : Step} {read : Bytes → Except Failure γ}
    (h : Local near least place read) : Local near least place fun s => within step (read s) :=
  h.of_ok fun _ _ => within_eq_ok

theorem Local.byFirst {read : UInt8 → Bytes → Except Failure (α × Bytes)}
    (h : ∀ b, Local near least Prod.mk (read b)) : Local near (least + 1) Prod.mk (byFirst read) :=
  Local.first error_ne_ok h

end

def closing (c : UInt8) (s : Bytes) : Except Reason Bytes :=
  match skipBlank s with
  | [] => .error .eofValue
  | b :: rest => if b = c then .ok rest else .error .expectedValue

theorem closing_closes {c : UInt8} (hc : isBlank c = false) :
    Closes 1 (fun (_ : Unit) rest => rest) (closing c) := by
  have h : Closes 1 (fun (_ : Unit) rest => rest) fun s => match s with
      | [] => .error .eofValue
      | b :: rest => if b = c then .ok rest else .error Reason.expectedValue := by
    intro s _ rest hs
    cases s with
    | nil => cases hs
    | cons b s =>
        by_cases hb : b = c
        · simp only [hb, if_true, Except.ok.injEq] at hs
          subst hb hs
          exact ⟨[b], rfl, le_rfl, fun t _ => ⟨.of_solid hc _ _, by simp⟩⟩
        · simp only [hb, if_false, reduceCtorEq] at hs
  exact h.blank

theorem endList_closes : Closes 1 (fun (_ : Unit) rest => rest) endList := by
  refine (closing_closes (c := 0x5D) rfl).of_ok fun s rest => ?_
  unfold endList closing
  cases skipBlank s with
  | nil => simp
  | cons b s =>
      by_cases hb : b = 0x5D
      · simp [hb]
      · by_cases hcomma : b = 0x2C
        · cases hs : skipBlank s <;> simp [hcomma, hs]
        · simp [hb, hcomma]

theorem endObject_closes : Closes 1 (fun (_ : Unit) rest => rest) endObject := by
  refine (closing_closes (c := 0x7D) rfl).of_ok fun s rest => ?_
  unfold endObject closing
  cases skipBlank s with
  | nil => simp
  | cons b s => by_cases hb : b = 0x7D <;> simp [hb]

theorem colon_closes : Closes 1 (fun (_ : Unit) rest => rest) colon := by
  refine (closing_closes (c := 0x3A) rfl).of_ok fun s rest => ?_
  unfold colon closing
  cases skipBlank s with
  | nil => simp
  | cons b s => by_cases hb : b = 0x3A <;> simp [hb]

/-- Decoders that look no further than they read, and read something. -/
def Decoder.IsLocal (decoder : Decoder α) : Prop :=
  ∀ depth, Reads 1 (decoder depth)

namespace Decoder

theorem IsLocal.map {decoder : Decoder α} (h : decoder.IsLocal) (f : α → β) :
    (decoder.map f).IsLocal :=
  fun depth => (h depth).bind fun a => Reads.pure (f a)

theorem text_isLocal : text.IsLocal := fun _ =>
  Local.byFirst fun _ => Local.ite (fun _ => readString_local.lift) fun _ => Local.error

theorem bool_isLocal : bool.IsLocal := fun _ =>
  Local.byFirst fun _ => Local.ite (fun _ => ((word_local _).map true).lift) fun _ =>
    Local.ite (fun _ => ((word_local _).map false).lift) fun _ => Local.error

theorem number_isLocal (expected : String) (accept : Number → Except Reason α) :
    (number expected accept).IsLocal := by
  have accepted {read : Bytes → Except Failure (Number × Bytes)} (h : Reads 0 read) :
      Reads 0 fun s => read s >>= fun r => Json.lift (accept r.1) >>= fun a => pure (a, r.2) := by
    refine h.bind fun n => ?_
    exact Local.given (x := Json.lift (accept n)) fun a _ => Reads.pure a
  intro _
  exact Local.byFirst fun b =>
    Local.ite (fun _ => accepted (readNumber_local true).loose.lift) fun _ =>
    Local.ite (fun _ => accepted ((readNumber_local false).of_cons b).lift) fun _ => Local.error

theorem unit_isLocal : unit.IsLocal := fun _ =>
  Local.byFirst fun _ => Local.ite (fun _ => ((word_local _).map ()).lift) fun _ => Local.error

theorem IsLocal.option {decoder : Decoder α} (h : decoder.IsLocal) : (option decoder).IsLocal := by
  intro depth
  have hnull : Reads 1 fun s => Json.lift ((word restOfNull s.tail).map ((none : Option α), ·)) :=
    Local.uncons error_ne_ok fun _ => ((word_local _).map none).lift
  have hread := hnull.either (h.map some depth) (c := fun s => s.head? = some 0x6E)
    fun _ _ hal => hal.head ▸ Iff.rfl
  refine hread.blank.of_ok fun s c => ?_
  unfold Decoder.option
  cases skipBlank s <;> simp

end Decoder

def separated (first : Bool) (s : Bytes) : Except Reason Bytes :=
  if first then .ok (skipBlank s)
  else match skipBlank s with
    | [] => .error .eofValue
    | b :: rest => if b = 0x2C then .ok (skipBlank rest) else .error .expectedValue

theorem separated_local (first : Bool) : Skips 0 (separated first) :=
  Local.ite (fun _ => Skips.pure.blank) fun _ => Local.loose <| Local.first error_ne_ok fun _ =>
    Local.ite (fun _ => Skips.pure.blank) fun _ => Local.error

def nextPart (close : UInt8) (first : Bool) (read : Bytes → Except Reason (α × Bytes)) (s : Bytes) :
    Except Reason (Option α × Bytes) :=
  if (skipBlank s).head? = some close then .ok (none, s)
  else do
    let (a, s) ← read (← separated first s)
    return (some a, s)

theorem nextPart_local {read : Bytes → Except Reason (α × Bytes)} (h : Reads 0 read)
    (close : UInt8) (first : Bool) : Reads 0 (nextPart close first read) :=
  Local.either (Reads.pure none)
    ((separated_local first).bind (h.bind fun a => Reads.pure (some a)))
    fun _ _ hal => hal.solid ▸ Iff.rfl

theorem eq_of_nextPart_none {read : Bytes → Except Reason (α × Bytes)} {close : UInt8}
    {first : Bool} {s s' : Bytes} (h : nextPart close first read s = .ok (none, s')) : s' = s := by
  unfold nextPart at h
  split at h
  · cases h
    rfl
  · obtain ⟨_, _, h⟩ := bind_eq_ok.1 h
    obtain ⟨_, _, h⟩ := bind_eq_ok.1 h
    cases h

/-- A reader that gives where the next part is, or nothing before the closing bracket. -/
def NextPart {ε : Type} (close : UInt8) (first : Bool) (read : Bytes → Except Reason (α × Bytes))
    (place : α → Bytes → γ) (next : Bytes → Except ε (Option γ)) : Prop :=
  ∀ s o, next s = .ok o ↔ ∃ r, nextPart close first read s = .ok r ∧ r.1.map (place · r.2) = o

namespace NextPart

variable {c : UInt8} {first : Bool} {read : Bytes → Except Reason (α × Bytes)}
  {place : α → Bytes → γ}

theorem lift {next : Bytes → Except Reason (Option γ)} (h : NextPart c first read place next) :
    NextPart c first read place fun s => lift (next s) :=
  fun s o => lift_eq_ok.trans (h s o)

theorem within {next : Bytes → Except Failure (Option γ)} (h : NextPart c first read place next)
    (step : Step) : NextPart c first read place fun s => within step (next s) :=
  fun s o => within_eq_ok.trans (h s o)

theorem eq_some {ε : Type} {next : Bytes → Except ε (Option γ)}
    (h : NextPart c first read place next) {s : Bytes} {x : γ} (hs : next s = .ok (some x)) :
    ∃ a s', x = place a s' ∧ nextPart c first read s = .ok (some a, s') := by
  obtain ⟨⟨part, s'⟩, hr, hx⟩ := (h _ _).1 hs
  cases part with
  | none => cases hx
  | some a => exact ⟨a, s', (Option.some.inj hx).symm, hr⟩

theorem bind {next : Bytes → Except Failure (Option γ)} (h : NextPart c first read place next)
    (hread : Reads 0 read) {near : Bytes → Bytes → Prop} {place' : β → Bytes → δ}
    {k : Bytes → Option γ → Except Failure δ} (hk : ∀ s s' x, k s (some x) = k s' (some x))
    (hclose : Local near 0 place' fun s => k s none)
    (hon : ∀ a, Local near 0 place' fun s => k s (some (place a s))) :
    Local near 0 place' fun s => next s >>= k s := by
  have hpart : Local near 0 place' fun s => Json.lift (nextPart c first read s) >>= fun r =>
      k r.2 (r.1.map (place · r.2)) :=
    Reads.bind (nextPart_local hread c first).lift fun part => by
      cases part with
      | none => exact hclose
      | some a => exact hon a
  refine hpart.of_ok fun s b => ?_
  -- Before the closing bracket nothing is taken; elsewhere the text so far does not matter.
  have hsame {r : Option α × Bytes} (hr : nextPart c first read s = .ok r) :
      k s (r.1.map (place · r.2)) = k r.2 (r.1.map (place · r.2)) := by
    obtain ⟨part, s'⟩ := r
    cases part with
    | none => rw [eq_of_nextPart_none hr]
    | some a => exact hk _ _ _
  simp only [bind_eq_ok, lift_eq_ok]
  constructor
  · rintro ⟨o, ho, hb⟩
    obtain ⟨r, hr, rfl⟩ := (h s o).1 ho
    exact ⟨r, hr, hsame hr ▸ hb⟩
  · rintro ⟨r, hr, hb⟩
    exact ⟨_, (h s _).2 ⟨r, hr, rfl⟩, (hsame hr).symm ▸ hb⟩

end NextPart

def element (s : Bytes) : Except Reason (Unit × Bytes) :=
  if s.head? = none ∨ s.head? = some 0x5D then .error .expectedValue else .ok ((), s)

theorem element_local : Reads 0 element :=
  Local.either Local.error (Reads.pure ()) fun _ _ hal => hal.head ▸ Iff.rfl

theorem nextElement_nextPart (first : Bool) :
    NextPart 0x5D first element (fun _ s => s) (nextElement first) := by
  intro s o
  unfold nextElement nextPart separated element
  cases hs : skipBlank s with
  | nil => cases first <;> simp [bind, Except.bind]
  | cons b rest =>
      by_cases hb : b = 0x5D
      · simp [hb]
      cases first with
      | true => simp [hb, bind, Except.bind, pure, Except.pure]
      | false =>
          by_cases hcomma : b = 0x2C
          · cases hr : skipBlank rest with
            | nil => simp [hcomma, hr, bind, Except.bind]
            | cons c rest =>
                by_cases hc : c = 0x5D <;>
                  simp [hcomma, hr, hc, bind, Except.bind, pure, Except.pure]
          · simp [hb, hcomma, bind, Except.bind]

def quotedName (s : Bytes) : Except Reason (String × Bytes) :=
  match s with
  | [] => .error .eofObject
  | b :: s => if b = 0x22 then readString s else .error .keyNotString

theorem quotedName_local : Reads 1 quotedName :=
  Local.uncons error_ne_ok fun _ => Local.ite (fun _ => readString_local) fun _ => Local.error

theorem readName_nextPart (first : Bool) :
    NextPart 0x7D first quotedName Prod.mk (readName first) := by
  intro s o
  unfold readName nextName nextPart separated quotedName
  cases hs : skipBlank s with
  | nil => cases first <;> simp [bind, Except.bind]
  | cons b rest =>
      by_cases hb : b = 0x7D
      · simp [hb, bind, Except.bind, pure, Except.pure]
      cases first with
      | true =>
          by_cases hquote : b = 0x22
          · cases hr : readString rest <;> simp [hquote, hr, bind, Except.bind, pure, Except.pure]
          · simp [hb, hquote, bind, Except.bind]
      | false =>
          by_cases hcomma : b = 0x2C
          · cases hr : skipBlank rest with
            | nil => simp [hcomma, hr, bind, Except.bind]
            | cons c rest =>
                by_cases hquote : c = 0x22
                · cases hr' : readString rest <;>
                    simp [hcomma, hr, hquote, hr', bind, Except.bind, pure, Except.pure]
                · by_cases hc : c = 0x7D <;>
                    simp [hcomma, hr, hc, hquote, bind, Except.bind]
          · simp [hb, hcomma, bind, Except.bind]

section

variable {item : Bytes → Except Failure (α × Bytes)}

theorem elements_local (hitem : Reads 1 item) (fuel index : Nat) :
    Reads 0 (elements item fuel index) := by
  induction fuel generalizing index with
  | zero => exact Local.error
  | succ fuel ih =>
      refine (nextElement_nextPart (index == 0)).lift.bind element_local (fun _ _ _ => rfl)
        (Reads.pure []) fun _ => ?_
      exact Reads.bind hitem.loose.within fun a =>
        (ih (index + 1)).bind fun rest => Reads.pure (a :: rest)

/-- Every element takes a byte at least, so the length of the text is fuel enough. -/
theorem elements_enough (hitem : Reads 1 item) {fuel more index : Nat} {s : Bytes}
    {r : List α × Bytes} (h : elements item fuel index s = .ok r) (hmore : s.length < more) :
    elements item more index s = .ok r := by
  induction fuel generalizing index s r more with
  | zero => cases h
  | succ fuel ih =>
      obtain ⟨more, rfl⟩ : ∃ m, more = m + 1 := ⟨more - 1, by omega⟩
      obtain ⟨o, ho, h⟩ := bind_eq_ok.1 h
      refine bind_eq_ok.2 ⟨o, ho, ?_⟩
      cases o with
      | none => exact h
      | some s' =>
          obtain ⟨_, s'', rfl, hpart⟩ := (nextElement_nextPart (index == 0)).lift.eq_some ho
          have hle := (nextPart_local element_local 0x5D (index == 0)).rest_length hpart
          obtain ⟨⟨a, rest⟩, ha, h⟩ := bind_eq_ok.1 h
          have hlt := hitem.rest_length (within_eq_ok.1 ha)
          obtain ⟨r', hr', h⟩ := bind_eq_ok.1 h
          exact bind_eq_ok.2 ⟨_, ha, bind_eq_ok.2 ⟨_, ih hr' (by omega), h⟩⟩

end

theorem Decoder.IsLocal.list {item : Decoder α} (h : item.IsLocal) : (list item).IsLocal := by
  intro depth
  refine Local.byFirst fun b => Local.ite (fun _ => Local.error) fun _ =>
    Local.given fun depth _ => ?_
  have hitems : Reads 0 fun s => elements (item depth) (s.length + 1) 0 s :=
    Local.fueled (fun fuel => elements_local (h depth) fuel 0) fun _ _ _ hr =>
      elements_enough (h depth) hr (Nat.lt_succ_self _)
  exact hitems.bind fun items => Skips.bind endList_closes.alike.loose.lift (Reads.pure items)

def IsLocalFields (fields : List (Field σ)) : Prop :=
  ∀ field ∈ fields, field.read.IsLocal

section

variable {fields : List (Field σ)} (hfields : IsLocalFields fields) (depth : Nat)

include hfields

theorem members_local (fuel : Nat) (first : Bool) (seen : List String) (record : σ) :
    Local Alike 0 (fun (r : σ × List String) s => (r.1, r.2, s))
      (members fields depth fuel first seen record) := by
  induction fuel generalizing first seen record with
  | zero => exact Local.error
  | succ fuel ih =>
      refine ((readName_nextPart first).lift.within .unknown).bind quotedName_local.loose
        (fun _ _ _ => rfl) ?_ fun name => ?_
      · rintro s r rest ⟨⟩
        exact ⟨[], rfl, le_rfl, fun t hal => ⟨hal, rfl⟩⟩
      · dsimp only
        cases hfind : fields.find? (·.name == name) with
        | none =>
            exact Skips.bind colon_closes.alike.loose.lift <|
              Skips.bind skipValue_local.lift.within (ih false seen record)
        | some field =>
            have hfield := hfields field (List.mem_of_find?_eq_some hfind)
            exact Local.ite (fun _ => Local.error) fun _ =>
              Skips.bind colon_closes.alike.loose.lift <|
              Reads.bind (hfield depth).loose.within fun set => ih false (name :: seen) (set record)

theorem members_enough {fuel more : Nat} {first : Bool} {seen : List String} {record : σ}
    {s : Bytes} {r : σ × List String × Bytes}
    (h : members fields depth fuel first seen record s = .ok r)
    (hmore : s.length < more) : members fields depth more first seen record s = .ok r := by
  induction fuel generalizing first seen record s r more with
  | zero => cases h
  | succ fuel ih =>
      obtain ⟨more, rfl⟩ : ∃ m, more = m + 1 := ⟨more - 1, by omega⟩
      obtain ⟨o, ho, h⟩ := bind_eq_ok.1 h
      refine bind_eq_ok.2 ⟨o, ho, ?_⟩
      cases o with
      | none => exact h
      | some part =>
          -- The colon behind its name is the byte that every member takes.
          obtain ⟨name, s', rfl, hpart⟩ :=
            ((readName_nextPart first).lift.within .unknown).eq_some ho
          have hle := (nextPart_local quotedName_local.loose 0x7D first).rest_length hpart
          dsimp only at h ⊢
          cases hfind : fields.find? (·.name == name) with
          | none =>
              simp only [hfind] at h ⊢
              obtain ⟨s₁, h₁, h⟩ := bind_eq_ok.1 h
              have hlt := colon_closes.rest_length (a := ()) (lift_eq_ok.1 h₁)
              obtain ⟨s₂, h₂, h⟩ := bind_eq_ok.1 h
              have hle' := skipValue_local.length_le (lift_eq_ok.1 (within_eq_ok.1 h₂))
              exact bind_eq_ok.2 ⟨_, h₁, bind_eq_ok.2 ⟨_, h₂, ih h (by omega)⟩⟩
          | some field =>
              have hfield := hfields field (List.mem_of_find?_eq_some hfind)
              simp only [hfind] at h ⊢
              split_ifs at h ⊢
              · cases h
              · obtain ⟨s₁, h₁, h⟩ := bind_eq_ok.1 h
                have hlt := colon_closes.rest_length (a := ()) (lift_eq_ok.1 h₁)
                obtain ⟨⟨set, s₂⟩, h₂, h⟩ := bind_eq_ok.1 h
                have hlt' : s₂.length + 1 ≤ s₁.length :=
                  (hfield depth).rest_length (within_eq_ok.1 h₂)
                have hfuel : s₂.length < more := by omega
                exact bind_eq_ok.2 ⟨_, h₁, bind_eq_ok.2 ⟨_, h₂, ih h hfuel⟩⟩

theorem positional_local (expected : String) (index : Nat) (record : σ) :
    Reads 0 (positional expected depth fields index record) := by
  induction fields generalizing index record with
  | nil => exact Reads.pure record
  | cons field rest ih =>
      refine (nextElement_nextPart (index == 0)).lift.bind element_local (fun _ _ _ => rfl) ?_
        fun _ => ?_
      · dsimp only
        cases (field :: rest).findIdx? (·.required) with
        | none => exact Reads.pure record
        | some missing => exact Local.error
      · exact Reads.bind (hfields field (List.mem_cons_self ..) depth).loose.within fun set =>
          ih (fun f hf => hfields f (List.mem_cons_of_mem _ hf)) (index + 1) (set record)

theorem Decoder.record_closes (name : String) (blank : σ) :
    Closes 1 Prod.mk (record name fields blank depth) := by
  have hclose {read : Bytes → Except Reason Bytes}
      (h : Closes 1 (fun (_ : Unit) rest => rest) read) (result : σ) :
      Closes 0 Prod.mk fun s => lift (read s) >>= fun s => pure (result, s) :=
    (h.map result).loose.of_ok fun s c => by
      simp only [bind_eq_ok, lift_eq_ok, map_eq_ok, pure_eq_ok]
  refine Local.byFirst fun b => Local.ite (fun _ => ?_) fun _ => Local.ite (fun _ => ?_) fun _ =>
    Local.error
  · refine Local.given fun depth _ => ?_
    exact (positional_local hfields depth _ 0 blank).bind fun result => hclose endList_closes result
  · refine Local.given fun depth _ => ?_
    have hmembers : Local Alike 0 (fun (r : σ × List String) s => (r.1, r.2, s))
        fun s => members fields depth (s.length + 1) true [] blank s :=
      Local.fueled (fun fuel => members_local hfields depth fuel true [] blank) fun _ _ _ hr =>
        members_enough hfields depth hr (Nat.lt_succ_self _)
    refine hmembers.bind (fun c => ⟨(c.1, c.2.1), c.2.2, rfl⟩) fun (result, seen) => ?_
    dsimp only
    cases fields.find? fun f => f.required && !seen.contains f.name with
    | some field => exact Local.error
    | none => exact hclose endObject_closes result

theorem Decoder.record_isLocal (name : String) (blank : σ) :
    (record name fields blank).IsLocal :=
  fun depth => (record_closes hfields depth name blank).alike

end

namespace Decoder

def IsLocalVariants (variants : List (String × Variant α)) : Prop :=
  ∀ name decoder, (name, Variant.content decoder) ∈ variants → decoder.IsLocal

theorem onlyName_local : Reads 1 onlyName :=
  Local.first error_ne_ok fun _ => Local.ite (fun _ => readString_local) fun _ => Local.error

theorem mem_of_choose {variants : List (String × Variant α)} {name : String} {v : Variant α}
    (h : choose variants name = .ok v) : (name, v) ∈ variants := by
  unfold choose at h
  cases hv : variants.lookup name with
  | none =>
      rw [hv] at h
      cases h
  | some v' =>
      rw [hv] at h
      cases h
      obtain ⟨before, after, rfl, _⟩ := List.lookup_eq_some_iff.1 hv
      exact List.mem_append_right _ (List.mem_cons_self ..)

theorem variant_isLocal {variants : List (String × Variant α)} (h : IsLocalVariants variants) :
    (variant variants).IsLocal := by
  intro depth
  refine Local.byFirst fun b => Local.ite (fun _ => ?_) fun _ => Local.ite (fun _ => ?_) fun _ =>
    Local.error
  · refine Reads.bind readString_local.lift fun name => Local.given fun alternative _ => ?_
    cases alternative with
    | unit value => exact Reads.pure value
    | content decoder => exact Local.error
  · refine Local.given fun depth _ => Reads.bind onlyName_local.loose.lift fun name =>
      Local.given fun alternative hchosen => Skips.bind colon_closes.alike.loose.lift ?_
    refine Reads.bind (Local.within ?_) fun value => Local.loose <| Local.first error_ne_ok fun _ =>
      Local.ite (fun _ => Reads.pure value) fun _ => Local.error
    cases alternative with
    | unit value => exact (unit_isLocal.map _ depth).loose
    | content decoder => exact (h name decoder (mem_of_choose hchosen) depth).loose

end Decoder

end NullFlow.Json
