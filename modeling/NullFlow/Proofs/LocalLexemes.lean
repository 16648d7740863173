import NullFlow.Proofs.LocalReaders

namespace NullFlow.Json

open Text (Bytes)

theorem word_local (letters : List UInt8) : Skips 0 (word letters) := by
  induction letters with
  | nil => exact Skips.pure
  | cons w ws ih =>
      exact Local.loose <| Local.uncons error_ne_ok fun b =>
        Local.ite (fun _ => ih) fun _ => Local.error

theorem stringBytes_bytewise (state : StringState) (b : UInt8) :
    Bytewise Prod.mk stringBytes fun s => stringBytes state (b :: s) := by
  have shown (bytes : Bytes) : Bytewise Prod.mk stringBytes
      fun s => stringBytes.emit bytes (stringBytes .plain s) :=
    .next StringState.plain fun _ _ => rfl
  cases state with
  | plain =>
      exact .ite (fun _ => .stop []) fun _ => .ite (fun _ => .on StringState.escape) fun _ =>
        .ite (fun _ => .fail _) fun _ => shown [b]
  | escape =>
      refine .ite (fun _ => .on (StringState.hex none [])) fun _ => ?_
      cases letterEscape b with
      | none => exact .fail _
      | some c => exact shown [c]
  | hex high digits =>
      refine .ite (fun _ => .on (StringState.hex high (digits ++ [b]))) fun _ => ?_
      cases hexValue (digits ++ [b]) with
      | none => exact .fail _
      | some n =>
          cases high with
          | none =>
              exact .ite (fun _ => .fail _) fun _ =>
                .ite (fun _ => .on (StringState.pair n)) fun _ => shown (codePoint n)
          | some high =>
              exact .ite (fun _ => shown (codePoint (surrogatePair high n))) fun _ => .fail _
  | pair high => exact .ite (fun _ => .on (StringState.pairEscape high)) fun _ => .fail _
  | pairEscape high => exact .ite (fun _ => .on (StringState.hex (some high) [])) fun _ => .fail _

theorem stringBytes_local (state : StringState) : Reads 0 (stringBytes state) := by
  refine Bytewise.reads (fun c => ⟨c.1, c.2, rfl⟩) (fun _ _ _ _ h => ?_) (fun state c h => ?_)
    stringBytes_bytewise state
  · exact Prod.mk.inj h
  · cases state <;> cases h

theorem readString_local : Reads 0 readString := by
  refine (stringBytes_local .plain).bind fun bytes => ?_
  dsimp only
  cases Text.decode? bytes with
  | none => exact Local.error
  | some text => exact Reads.pure text

theorem skipString_bytewise (state : StringState) (b : UInt8) :
    Bytewise (fun (_ : Unit) s => s) skipString fun s => skipString state (b :: s) := by
  have plain : Bytewise (fun (_ : Unit) s => s) skipString fun s =>
      if b = 0x22 then .ok s
      else if b = 0x5C then skipString .escape s
      else if b < 0x20 then .error .controlCharacter
      else skipString .plain s :=
    .ite (fun _ => .stop ()) fun _ => .ite (fun _ => .on StringState.escape) fun _ =>
      .ite (fun _ => .fail _) fun _ => .on StringState.plain
  cases state with
  | plain | pair high | pairEscape high => exact plain
  | escape =>
      exact .ite (fun _ => .on (StringState.hex none [])) fun _ =>
        .ite (fun _ => .on StringState.plain) fun _ => .fail _
  | hex high digits =>
      exact .ite (fun _ => .on (StringState.hex none (digits ++ [b]))) fun _ =>
        .ite (fun _ => .on StringState.plain) fun _ => .fail _

theorem skipString_local (state : StringState) : Skips 0 (skipString state) := by
  refine Bytewise.reads (fun c => ⟨(), c, rfl⟩) (fun _ _ _ _ h => ⟨rfl, h⟩) (fun state c h => ?_)
    skipString_bytewise state
  cases state <;> cases h

section

variable (negative : Bool) (n : Nat) (scale : Int)

def exponentValue (down : Bool) (digits : Bytes) : Except Reason Number :=
  let e : Int := digits.foldl (fun n d => 10 * n + (d.toNat - 0x30)) 0
  real negative n (if down then scale - e else scale + e)

def exponentDigits (down : Bool) : Bytes → Except Reason (Number × Bytes)
  | [] => throw .eofValue
  | b :: s =>
    if isDigit b then do
      let x ← exponentValue negative n scale down (b :: s.takeWhile isDigit)
      return (x, s.dropWhile isDigit)
    else throw .invalidNumber

theorem exponentDigits_local (down : Bool) :
    Reads 1 (exponentDigits negative n scale down) := by
  refine Local.uncons error_ne_ok fun b => Local.ite (fun _ => ?_) fun _ => Local.error
  exact Local.run isDigit
    (k := fun digits s =>
      exponentValue negative n scale down (b :: digits) >>= fun x => pure (x, s))
    fun digits => Local.given fun x _ => Reads.pure x

theorem exponentDigits_eq (down : Bool) (s : Bytes) :
    exponentDigits negative n scale down s = match s with
      | [] => throw .eofValue
      | b :: _ => do
        if !isDigit b then throw .invalidNumber
        let e : Int := (s.takeWhile isDigit).foldl (fun n d => 10 * n + (d.toNat - 0x30)) 0
        return (← real negative n (if down then scale - e else scale + e),
          s.dropWhile isDigit) := by
  cases s with
  | nil => rfl
  | cons b s =>
      cases hb : isDigit b with
      | true =>
          simp only [exponentDigits, exponentValue, hb, if_true, Bool.not_true, Bool.false_eq_true,
            if_false, List.takeWhile_cons_of_pos hb, List.dropWhile_cons_of_pos hb]
      | false => simp only [exponentDigits, hb, Bool.false_eq_true, if_false]; rfl

theorem exponentPart_local : Reads 0 (exponentPart negative n scale) := by
  have plus (s : Bytes) : exponentPart negative n scale (0x2B :: s) =
      exponentDigits negative n scale false s := (exponentDigits_eq ..).symm
  have minus (s : Bytes) : exponentPart negative n scale (0x2D :: s) =
      exponentDigits negative n scale true s := (exponentDigits_eq ..).symm
  have bare (b : UInt8) (s : Bytes) (hb : ¬ (b = 0x2B ∨ b = 0x2D)) :
      exponentPart negative n scale (b :: s) = exponentDigits negative n scale false (b :: s) := by
    rw [not_or] at hb
    simp only [exponentPart, hb.1, hb.2, if_false, exponentDigits_eq]
  refine Local.branch (exponentDigits_local negative n scale false).loose
    (c := fun b => b = 0x2B ∨ b = 0x2D) (fun b hb => ?_) (fun _ h => h) bare
  obtain rfl | rfl := hb
  · simpa only [plus] using (exponentDigits_local negative n scale false).loose
  · simpa only [minus] using (exponentDigits_local negative n scale true).loose

end

/-- Where the digits of a number end: before an exponent, or with the value `x`. -/
def exponentEnd (x : Except Reason Number) (negative : Bool) (n : Nat) (scale : Int) :
    Bytes → Except Reason (Number × Bytes)
  | b :: s =>
    if b = 0x65 ∨ b = 0x45 then exponentPart negative n scale s
    else do return (← x, b :: s)
  | [] => do return (← x, [])

theorem exponentEnd_local (x : Except Reason Number) (negative : Bool) (n : Nat) (scale : Int) :
    Reads 0 (exponentEnd x negative n scale) := by
  refine Local.branch (Local.given (x := x) fun x _ => Reads.pure x)
    (c := fun b => b = 0x65 ∨ b = 0x45) (fun b hb => ?_) (fun _ h => h) fun b s hb => ?_
  · simpa only [exponentEnd, hb, if_true] using exponentPart_local negative n scale
  · simp only [exponentEnd, hb, if_false]; rfl

theorem fractionPart_local (negative : Bool) (n : Nat) (scale : Int) :
    Reads 0 (fractionPart negative n scale) := by
  let behind (digits : Bytes) : Bytes → Except Reason (Number × Bytes) :=
    let m := (significand n digits).1
    let scale := scale - (significand n digits).2.1
    exponentEnd (real negative m scale) negative m scale
  have h : Reads 0 fun s => if (s.takeWhile isDigit).isEmpty then .error .invalidNumber
      else behind (s.takeWhile isDigit) (s.dropWhile isDigit) :=
    Local.run isDigit
      (k := fun digits s => if digits.isEmpty then .error Reason.invalidNumber else behind digits s)
      fun digits => Local.ite (fun _ => Local.error) fun _ => exponentEnd_local ..
  refine h.of_ok fun s c => ?_
  cases hdigits : (s.takeWhile isDigit).isEmpty with
  | true => simp [fractionPart, hdigits, bind, Except.bind, throw, throwThe, MonadExceptOf.throw]
  | false =>
      simp only [fractionPart, hdigits, Bool.false_eq_true, if_false, behind]
      cases s.dropWhile isDigit <;> rfl

def wholeEnd (negative : Bool) (n left : Nat) : Bytes → Except Reason (Number × Bytes)
  | c :: after => do
    if c = 0x2E then fractionPart negative n left after
    else if c = 0x65 ∨ c = 0x45 then exponentPart negative n left after
    else return (← if left = 0 then whole negative n else real negative n left, c :: after)
  | [] => do return (← if left = 0 then whole negative n else real negative n left, [])

theorem wholeEnd_local (negative : Bool) (n left : Nat) : Reads 0 (wholeEnd negative n left) := by
  let value : Except Reason Number := if left = 0 then whole negative n else real negative n left
  refine Local.branch (c := fun b => b = 0x2E) (exponentEnd_local value negative n left)
    (fun b hb => ?_) (fun c h => ?_) fun b s hb => ?_
  · simpa only [wholeEnd, hb, if_true] using fractionPart_local negative n left
  · simp only [wholeEnd, exponentEnd, value] at h ⊢
    split_ifs at h ⊢ <;> exact h
  · simp only [wholeEnd, exponentEnd, value, hb, if_false]
    split_ifs <;> rfl

def wholePart {γ : Type} (eof : Reason) (k : Bytes → Bytes → Except Reason γ) :
    Bytes → Except Reason γ
  | [] => .error eof
  | b :: s =>
    if isDigit b then
      if b = 0x30 then if s.head?.any isDigit then .error .invalidNumber else k [b] s
      else k (b :: s.takeWhile isDigit) (s.dropWhile isDigit)
    else .error .invalidNumber

theorem wholePart_local {α γ : Type} {place : α → Bytes → γ} {eof : Reason}
    {k : Bytes → Bytes → Except Reason γ} (hk : ∀ digits, Local Alike 0 place (k digits)) :
    Local Alike 1 place (wholePart eof k) := by
  refine Local.uncons error_ne_ok fun b => Local.ite (fun _ => ?_) fun _ => Local.error
  refine Local.ite (fun _ => ?_) fun _ => Local.run isDigit fun digits => hk (b :: digits)
  exact Local.either Local.error (hk [b]) fun _ _ hal => hal.head ▸ Iff.rfl

theorem readNumber_eq (negative : Bool) : readNumber negative = wholePart .eofValue fun digits =>
    wholeEnd negative (significand 0 digits).1 (significand 0 digits).2.2 := by
  funext s
  cases s with
  | nil => rfl
  | cons b s =>
      cases hb : isDigit b with
      | false => simp only [readNumber, wholePart, hb]; rfl
      | true =>
          simp only [readNumber, wholePart, hb, Bool.not_true, Bool.false_eq_true, if_false,
            if_true, List.takeWhile_cons_of_pos hb, List.dropWhile_cons_of_pos hb]
          by_cases hzero : b = 0x30
          · cases s with
            | nil => simp only [hzero, if_true]; rfl
            | cons c s => cases hc : isDigit c <;> simp [hzero, hc] <;> rfl
          · simp only [hzero, if_false, false_and]
            cases s.dropWhile isDigit <;> rfl

theorem readNumber_local (negative : Bool) : Reads 1 (readNumber negative) :=
  readNumber_eq negative ▸ wholePart_local fun _ => wholeEnd_local ..

theorem skipDigits_local : Skips 0 skipDigits :=
  Local.run isDigit
    (k := fun digits s => if digits.isEmpty then .error Reason.invalidNumber else .ok s)
    fun _ => Local.ite (fun _ => Local.error) fun _ => Skips.pure

theorem skipExponent_local : Skips 0 skipExponent := by
  refine Local.branch skipDigits_local (c := fun b => b = 0x2B ∨ b = 0x2D) (fun b hb => ?_)
    (fun _ h => h) fun b s hb => ?_
  · simpa only [skipExponent, hb, if_true] using skipDigits_local
  · simp only [skipExponent, hb, if_false]

def skipExponentEnd : Bytes → Except Reason Bytes
  | d :: after => if d = 0x65 ∨ d = 0x45 then skipExponent after else return d :: after
  | [] => return []

theorem skipExponentEnd_local : Skips 0 skipExponentEnd := by
  refine Local.branch Skips.pure (c := fun b => b = 0x65 ∨ b = 0x45) (fun b hb => ?_) (fun _ h => h)
    fun b s hb => ?_
  · simpa only [skipExponentEnd, hb, if_true] using skipExponent_local
  · simp only [skipExponentEnd, hb, if_false]; rfl

def skipWholeEnd : Bytes → Except Reason Bytes
  | c :: after => do
    if c = 0x2E then skipExponentEnd (← skipDigits after)
    else if c = 0x65 ∨ c = 0x45 then skipExponent after
    else return c :: after
  | [] => return []

theorem skipWholeEnd_local : Skips 0 skipWholeEnd := by
  refine Local.branch skipExponentEnd_local (c := fun b => b = 0x2E) (fun b hb => ?_) (fun _ h => h)
    fun b s hb => ?_
  · simpa only [skipWholeEnd, hb, if_true] using skipDigits_local.bind skipExponentEnd_local
  · simp only [skipWholeEnd, skipExponentEnd, hb, if_false]

theorem skipNumber_eq : skipNumber = wholePart .invalidNumber fun _ => skipWholeEnd := by
  funext s
  cases s with
  | nil => rfl
  | cons b s =>
      cases hb : isDigit b with
      | false => simp only [skipNumber, wholePart, hb]; rfl
      | true =>
          simp only [skipNumber, wholePart, hb, Bool.not_true, Bool.false_eq_true, if_false,
            if_true, List.dropWhile_cons_of_pos hb]
          by_cases hzero : b = 0x30
          · cases s with
            | nil => simp only [hzero, if_true]; rfl
            | cons c s => cases hc : isDigit c <;> simp [hzero, hc] <;> rfl
          · simp only [hzero, if_false, false_and]
            cases s.dropWhile isDigit <;> rfl

theorem skipNumber_local : Skips 1 skipNumber :=
  skipNumber_eq ▸ wholePart_local fun _ => skipWholeEnd_local

theorem skipScalar_local (b : UInt8) : Skips 0 (skipScalar b) :=
  Local.ite (fun _ => word_local _) fun _ => Local.ite (fun _ => word_local _) fun _ =>
    Local.ite (fun _ => word_local _) fun _ => Local.ite (fun _ => skipNumber_local.loose) fun _ =>
    Local.ite (fun _ => skipNumber_local.of_cons b) fun _ =>
    Local.ite (fun _ => skipString_local .plain) fun _ => Local.error

theorem skipName_local : Skips 1 skipName := by
  refine Local.first error_ne_ok fun b => Local.ite (fun _ => Local.error) fun _ => ?_
  exact (skipString_local .plain).bind <| Local.loose <| Local.first error_ne_ok fun c =>
    Local.ite (fun _ => Skips.pure) fun _ => Local.error

theorem member_local (bracket : Bracket) : Skips 0 (skipFrom.member bracket) :=
  match bracket with
  | .list => Skips.pure
  | .object => skipName_local.loose

theorem skipFrom_local (fuel : Nat) (state : SkipState) (brackets : List Bracket) :
    Skips 0 (skipFrom fuel state brackets) := by
  induction fuel generalizing state brackets with
  | zero =>
      cases state with
      | after =>
          cases brackets with
          | nil => exact Skips.pure
          | cons => exact Local.error
      | value | opened => exact Local.error
  | succ fuel ih =>
      cases state with
      | value =>
          exact Local.loose <| Local.first error_ne_ok fun b =>
            Local.ite (fun _ => ih _ _) fun _ => Local.ite (fun _ => ih _ _) fun _ =>
            (skipScalar_local b).bind (ih _ _)
      | opened =>
          cases brackets with
          | nil => exact Skips.pure
          | cons bracket brackets =>
              have h : Skips 0 fun s => match s with
                  | [] => .error bracket.eof
                  | b :: rest =>
                    if b = bracket.closing then skipFrom fuel .after brackets rest
                    else skipFrom.member bracket (b :: rest) >>=
                      skipFrom fuel .value (bracket :: brackets) :=
                Local.branch ((member_local bracket).bind (ih .value (bracket :: brackets)))
                  (c := fun b => b = bracket.closing)
                  (fun b hb => by simpa only [hb, if_true] using ih .after brackets)
                  (fun _ h => nomatch h) fun b s hb => by simp only [hb, if_false]
              exact h.blank
      | after =>
          cases brackets with
          | nil => exact Skips.pure
          | cons bracket brackets =>
              exact Local.loose <| Local.first error_ne_ok fun b =>
                Local.ite (fun _ => ih _ _) fun _ => Local.ite
                  (fun _ => (member_local bracket).bind (ih _ _)) fun _ => Local.error

def SkipState.slack : SkipState → Nat
  | .opened => 1
  | .value | .after => 0

theorem Skips.length_le {read : Bytes → Except Reason Bytes} (h : Skips 0 read) {s rest : Bytes}
    (hs : read s = .ok rest) : rest.length ≤ s.length :=
  Local.rest_length h (a := ()) hs

theorem length_lt_of_skipBlank {b : UInt8} {s rest : Bytes} (h : skipBlank s = b :: rest) :
    rest.length < s.length := by
  have hle := (List.dropWhile_suffix (l := s) isBlank).length_le
  rwa [show s.dropWhile isBlank = b :: rest from h, List.length_cons] at hle

/-- The length of the text is fuel enough: a byte takes two steps at most, one to open a bracket and
one to find no member behind it. -/
theorem skipFrom_enough {fuel more : Nat} {state : SkipState} {brackets : List Bracket}
    {s rest : Bytes} (h : skipFrom fuel state brackets s = .ok rest)
    (hmore : 2 * s.length + state.slack ≤ more) : skipFrom more state brackets s = .ok rest := by
  induction fuel generalizing state brackets s more with
  | zero =>
      cases state with
      | after =>
          cases brackets with
          | nil => cases more <;> exact h
          | cons => cases h
      | value | opened => cases h
  | succ fuel ih =>
      have run {state' : SkipState} {brackets' : List Bracket} {read : Bytes → Except Reason Bytes}
          (hread : Skips 0 read) {s' : Bytes}
          (h : (read s' >>= skipFrom fuel state' brackets') = .ok rest) {fewer : Nat}
          (hfewer : 2 * s'.length + state'.slack ≤ fewer) :
          (read s' >>= skipFrom fewer state' brackets') = .ok rest := by
        obtain ⟨s'', hs'', h⟩ := bind_eq_ok.1 h
        have hle := hread.length_le hs''
        exact bind_eq_ok.2 ⟨s'', hs'', ih h (by omega)⟩
      cases state with
      | value =>
          cases hb : skipBlank s with
          | nil => simp only [skipFrom, hb, reduceCtorEq] at h
          | cons b s' =>
              have hlt := length_lt_of_skipBlank hb
              obtain ⟨fewer, rfl⟩ : ∃ fewer, more = fewer + 1 := ⟨more - 1, by omega⟩
              simp only [skipFrom, hb, SkipState.slack] at h hmore ⊢
              split_ifs at h ⊢
              · exact ih h (by simp only [SkipState.slack]; omega)
              · exact ih h (by simp only [SkipState.slack]; omega)
              · exact run (skipScalar_local b) h (by simp only [SkipState.slack]; omega)
      | opened =>
          obtain ⟨fewer, rfl⟩ : ∃ fewer, more = fewer + 1 :=
            ⟨more - 1, by simp only [SkipState.slack] at hmore; omega⟩
          cases brackets with
          | nil => exact h
          | cons bracket brackets =>
              cases hb : skipBlank s with
              | nil => simp only [skipFrom, hb, reduceCtorEq] at h
              | cons b s' =>
                  have hlt := length_lt_of_skipBlank hb
                  simp only [skipFrom, hb, SkipState.slack] at h hmore ⊢
                  split_ifs at h ⊢
                  · exact ih h (by simp only [SkipState.slack]; omega)
                  · exact run (member_local bracket) h
                      (by simp only [SkipState.slack, List.length_cons]; omega)
      | after =>
          cases brackets with
          | nil => cases more <;> exact h
          | cons bracket brackets =>
              cases hb : skipBlank s with
              | nil => simp only [skipFrom, hb, reduceCtorEq] at h
              | cons b s' =>
                  have hlt := length_lt_of_skipBlank hb
                  obtain ⟨fewer, rfl⟩ : ∃ fewer, more = fewer + 1 := ⟨more - 1, by omega⟩
                  simp only [skipFrom, hb, SkipState.slack] at h hmore ⊢
                  split_ifs at h ⊢
                  · exact ih h (by simp only [SkipState.slack]; omega)
                  · exact run (member_local bracket) h (by simp only [SkipState.slack]; omega)

theorem skipValue_local : Skips 0 skipValue :=
  Local.fueled (fun fuel => skipFrom_local fuel .value []) fun fuel s rest h =>
    skipFrom_enough h (by simp only [SkipState.slack]; omega)

end NullFlow.Json
