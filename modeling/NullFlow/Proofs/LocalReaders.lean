import NullFlow.Json.Decoder
import NullFlow.Proofs.FrameRelation

namespace NullFlow.Json

open Text (Bytes)

variable {ε α β γ δ : Type}

/-- The same byte comes next in both, and the same one behind the blanks. -/
structure Alike (s t : Bytes) : Prop where
  head : s.head? = t.head?
  solid : (skipBlank s).head? = (skipBlank t).head?

theorem skipBlank_of_blank {b : UInt8} (h : isBlank b) (s : Bytes) :
    skipBlank (b :: s) = skipBlank s :=
  List.dropWhile_cons_of_pos h

theorem skipBlank_of_solid {b : UInt8} (h : isBlank b = false) (s : Bytes) :
    skipBlank (b :: s) = b :: s :=
  List.dropWhile_cons_of_neg (by simp [h])

theorem Alike.append {s t : Bytes} (h : Alike s t) (text : Bytes) :
    Alike (text ++ s) (text ++ t) := by
  induction text with
  | nil => exact h
  | cons b text ih =>
      refine ⟨rfl, ?_⟩
      cases hb : isBlank b with
      | true =>
          rw [List.cons_append, List.cons_append, skipBlank_of_blank hb, skipBlank_of_blank hb]
          exact ih.solid
      | false =>
          rw [List.cons_append, List.cons_append, skipBlank_of_solid hb, skipBlank_of_solid hb]
          rfl

theorem Alike.eq_nil {t : Bytes} (h : Alike [] t) : t = [] := by
  cases t with
  | nil => rfl
  | cons b t => cases h.head

theorem Alike.exists_cons {b : UInt8} {s t : Bytes} (h : Alike (b :: s) t) : ∃ t', t = b :: t' := by
  cases t with
  | nil => cases h.head
  | cons c t =>
      cases h.head
      exact ⟨t, rfl⟩

theorem Alike.of_solid {b : UInt8} (h : isBlank b = false) (s t : Bytes) :
    Alike (b :: s) (b :: t) :=
  ⟨rfl, by rw [skipBlank_of_solid h, skipBlank_of_solid h]; rfl⟩

theorem takeWhile_append_of_head {p : UInt8 → Bool} {s t : Bytes}
    (h : (s.dropWhile p).head? = t.head?) :
    (s.takeWhile p ++ t).takeWhile p = s.takeWhile p ∧ (s.takeWhile p ++ t).dropWhile p = t := by
  induction s with
  | nil =>
      cases t with
      | nil => exact ⟨rfl, rfl⟩
      | cons c t => cases h
  | cons b s ih =>
      cases hb : p b with
      | true =>
          simp only [List.dropWhile_cons_of_pos hb] at h
          simpa [hb] using ih h
      | false =>
          rw [List.dropWhile_cons_of_neg (by simp [hb])] at h
          cases t with
          | nil => cases h
          | cons c t =>
              cases h
              simp [hb]

/-- The reader takes some text off the front, of at least so many bytes. Before anything `near` what
is left the same lies ahead, and it is taken. `place` puts what is left in its place in the
result. -/
def Local (near : Bytes → Bytes → Prop) (least : Nat) (place : α → Bytes → γ)
    (read : Bytes → Except ε γ) : Prop :=
  ∀ ⦃s a rest⦄, read s = .ok (place a rest) → ∃ text, s = text ++ rest ∧ least ≤ text.length ∧
    ∀ t, near rest t → Alike s (text ++ t) ∧ read (text ++ t) = .ok (place a t)

/-- Readers that give a value and what is left, and see the next byte of it. -/
abbrev Reads (least : Nat) (read : Bytes → Except ε (α × Bytes)) : Prop :=
  Local Alike least Prod.mk read

abbrev Skips (least : Nat) (read : Bytes → Except ε Bytes) : Prop :=
  Local Alike least (fun (_ : Unit) rest => rest) read

/-- Readers that see nothing of what is left. -/
abbrev Closes (least : Nat) (place : α → Bytes → γ) (read : Bytes → Except ε γ) : Prop :=
  Local (fun _ _ => True) least place read

theorem error_ne_ok {e : ε} (c : γ) : (.error e : Except ε γ) ≠ .ok c := nofun

namespace Local

variable {near : Bytes → Bytes → Prop} {least : Nat} {place : α → Bytes → γ}
  {place' : β → Bytes → δ} {read read' : Bytes → Except ε γ}

theorem loose (h : Local near least place read) : Local near 0 place read :=
  fun _ _ _ hs =>
    let ⟨text, hsplit, _, ht⟩ := h hs
    ⟨text, hsplit, Nat.zero_le _, ht⟩

theorem alike (h : Closes least place read) : Local Alike least place read :=
  fun _ _ _ hs =>
    let ⟨text, hsplit, hlen, ht⟩ := h hs
    ⟨text, hsplit, hlen, fun t _ => ht t trivial⟩

theorem of_ok {ε' : Type} {read' : Bytes → Except ε' γ} (h : Local near least place read')
    (heq : ∀ s c, read s = .ok c ↔ read' s = .ok c) : Local near least place read := by
  intro s a rest hs
  obtain ⟨text, hsplit, hlen, ht⟩ := h ((heq _ _).1 hs)
  exact ⟨text, hsplit, hlen, fun t hn => ⟨(ht t hn).1, (heq _ _).2 (ht t hn).2⟩⟩

theorem error {e : Bytes → ε} : Local near least place fun s => .error (e s) :=
  fun _ _ _ h => nomatch h

theorem either (h : Local near least place read) (h' : Local near least place read')
    {c : Bytes → Prop} [DecidablePred c] (hc : ∀ s t, Alike s t → (c s ↔ c t)) :
    Local near least place fun s => if c s then read s else read' s := by
  intro s a rest hs
  by_cases hcs : c s
  · obtain ⟨text, hsplit, hlen, ht⟩ := h (by simpa only [hcs, if_true] using hs)
    refine ⟨text, hsplit, hlen, fun t hn => ⟨(ht t hn).1, ?_⟩⟩
    simp only [(hc _ _ (ht t hn).1).1 hcs, if_true, (ht t hn).2]
  · obtain ⟨text, hsplit, hlen, ht⟩ := h' (by simpa only [hcs, if_false] using hs)
    refine ⟨text, hsplit, hlen, fun t hn => ⟨(ht t hn).1, ?_⟩⟩
    simp only [mt (hc _ _ (ht t hn).1).2 hcs, if_false, (ht t hn).2]

theorem ite {c : Prop} [Decidable c] (h : c → Local near least place read)
    (h' : ¬ c → Local near least place read') :
    Local near least place fun s => if c then read s else read' s := by
  split
  · exact h ‹_›
  · exact h' ‹_›

theorem bind (h : Local Alike least place read) (hplace : ∀ c, ∃ a rest, c = place a rest)
    {k : γ → Except ε δ} (hk : ∀ a, Local near 0 place' fun s => k (place a s)) :
    Local near least place' fun s => read s >>= k := by
  intro s b rest hs
  obtain ⟨c, hc, hb⟩ := bind_eq_ok.1 hs
  obtain ⟨a, s', rfl⟩ := hplace c
  obtain ⟨text, rfl, hlen, ht⟩ := h hc
  obtain ⟨text', rfl, _, ht'⟩ := hk a hb
  refine ⟨text ++ text', by rw [List.append_assoc], by rw [List.length_append]; omega, ?_⟩
  intro t hn
  -- The first reader sees the text of the second one, and so what it saw before.
  obtain ⟨hal, hread⟩ := ht' t hn
  rw [List.append_assoc]
  exact ⟨hal.append text, bind_eq_ok.2 ⟨_, (ht _ hal).2, hread⟩⟩

theorem given {x : Except ε β} {k : β → Bytes → Except ε γ}
    (hk : ∀ b, x = .ok b → Local near least place (k b)) :
    Local near least place fun s => x >>= (k · s) := by
  cases x with
  | error e => exact error
  | ok b => exact hk b rfl

theorem uncons (h0 : ∀ c, read [] ≠ .ok c)
    (hk : ∀ b, Local near least place fun s => read (b :: s)) :
    Local near (least + 1) place read := by
  intro s a rest hs
  cases s with
  | nil => exact absurd hs (h0 _)
  | cons b s =>
      obtain ⟨text, rfl, hlen, ht⟩ := hk b hs
      exact ⟨b :: text, rfl, Nat.succ_le_succ hlen, fun t hn =>
        ⟨(ht t hn).1.append [b], (ht t hn).2⟩⟩

/-- A reader that goes a way of its own where a byte of some kind comes next. -/
theorem branch (h : Local near least place read') {c : UInt8 → Prop}
    (hk : ∀ b, c b → Local near (least - 1) place fun s => read (b :: s))
    (h0 : ∀ c, read [] = .ok c → read' [] = .ok c)
    (heq : ∀ b s, ¬ c b → read (b :: s) = read' (b :: s)) : Local near least place read := by
  intro s a rest hs
  cases s with
  | nil =>
      obtain ⟨text, hsplit, hlen, ht⟩ := h (h0 _ hs)
      refine ⟨text, hsplit, hlen, fun t hn => ?_⟩
      obtain ⟨rfl, rfl⟩ := List.append_eq_nil_iff.1 hsplit.symm
      obtain ⟨hal, _⟩ := ht t hn
      obtain rfl := hal.eq_nil
      exact ⟨hal, hs⟩
  | cons b s =>
      by_cases hc : c b
      · obtain ⟨text, rfl, hlen, ht⟩ := hk b hc hs
        exact ⟨b :: text, rfl, by rw [List.length_cons]; omega, fun t hn =>
          ⟨(ht t hn).1.append [b], (ht t hn).2⟩⟩
      · obtain ⟨text, hsplit, hlen, ht⟩ := h (heq b s hc ▸ hs)
        refine ⟨text, hsplit, hlen, fun t hn => ?_⟩
        obtain ⟨hal, hread⟩ := ht t hn
        obtain ⟨t', ht'⟩ := hal.exists_cons
        rw [ht'] at hal hread ⊢
        exact ⟨hal, (heq b t' hc).trans hread⟩

theorem run (p : UInt8 → Bool) {k : Bytes → Bytes → Except ε γ}
    (hk : ∀ taken, Local near least place (k taken)) :
    Local near least place fun s => k (s.takeWhile p) (s.dropWhile p) := by
  intro s a rest hs
  obtain ⟨text, hsplit, hlen, ht⟩ := hk _ hs
  refine ⟨s.takeWhile p ++ text, ?_, by rw [List.length_append]; omega, fun t hn => ?_⟩
  · rw [List.append_assoc, ← hsplit, List.takeWhile_append_dropWhile]
  · obtain ⟨hal, hread⟩ := ht t hn
    obtain ⟨htaken, hleft⟩ := takeWhile_append_of_head hal.head
    refine ⟨?_, ?_⟩
    · have happend := hal.append (s.takeWhile p)
      rwa [List.takeWhile_append_dropWhile, ← List.append_assoc] at happend
    · simpa only [List.append_assoc, htaken, hleft] using hread

theorem blank (h : Local near least place read) :
    Local near least place fun s => read (skipBlank s) :=
  run isBlank fun _ => h

theorem first {x : Except ε γ} (h0 : ∀ c, x ≠ .ok c) {k : UInt8 → Bytes → Except ε γ}
    (hk : ∀ b, Local near least place (k b)) :
    Local near (least + 1) place fun s => match skipBlank s with | [] => x | b :: s => k b s :=
  have h : Local near (least + 1) place fun s => match s with | [] => x | b :: s => k b s :=
    uncons h0 hk
  h.blank

theorem of_cons (h : Local Alike (least + 1) place read) (b : UInt8) :
    Local Alike least place fun s => read (b :: s) := by
  intro s a rest hs
  obtain ⟨text, hsplit, hlen, ht⟩ := h hs
  cases text with
  | nil => exact absurd hlen (Nat.not_succ_le_zero _)
  | cons c text =>
      cases hsplit
      exact ⟨text, rfl, Nat.le_of_succ_le_succ hlen, fun t hal => ⟨hal.append text, (ht t hal).2⟩⟩

theorem fueled {read : Nat → Bytes → Except ε γ} {fuel : Bytes → Nat}
    (h : ∀ n, Local near least place (read n))
    (henough : ∀ n s c, read n s = .ok c → read (fuel s) s = .ok c) :
    Local near least place fun s => read (fuel s) s := by
  intro s a rest hs
  obtain ⟨text, hsplit, hlen, ht⟩ := h _ hs
  exact ⟨text, hsplit, hlen, fun t hn => ⟨(ht t hn).1, henough _ _ _ (ht t hn).2⟩⟩

theorem rest_length (h : Local near least place read) {s rest : Bytes} {a : α}
    (hs : read s = .ok (place a rest)) : rest.length + least ≤ s.length := by
  obtain ⟨text, rfl, hlen, _⟩ := h hs
  rw [List.length_append]
  omega

end Local

/-- What a reader with a state does behind a byte: it fails, stops, or goes on in some state and
changes the value it gets. -/
inductive Bytewise {σ : Type} (place : α → Bytes → γ) (read : σ → Bytes → Except ε γ) :
    (Bytes → Except ε γ) → Prop
  | fail (e : ε) : Bytewise place read fun _ => .error e
  | stop (a : α) : Bytewise place read fun s => .ok (place a s)
  | next (q : σ) {f : γ → γ} {g : α → α} (hf : ∀ a s, f (place a s) = place (g a) s) :
      Bytewise place read fun s => (read q s).map f

namespace Bytewise

variable {σ : Type} {place : α → Bytes → γ} {read : σ → Bytes → Except ε γ}
  {k k' : Bytes → Except ε γ}

theorem on (q : σ) : Bytewise place read (read q) := by
  have h : (fun s => (read q s).map id) = read q := funext fun s => by cases read q s <;> rfl
  exact h ▸ next q fun _ _ => rfl

theorem ite {c : Prop} [Decidable c] (h : c → Bytewise place read k)
    (h' : ¬ c → Bytewise place read k') : Bytewise place read fun s => if c then k s else k' s := by
  split
  · exact h ‹_›
  · exact h' ‹_›

/-- The state of a reader carries what it has seen, so it needs to look at nothing but the next
byte. -/
theorem reads (hplace : ∀ c, ∃ a rest, c = place a rest)
    (hinj : ∀ a a' s s', place a s = place a' s' → a = a' ∧ s = s') (h0 : ∀ q c, read q [] ≠ .ok c)
    (hstep : ∀ q b, Bytewise place read fun s => read q (b :: s)) (q : σ) :
    Local Alike 0 place (read q) := by
  intro s
  induction s generalizing q with
  | nil => exact fun _ _ h => absurd h (h0 q _)
  | cons b s ih =>
      intro a rest hs
      have hk := hstep q b
      generalize hread : (fun s => read q (b :: s)) = k at hk
      have hread (s : Bytes) : read q (b :: s) = k s := congrFun hread s
      rw [hread] at hs
      cases hk with
      | fail e => cases hs
      | stop a' =>
          obtain ⟨rfl, rfl⟩ := hinj _ _ _ _ (Except.ok.inj hs)
          exact ⟨[b], rfl, Nat.zero_le _, fun t hal => ⟨hal.append [b], hread t⟩⟩
      | next q' hf =>
          obtain ⟨c, hc, hplaced⟩ := map_eq_ok.1 hs
          obtain ⟨a', s', rfl⟩ := hplace c
          obtain ⟨rfl, rfl⟩ := hinj _ _ _ _ ((hf a' s').symm.trans hplaced)
          obtain ⟨text, rfl, _, ht⟩ := ih q' hc
          refine ⟨b :: text, rfl, Nat.zero_le _, fun t hal => ⟨(ht t hal).1.append [b], ?_⟩⟩
          exact (hread _).trans (map_eq_ok.2 ⟨_, (ht t hal).2, hf a' t⟩)

end Bytewise

theorem Reads.pure (a : α) : Reads 0 fun s => (.ok (a, s) : Except ε (α × Bytes)) := by
  rintro s a rest ⟨⟩
  exact ⟨[], rfl, le_rfl, fun t hal => ⟨hal, rfl⟩⟩

theorem Skips.pure : Skips 0 fun s => (.ok s : Except ε Bytes) := by
  rintro s a rest ⟨⟩
  exact ⟨[], rfl, le_rfl, fun t hal => ⟨hal, rfl⟩⟩

section

variable {near : Bytes → Bytes → Prop} {least : Nat} {place : β → Bytes → δ}

theorem Reads.bind {read : Bytes → Except ε (α × Bytes)} (h : Reads least read)
    {k : α × Bytes → Except ε δ} (hk : ∀ a, Local near 0 place fun s => k (a, s)) :
    Local near least place fun s => read s >>= k :=
  Local.bind h (fun c => ⟨c.1, c.2, rfl⟩) hk

theorem Skips.bind {read : Bytes → Except ε Bytes} (h : Skips least read)
    {k : Bytes → Except ε δ} (hk : Local near 0 place k) :
    Local near least place fun s => read s >>= k :=
  Local.bind h (fun c => ⟨(), c, rfl⟩) fun _ => hk

theorem Local.map {read : Bytes → Except ε Bytes}
    (h : Local near least (fun (_ : Unit) rest => rest) read) (a : α) :
    Local near least Prod.mk fun s => (read s).map (a, ·) := by
  intro s b rest hs
  obtain ⟨_, hread, hpair⟩ := map_eq_ok.1 hs
  cases hpair
  obtain ⟨text, hsplit, hlen, ht⟩ := h (a := ()) hread
  exact ⟨text, hsplit, hlen, fun t hn => ⟨(ht t hn).1, map_eq_ok.2 ⟨t, (ht t hn).2, rfl⟩⟩⟩

end

end NullFlow.Json
