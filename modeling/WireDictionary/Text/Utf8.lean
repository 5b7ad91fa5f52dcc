/-! Decoding bytes as UTF-8 when they need not be valid. A byte sequence that starts a character but
does not finish it is replaced, as a whole, by one replacement character; so is each byte that can
start nothing. The decoder is an automaton over single bytes, so that a text can be decoded in
parts. -/

namespace WireDictionary.Text.Utf8

/-- A character begun but not finished: the bits read so far, the range that the next byte must lie
in, and the number of continuation bytes that follow that byte. -/
structure Begun where
  bits : Nat
  least : Nat
  greatest : Nat
  more : Nat
  deriving DecidableEq, Repr

/-- The character that stands for bytes that are not UTF-8. -/
def replacement : Char := '\uFFFD'

/-- What a byte does between characters: what it decodes to at once, and what it begins. -/
def start (b : UInt8) : List Char × Option Begun :=
  let n := b.toNat
  if n < 0x80 then ([Char.ofNat n], none)
  else if 0xC2 ≤ n ∧ n ≤ 0xDF then ([], some ⟨n - 0xC0, 0x80, 0xBF, 0⟩)
  else if n = 0xE0 then ([], some ⟨0, 0xA0, 0xBF, 1⟩)
  else if n = 0xED then ([], some ⟨0xD, 0x80, 0x9F, 1⟩)
  else if 0xE1 ≤ n ∧ n ≤ 0xEF then ([], some ⟨n - 0xE0, 0x80, 0xBF, 1⟩)
  else if n = 0xF0 then ([], some ⟨0, 0x90, 0xBF, 2⟩)
  else if 0xF1 ≤ n ∧ n ≤ 0xF3 then ([], some ⟨n - 0xF0, 0x80, 0xBF, 2⟩)
  else if n = 0xF4 then ([], some ⟨4, 0x80, 0x8F, 2⟩)
  else ([replacement], none)

/-- One byte: the characters that are now decided, and the character that is still open. A byte that
cannot continue the open character ends it, undecodable, and is read again as a first byte. -/
def step (state : Option Begun) (b : UInt8) : List Char × Option Begun :=
  match state with
  | none => start b
  | some s =>
    if s.least ≤ b.toNat ∧ b.toNat ≤ s.greatest then
      let bits := s.bits * 64 + (b.toNat - 0x80)
      match s.more with
      | 0 => ([Char.ofNat bits], none)
      | more + 1 => ([], some ⟨bits, 0x80, 0xBF, more⟩)
    else
      let (out, next) := start b
      (replacement :: out, next)

/-- The characters of the bytes that follow a given state; an open character at the end is
undecodable. -/
def decodeFrom (state : Option Begun) : List UInt8 → List Char
  | [] => if state.isSome then [replacement] else []
  | b :: rest =>
    let (out, next) := step state b
    out ++ decodeFrom next rest

def decode (bytes : List UInt8) : List Char := decodeFrom none bytes

def stateAfter (state : Option Begun) : List UInt8 → Option Begun
  | [] => state
  | b :: rest => stateAfter (step state b).2 rest

/-- Where no character is open, a byte sequence can be decoded in two parts. -/
theorem decodeFrom_append {state : Option Begun} {xs : List UInt8} (ys : List UInt8)
    (h : stateAfter state xs = none) :
    decodeFrom state (xs ++ ys) = decodeFrom state xs ++ decodeFrom none ys := by
  induction xs generalizing state with
  | nil =>
    simp only [stateAfter] at h
    simp [h, decodeFrom]
  | cons b rest ih =>
    simp only [stateAfter] at h
    simp only [List.cons_append, decodeFrom, List.append_assoc]
    rw [ih h]

theorem stateAfter_append (state : Option Begun) (xs ys : List UInt8) :
    stateAfter state (xs ++ ys) = stateAfter (stateAfter state xs) ys := by
  induction xs generalizing state with
  | nil => rfl
  | cons b rest ih => exact ih _

/-- No state can be left open but by a byte from 0x80 on, so that a lower byte is always read as the
character it is. -/
def Begun.IsHigh (s : Begun) : Prop := 0x80 ≤ s.least

theorem start_isHigh {b : UInt8} {s : Begun} (h : (start b).2 = some s) : s.IsHigh := by
  simp only [start] at h
  repeat' split at h
  all_goals simp only [Option.some.injEq, reduceCtorEq] at h
  all_goals
    subst h
    simp [Begun.IsHigh]

theorem step_isHigh {state : Option Begun} {b : UInt8} {s : Begun}
    (h : (step state b).2 = some s) : s.IsHigh := by
  cases state with
  | none => exact start_isHigh h
  | some t =>
    simp only [step] at h
    split at h
    · split at h
      · simp at h
      · simp only [Option.some.injEq] at h
        subst h
        simp [Begun.IsHigh]
    · exact start_isHigh h

/-- An ASCII byte closes whatever is open. -/
theorem step_ascii {state : Option Begun} {b : UInt8} (hb : b.toNat < 0x80)
    (hs : ∀ s, state = some s → s.IsHigh) :
    step state b =
      ((if state.isSome then [replacement] else []) ++ [Char.ofNat b.toNat], none) := by
  have hstart : start b = ([Char.ofNat b.toNat], none) := by simp [start, hb]
  cases state with
  | none => simp [step, hstart]
  | some s =>
    have := hs s rfl
    unfold Begun.IsHigh at this
    have hn : ¬(s.least ≤ b.toNat ∧ b.toNat ≤ s.greatest) := by omega
    simp [step, hn, hstart]

theorem stateAfter_isHigh {state : Option Begun} {bytes : List UInt8}
    (hs : ∀ s, state = some s → s.IsHigh) : ∀ s, stateAfter state bytes = some s → s.IsHigh := by
  induction bytes generalizing state with
  | nil => exact hs
  | cons b rest ih => exact ih fun _ h => step_isHigh h

/-- A text can be decoded in two parts behind any ASCII byte. -/
theorem decode_append_of_ascii {b : UInt8} (hb : b.toNat < 0x80) (xs ys : List UInt8) :
    decode (xs ++ b :: ys) = decode (xs ++ [b]) ++ decode ys := by
  have hclosed : stateAfter none (xs ++ [b]) = none := by
    rw [stateAfter_append]
    change (step (stateAfter none xs) b).2 = none
    rw [step_ascii hb (stateAfter_isHigh fun _ h => by cases h)]
  have := decodeFrom_append ys hclosed
  rwa [List.append_assoc] at this

end WireDictionary.Text.Utf8
