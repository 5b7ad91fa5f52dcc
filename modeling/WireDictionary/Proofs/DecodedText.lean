import WireDictionary.Source

/-! # Decoding, characters and line feeds

Decoding gives every encoded text back (`decode_toUTF8`). Whatever the bytes are,
a line feed among the decoded characters comes from a line feed among the bytes:
no other byte decodes to one, and no open character swallows one. So it does not
matter whether a file is cut into lines before it is decoded or after
(`pieces_decode`).
-/
namespace WireDictionary.Text.Utf8

/-! ## Encoded text -/

theorem start_two : ∀ x < 32, 2 ≤ x →
    start (UInt8.ofNat (x + 192)) = ([], some ⟨x, 0x80, 0xBF, 0⟩) := by decide

theorem start_three : ∀ x < 16, start (UInt8.ofNat (x + 224)) =
    ([], some ⟨x, if x = 0 then 0xA0 else 0x80, if x = 0xD then 0x9F else 0xBF, 1⟩) := by decide

theorem start_four : ∀ x < 5, start (UInt8.ofNat (x + 240)) =
    ([], some ⟨x, if x = 0 then 0x90 else 0x80, if x = 4 then 0x8F else 0xBF, 2⟩) := by decide

/-- A continuation byte adds six bits. -/
theorem step_tail {bits least greatest more x : Nat} (hx : x < 64) (hl : least ≤ x + 128)
    (hg : x + 128 ≤ greatest) :
    step (some ⟨bits, least, greatest, more⟩) (UInt8.ofNat (x + 128)) =
      match more with
      | 0 => ([Char.ofNat (bits * 64 + x)], none)
      | more + 1 => ([], some ⟨bits * 64 + x, 0x80, 0xBF, more⟩) := by
  have hb : (UInt8.ofNat (x + 128)).toNat = x + 128 := by
    rw [UInt8.toNat_ofNat']
    omega
  have hbits : x + 128 - 0x80 = x := by omega
  cases more with
  | zero => simp only [step, hb, hl, hg, hbits, and_self, if_true]
  | succ more => simp only [step, hb, hl, hg, hbits, and_self, if_true]

theorem decodeFrom_of_step {state next : Option Begun} {b : UInt8} {out : List Char}
    (h : step state b = (out, next)) (rest : List UInt8) :
    decodeFrom state (b :: rest) = out ++ decodeFrom next rest := by
  rw [decodeFrom, h]

/-- The bytes of a character, whatever follows them, decode to the character. -/
theorem decodeFrom_encodeChar (c : Char) (rest : List UInt8) :
    decodeFrom none (String.utf8EncodeChar c ++ rest) = c :: decodeFrom none rest := by
  have hc : Char.ofNat c.val.toNat = c := Char.ofNat_toNat c
  have hvalid : c.val.toNat < 0xD800 ∨ 0xDFFF < c.val.toNat ∧ c.val.toNat < 0x110000 := c.valid
  rw [String.utf8EncodeChar.eq_1]
  generalize c.val.toNat = v at hc hvalid
  have hlast : v % 64 < 64 := Nat.mod_lt v (by decide)
  have hsecond : v / 64 % 64 < 64 := Nat.mod_lt _ (by decide)
  have hthird : v / 4096 % 64 < 64 := Nat.mod_lt _ (by decide)
  split
  · have hb : (UInt8.ofNat v).toNat = v := by
      rw [UInt8.toNat_ofNat']
      omega
    have hstart : step none (UInt8.ofNat v) = ([c], none) := by
      rw [step, start, hb, if_pos (by omega), hc]
    exact decodeFrom_of_step hstart rest
  · split
    · have hstart : step none _ = _ := start_two (v / 64 % 32) (by omega) (by omega)
      have hbits : v / 64 % 32 * 64 + v % 64 = v := by omega
      rw [List.cons_append, decodeFrom_of_step hstart, List.cons_append,
        decodeFrom_of_step (step_tail hlast (by omega) (by omega)), hbits, hc]
      rfl
    · split
      · have hstart : step none _ = _ := start_three (v / 4096 % 16) (by omega)
        have hbits : (v / 4096 % 16 * 64 + v / 64 % 64) * 64 + v % 64 = v := by omega
        rw [List.cons_append, decodeFrom_of_step hstart, List.cons_append,
          decodeFrom_of_step (step_tail hsecond (by split <;> omega) (by split <;> omega)),
          List.cons_append, decodeFrom_of_step (step_tail hlast (by omega) (by omega)), hbits, hc]
        rfl
      · have hstart : step none _ = _ := start_four (v / 262144 % 8) (by omega)
        have hbits :
            ((v / 262144 % 8 * 64 + v / 4096 % 64) * 64 + v / 64 % 64) * 64 + v % 64 = v := by
          omega
        rw [List.cons_append, decodeFrom_of_step hstart, List.cons_append,
          decodeFrom_of_step (step_tail hthird (by split <;> omega) (by split <;> omega)),
          List.cons_append, decodeFrom_of_step (step_tail hsecond (by omega) (by omega)),
          List.cons_append, decodeFrom_of_step (step_tail hlast (by omega) (by omega)), hbits, hc]
        rfl

theorem decode_flatMap_encodeChar (cs : List Char) :
    decode (cs.flatMap String.utf8EncodeChar) = cs := by
  induction cs with
  | nil => rfl
  | cons c cs ih => rw [List.flatMap_cons, decode, decodeFrom_encodeChar, ← decode, ih]

theorem toList_toUTF8 (text : String) :
    text.toUTF8.data.toList = text.toList.flatMap String.utf8EncodeChar := by
  have hbytes : text.toUTF8 = (text.toList.flatMap String.utf8EncodeChar).toByteArray := by
    rw [String.toUTF8_eq_toByteArray]
    conv => lhs; rw [← String.ofList_toList (s := text)]
    rfl
  rw [hbytes, List.toList_data_toByteArray]

/-- Decoding the bytes of a text gives the text. -/
theorem decode_toUTF8 (text : String) : decode text.toUTF8.data.toList = text.toList := by
  rw [toList_toUTF8, decode_flatMap_encodeChar]

/-! ## Line feeds -/

/-- However a character goes on that was begun, it does not turn out to be a line feed. -/
def Begun.IsNoFeed (s : Begun) : Prop := 10 < s.bits * 64 + (s.least - 0x80)

/-- Only its own number makes a line feed; a number of no character makes the character zero. -/
theorem eq_feed_of_ofNat {n : Nat} (h : Char.ofNat n = '\n') : n = 10 := by
  by_cases hvalid : n.isValidChar
  · rw [Char.ofNat, dif_pos hvalid] at h
    exact congrArg Char.toNat h
  · rw [Char.ofNat, dif_neg hvalid] at h
    exact absurd h (by decide)

theorem start_noFeed {b : UInt8} (hb : b ≠ Source.lineFeed) :
    '\n' ∉ (start b).1 ∧ ∀ s, (start b).2 = some s → s.IsNoFeed := by
  have hascii : Char.ofNat b.toNat ≠ '\n' := fun h => hb (UInt8.toNat_inj.mp (eq_feed_of_ofNat h))
  simp only [start]
  split
  · exact ⟨by simpa using hascii.symm, by simp⟩
  · repeat' split
    all_goals refine ⟨by simp [replacement], ?_⟩
    all_goals
      intro s hs
      simp only [Option.some.injEq, reduceCtorEq] at hs
    all_goals
      subst hs
      simp only [Begun.IsNoFeed]
      omega

theorem step_noFeed {state : Option Begun} {b : UInt8} (hs : ∀ s, state = some s → s.IsNoFeed)
    (hb : b ≠ Source.lineFeed) :
    '\n' ∉ (step state b).1 ∧ ∀ s, (step state b).2 = some s → s.IsNoFeed := by
  cases state with
  | none => exact start_noFeed hb
  | some s =>
    have hnf : 10 < s.bits * 64 + (s.least - 0x80) := hs s rfl
    simp only [step]
    split
    · rename_i hin
      have hbits : 10 < s.bits * 64 + (b.toNat - 0x80) := by omega
      split
      · refine ⟨?_, by simp⟩
        rw [List.mem_singleton]
        intro he
        have := eq_feed_of_ofNat he.symm
        omega
      · refine ⟨by simp, ?_⟩
        intro t ht
        rw [← Option.some.inj ht]
        simp only [Begun.IsNoFeed]
        omega
    · obtain ⟨hout, hnext⟩ := start_noFeed hb
      refine ⟨?_, hnext⟩
      rw [List.mem_cons, not_or]
      exact ⟨by decide, hout⟩

/-- Bytes without a line feed decode to characters without one. -/
theorem feed_not_mem_decodeFrom {state : Option Begun} {bytes : List UInt8}
    (hs : ∀ s, state = some s → s.IsNoFeed) (hb : Source.lineFeed ∉ bytes) :
    '\n' ∉ decodeFrom state bytes := by
  induction bytes generalizing state with
  | nil =>
    rw [decodeFrom]
    split <;> simp [replacement]
  | cons b rest ih =>
    rw [List.mem_cons, not_or] at hb
    obtain ⟨hout, hnext⟩ := step_noFeed hs (Ne.symm hb.1)
    rw [decodeFrom, List.mem_append, not_or]
    exact ⟨hout, ih hnext hb.2⟩

/-- Each byte decodes to something or leaves a character open. -/
theorem step_ne_nil (state : Option Begun) (b : UInt8) (h : (step state b).1 = []) :
    (step state b).2.isSome = true := by
  have hstart : (start b).1 = [] → (start b).2.isSome = true := by
    simp only [start]
    repeat' split
    all_goals simp
  cases state with
  | none => exact hstart h
  | some s =>
    simp only [step] at h ⊢
    split at h
    · rename_i hin
      rw [if_pos hin]
      split at h
      · simp at h
      · rfl
    · simp at h

/-- Only no bytes decode to no characters. -/
theorem decodeFrom_eq_nil_iff {state : Option Begun} {bytes : List UInt8} :
    decodeFrom state bytes = [] ↔ state = none ∧ bytes = [] := by
  induction bytes generalizing state with
  | nil => cases state <;> simp [decodeFrom]
  | cons b rest ih =>
    simp only [decodeFrom, List.append_eq_nil_iff, ih, reduceCtorEq, and_false, iff_false, not_and]
    intro hout hnext
    have := step_ne_nil state b hout
    rw [hnext] at this
    cases this

/-- An ASCII byte behind others is decoded on its own. -/
theorem decodeFrom_concat_ascii {b : UInt8} (hb : b.toNat < 0x80) {state : Option Begun}
    (hs : ∀ s, state = some s → s.IsHigh) (bytes : List UInt8) :
    decodeFrom state (bytes ++ [b]) = decodeFrom state bytes ++ [Char.ofNat b.toNat] := by
  induction bytes generalizing state with
  | nil =>
    rw [List.nil_append, decodeFrom_of_step (step_ascii hb hs)]
    simp [decodeFrom]
  | cons a rest ih =>
    simp only [List.cons_append, decodeFrom]
    rw [ih fun _ h => step_isHigh h, List.append_assoc]

theorem feed_not_mem_decode {bytes : List UInt8} (h : Source.lineFeed ∉ bytes) :
    '\n' ∉ decode bytes :=
  feed_not_mem_decodeFrom (fun _ hs => by cases hs) h

theorem decode_concat_feed (bytes : List UInt8) :
    decode (bytes ++ [Source.lineFeed]) = decode bytes ++ ['\n'] :=
  decodeFrom_concat_ascii (by decide) (fun _ hs => by cases hs) bytes

/-- **Cutting into lines and decoding may be done in either order.** -/
theorem pieces_decode (bytes : List UInt8) :
    pieces '\n' (decode bytes) = (pieces Source.lineFeed bytes).map decode := by
  induction hn : bytes.length using Nat.strongRecOn generalizing bytes with
  | ind n ih =>
    by_cases hfeed : Source.lineFeed ∈ bytes
    · obtain ⟨body, rest, rfl, hbody⟩ := List.eq_append_cons_of_mem hfeed
      have hdecode : decode (body ++ Source.lineFeed :: rest) =
          decode body ++ '\n' :: decode rest := by
        rw [decode_append_of_ascii (by decide), decode_concat_feed, List.append_assoc]
        rfl
      have hrest : rest.length < n := by
        rw [← hn, List.length_append, List.length_cons]
        omega
      rw [hdecode, pieces_append_feed (feed_not_mem_decode hbody), pieces_append_feed hbody,
        List.map_cons, ih _ hrest rest rfl, decode_concat_feed]
    · have hempty : (decode bytes).isEmpty = bytes.isEmpty := by
        rw [Bool.eq_iff_iff, List.isEmpty_iff, List.isEmpty_iff, decode, decodeFrom_eq_nil_iff]
        exact and_iff_right rfl
      rw [pieces_of_not_mem (feed_not_mem_decode hfeed), pieces_of_not_mem hfeed, hempty]
      split <;> rfl

end WireDictionary.Text.Utf8
