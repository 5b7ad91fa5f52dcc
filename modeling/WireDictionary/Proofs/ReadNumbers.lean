import WireDictionary.Proofs.WrittenNumbers
import Mathlib.Data.Int.ModEq
import Mathlib.Data.Nat.Digits.Lemmas

/-! # Which texts are numbers, and which numbers they are

The grammar of numbers is said here without reading them: a text has a sign or none
(`HasSign`), what follows announces a base or does not (`HasBase`), and digits have
the value that their places give them (`IsNumeral`). Literals are the texts of this
grammar whose magnitude fits in 64 bits, taken modulo `2 ^ 64`
(`literal_taken_modulo`); decimal numbers are those that need no more than 64 bits
with their sign (`decimal?_eq_some_iff`). Where no base is announced the two ways
of reading differ on what lies between these bounds, and on nothing else
(`plain_read_alike_iff`).
-/
namespace WireDictionary.Numeral

/-! ## Digits -/

/-- A digit of a base, in either case, and its value. -/
def IsDigit (base : Nat) (c : Char) (d : Nat) : Prop :=
  d < base ∧ (c = Nat.digitChar d ∨ c = (Nat.digitChar d).toUpper)

theorem toNat_le_toNat {c d : Char} (h : c ≤ d) : c.toNat ≤ d.toNat :=
  UInt32.le_iff_toNat_le.mp (Char.le_def.mp h)

/-- A character that comes so many places behind another. -/
theorem eq_ofNat_of_le {a c : Char} {k : Nat} (h : a ≤ c) (hk : c.toNat - a.toNat = k) :
    c = Char.ofNat (a.toNat + k) := by
  rw [← hk, Nat.add_sub_cancel' (toNat_le_toNat h), Char.ofNat_toNat]

theorem isDigit_of_digit? {base : Nat} (hbase : base ≤ 16) {c : Char} {d : Nat}
    (h : digit? base c = some d) : IsDigit base c d := by
  obtain ⟨hlt, hd⟩ := Option.ite_none_right_eq_some.mp h
  have hvalue := Option.some.inj hd
  rw [hvalue] at hlt
  refine ⟨hlt, ?_⟩
  split at hvalue
  · rename_i hc
    have hdigit : ∀ d < 10, Char.ofNat ('0'.toNat + d) = Nat.digitChar d := by decide
    have hnine : c.toNat ≤ 57 := toNat_le_toNat hc.2
    have hzero : '0'.toNat = 48 := rfl
    exact .inl ((eq_ofNat_of_le hc.1 hvalue).trans (hdigit d (by omega)))
  · split at hvalue
    · rename_i hc
      have hdigit : ∀ k < 6, Char.ofNat ('a'.toNat + k) = Nat.digitChar (k + 10) := by decide
      obtain ⟨k, rfl⟩ := Nat.exists_eq_add_of_le' (hvalue ▸ Nat.le_add_left 10 _)
      exact .inl ((eq_ofNat_of_le hc.1 (Nat.add_right_cancel hvalue)).trans
        (hdigit k (by omega)))
    · split at hvalue
      · rename_i hc
        have hdigit : ∀ k < 6, Char.ofNat ('A'.toNat + k) = (Nat.digitChar (k + 10)).toUpper := by
          decide
        obtain ⟨k, rfl⟩ := Nat.exists_eq_add_of_le' (hvalue ▸ Nat.le_add_left 10 _)
        exact .inr ((eq_ofNat_of_le hc.1 (Nat.add_right_cancel hvalue)).trans
          (hdigit k (by omega)))
      · omega

theorem digit?_toUpper_digitChar :
    ∀ base ≤ 16, ∀ d < base, digit? base (Nat.digitChar d).toUpper = some d := by
  decide

theorem digit?_eq_some_iff {base : Nat} (hbase : base ≤ 16) {c : Char} {d : Nat} :
    digit? base c = some d ↔ IsDigit base c d := by
  refine ⟨isDigit_of_digit? hbase, ?_⟩
  rintro ⟨hd, rfl | rfl⟩
  · exact digit?_digitChar base hbase d hd
  · exact digit?_toUpper_digitChar base hbase d hd

/-! ## Magnitudes -/

/-- The digits of a number in a base, most significant first, and the number. -/
def IsNumeral (base : Nat) (digits : List Char) (m : Nat) : Prop :=
  digits ≠ [] ∧ ∃ ds, List.Forall₂ (IsDigit base) digits ds ∧ m = Nat.ofDigits base ds.reverse

/-- Digits that follow a number move it up by their count of places. -/
theorem valueFrom?_eq_some_iff {base : Nat} (hbase : base ≤ 16) {digits : List Char}
    {high m : Nat} : valueFrom? base high digits = some m ↔
      ∃ ds, List.Forall₂ (IsDigit base) digits ds ∧
        m = high * base ^ ds.length + Nat.ofDigits base ds.reverse := by
  induction digits generalizing high with
  | nil => simp [valueFrom?, eq_comm]
  | cons c rest ih =>
    have hvalue : ∀ d (ds : List Nat),
        (high * base + d) * base ^ ds.length + Nat.ofDigits base ds.reverse =
          high * base ^ (d :: ds).length + Nat.ofDigits base (d :: ds).reverse := by
      intro d ds
      rw [List.reverse_cons, Nat.ofDigits_append, Nat.ofDigits_singleton, List.length_reverse,
        List.length_cons]
      ring
    simp only [valueFrom?, Option.bind_eq_some_iff, digit?_eq_some_iff hbase, ih, hvalue]
    constructor
    · rintro ⟨d, hd, ds, hds, hm⟩
      exact ⟨d :: ds, .cons hd hds, hm⟩
    · rintro ⟨_, _ | ⟨hd, hds⟩, hm⟩
      exact ⟨_, hd, _, hds, hm⟩

theorem magnitude?_eq_some_iff {base : Nat} (hbase : base ≤ 16) {digits : List Char} {m : Nat} :
    magnitude? base digits = some m ↔ IsNumeral base digits m := by
  rw [magnitude?, IsNumeral, ← List.isEmpty_eq_false_iff]
  cases digits.isEmpty with
  | true => simp
  | false => simp [valueFrom?_eq_some_iff hbase]

/-- Digits have at most one value. -/
theorem IsNumeral.unique {base : Nat} (hbase : base ≤ 16) {digits : List Char} {m n : Nat}
    (hm : IsNumeral base digits m) (hn : IsNumeral base digits n) : m = n := by
  rw [← magnitude?_eq_some_iff hbase] at hm hn
  exact Option.some.inj (hm.symm.trans hn)

/-! ## Signs and bases -/

/-- A text, whether it has a minus sign, and what follows its sign. -/
inductive HasSign : List Char → Bool → List Char → Prop
  | minus (body : List Char) : HasSign ('-' :: body) true body
  | plus (body : List Char) : HasSign ('+' :: body) false body
  | none {text : List Char} (h : text.head? ≠ some '-' ∧ text.head? ≠ some '+') :
    HasSign text false text

/-- An unsigned text, the base that it announces, and what follows the announcement. -/
inductive HasBase : List Char → Nat → List Char → Prop
  | hexadecimal {c : Char} (h : c = 'x' ∨ c = 'X') (digits : List Char) :
    HasBase ('0' :: c :: digits) 16 digits
  | octal {c : Char} (h : c = 'o' ∨ c = 'O') (digits : List Char) :
    HasBase ('0' :: c :: digits) 8 digits
  | binary {c : Char} (h : c = 'b' ∨ c = 'B') (digits : List Char) :
    HasBase ('0' :: c :: digits) 2 digits
  /-- A zero that anything else follows. -/
  | zero {c : Char} (h : c ∉ ['x', 'X', 'o', 'O', 'b', 'B']) (rest : List Char) :
    HasBase ('0' :: c :: rest) 8 (c :: rest)
  | decimal {digits : List Char} (h : ∀ c rest, digits ≠ '0' :: c :: rest) :
    HasBase digits 10 digits

theorem hasSign_iff {text body : List Char} {isNegative : Bool} :
    HasSign text isNegative body ↔ splitSign text = (isNegative, body) := by
  constructor
  · rintro (_ | _ | h)
    · rfl
    · rfl
    · unfold splitSign
      split
      · exact absurd rfl h.1
      · exact absurd rfl h.2
      · rfl
  · unfold splitSign
    split
    · rintro ⟨⟩
      exact .minus _
    · rintro ⟨⟩
      exact .plus _
    · rename_i hminus hplus
      rintro ⟨⟩
      refine .none ⟨fun h => ?_, fun h => ?_⟩
      · obtain ⟨rest, rfl⟩ := List.head?_eq_some_iff.mp h
        exact hminus rest rfl
      · obtain ⟨rest, rfl⟩ := List.head?_eq_some_iff.mp h
        exact hplus rest rfl

theorem hasBase_iff {body digits : List Char} {base : Nat} :
    HasBase body base digits ↔ splitBase body = (base, digits) := by
  constructor
  · rintro (⟨rfl | rfl, _⟩ | ⟨rfl | rfl, _⟩ | ⟨rfl | rfl, _⟩ | ⟨h, rest⟩ | h)
    · rfl
    · rfl
    · rfl
    · rfl
    · rfl
    · rfl
    · simp only [List.mem_cons, List.not_mem_nil, or_false, not_or] at h
      simp [splitBase, h]
    · unfold splitBase
      split
      · exact absurd rfl (h _ _)
      · rfl
  · unfold splitBase
    split
    · rename_i c rest
      split
      · rename_i h
        rintro ⟨⟩
        exact .hexadecimal h _
      · split
        · rename_i h
          rintro ⟨⟩
          exact .octal h _
        · split
          · rename_i h
            rintro ⟨⟩
            exact .binary h _
          · rintro ⟨⟩
            refine .zero ?_ _
            simp_all
    · rename_i h
      rintro ⟨⟩
      exact .decimal h

theorem HasBase.le {body digits : List Char} {base : Nat} (h : HasBase body base digits) :
    base ≤ 16 := by
  cases h <;> decide

/-- The parts of a literal. -/
structure Parts where
  isNegative : Bool
  base : Nat
  digits : List Char

/-- A text has these parts between the blanks around it. -/
def Parts.AreOf (p : Parts) (text : List Char) : Prop :=
  ∃ body, HasSign (Text.trim text) p.isNegative body ∧ HasBase body p.base p.digits

/-- Every text has parts, and no two of them. -/
theorem exists_parts (text : List Char) : ∃ p : Parts, ∀ q : Parts, q.AreOf text ↔ q = p := by
  let cut := splitSign (Text.trim text)
  refine ⟨⟨cut.1, (splitBase cut.2).1, (splitBase cut.2).2⟩, fun q => ?_⟩
  constructor
  · rintro ⟨body, hsign, hbase⟩
    rw [hasSign_iff] at hsign
    rw [hasBase_iff] at hbase
    simp only [cut, hsign, hbase]
  · rintro rfl
    exact ⟨_, hasSign_iff.mpr rfl, hasBase_iff.mpr rfl⟩

/-! ## Reading a number -/

/-- A number that is cut down to 64 bits is the one in their range that agrees with it. -/
theorem toInt_ofInt_eq_iff {n z : Int} : (Int64.ofInt n).toInt = z ↔
    -2 ^ 63 ≤ z ∧ z < 2 ^ 63 ∧ z ≡ n [ZMOD 2 ^ 64] := by
  rw [Int64.toInt_ofInt, Int.ModEq, Int.bmod_def]
  simp only [Int64.size]
  split <;> omega

variable {text body : List Char} {isNegative : Bool}

/-- A literal has a magnitude of at most 64 bits. -/
theorem Parts.AreOf.literal?_eq_some_iff {p : Parts} (h : p.AreOf text) {v : Int64} :
    literal? text = some v ↔
      ∃ m < 2 ^ 64, IsNumeral p.base p.digits m ∧ Int64.ofInt (signed p.isNegative m) = v := by
  obtain ⟨body, hsign, hbase⟩ := h
  have hle := hbase.le
  rw [hasSign_iff] at hsign
  rw [hasBase_iff] at hbase
  simp only [literal?, hsign, hbase, Option.bind_eq_some_iff, Option.ite_none_right_eq_some,
    Option.some.injEq, magnitude?_eq_some_iff hle]
  constructor
  · rintro ⟨m, hm, hlt, hv⟩
    exact ⟨m, hlt, hm, hv⟩
  · rintro ⟨m, hlt, hm, hv⟩
    exact ⟨m, hm, hlt, hv⟩

/-- A decimal number is in the range of 64-bit integers. -/
theorem decimal?_eq_some_iff (h : HasSign (Text.trim text) isNegative body) {v : Int64} :
    decimal? text = some v ↔ ∃ m, IsNumeral 10 body m ∧ signed isNegative m = v.toInt := by
  have hten : 10 ≤ 16 := by decide
  rw [hasSign_iff] at h
  simp only [decimal?, h, Option.bind_eq_some_iff, Option.ite_none_right_eq_some,
    Option.some.injEq, magnitude?_eq_some_iff hten]
  constructor
  · rintro ⟨m, hm, ⟨hmin, hmax⟩, rfl⟩
    exact ⟨m, hm, (Int64.toInt_ofInt_of_le hmin (Int.lt_add_one_of_le hmax)).symm⟩
  · rintro ⟨m, hm, hv⟩
    refine ⟨m, hm, ?_, ?_⟩
    · rw [hv]
      exact ⟨v.minValue_le_toInt, v.toInt_le⟩
    · rw [hv, Int64.ofInt_toInt]

/-- **A literal is read modulo `2 ^ 64`, and nothing else is read.** Every text has a sign, a base
and digits in one way. It is a literal exactly if the digits are those of a number in that base, of
any length, and the number is below `2 ^ 64`; its value is then the only integer of 64 bits that
agrees modulo `2 ^ 64` with the number, or with its negative behind a minus sign. -/
theorem literal_taken_modulo (text : List Char) : ∃ p : Parts, (∀ q : Parts, q.AreOf text ↔ q = p) ∧
    ((literal? text).isSome = true ↔ ∃ m < 2 ^ 64, IsNumeral p.base p.digits m) ∧
    ∀ m < 2 ^ 64, IsNumeral p.base p.digits m → ∀ z : Int,
      (literal? text).map Int64.toInt = some z ↔
        -2 ^ 63 ≤ z ∧ z < 2 ^ 63 ∧ z ≡ (if p.isNegative then -m else m) [ZMOD 2 ^ 64] := by
  obtain ⟨p, hp⟩ := exists_parts text
  have hparts : p.AreOf text := (hp p).mpr rfl
  refine ⟨p, hp, ?_, fun m hlt hm z => ?_⟩
  · rw [Option.isSome_iff_exists]
    constructor
    · rintro ⟨v, hv⟩
      obtain ⟨m, hlt, hm, -⟩ := hparts.literal?_eq_some_iff.mp hv
      exact ⟨m, hlt, hm⟩
    · rintro ⟨m, hlt, hm⟩
      exact ⟨_, hparts.literal?_eq_some_iff.mpr ⟨m, hlt, hm, rfl⟩⟩
  · rw [hparts.literal?_eq_some_iff.mpr ⟨m, hlt, hm, rfl⟩, Option.map_some, Option.some.injEq]
    exact toInt_ofInt_eq_iff

-- the greatest magnitude, and one of more than 64 bits with zeros before it
example : literal? "-0xFFFFFFFFFFFFFFFF".toList = some 1 ∧
    literal? "0o0002000000000000000000000".toList = none := by decide +kernel

/-! ## Where no base is announced -/

/-- Behind its sign, the text does not start with a zero that anything follows. -/
def IsPlain (text : List Char) : Prop :=
  ∀ isNegative body, HasSign (Text.trim text) isNegative body → ∀ c rest, body ≠ '0' :: c :: rest

/-- A decimal number of 64 bits that has no place for its sign. -/
def Overruns (text : List Char) : Prop :=
  ∃ isNegative body m, HasSign (Text.trim text) isNegative body ∧ IsNumeral 10 body m ∧ m < 2 ^ 64 ∧
    ¬ (-2 ^ 63 ≤ signed isNegative m ∧ signed isNegative m < 2 ^ 63)

theorem isPlain_of_head? (h : (splitSign (Text.trim text)).2.head? ≠ some '0') : IsPlain text := by
  intro isNegative body hsign c rest hbody
  rw [hasSign_iff.mp hsign, hbody] at h
  exact h rfl

theorem IsPlain.areOf (h : IsPlain text) (hsign : HasSign (Text.trim text) isNegative body) :
    Parts.AreOf ⟨isNegative, 10, body⟩ text :=
  ⟨body, hsign, .decimal (h isNegative body hsign)⟩

/-- A number of a plain text keeps its value if the value is in range. -/
theorem IsPlain.literal?_of_decimal? (h : IsPlain text) {v : Int64} (hv : decimal? text = some v) :
    literal? text = some v := by
  obtain ⟨p, hp⟩ := exists_parts text
  obtain ⟨body, hsign, -⟩ := (hp p).mpr rfl
  obtain ⟨m, hm, hvalue⟩ := (decimal?_eq_some_iff hsign).mp hv
  refine (h.areOf hsign).literal?_eq_some_iff.mpr ⟨m, ?_, hm, ?_⟩
  · have hmagnitude : m = v.toInt.natAbs := by
      rw [← hvalue, signed]
      split <;> omega
    rw [hmagnitude]
    exact natAbs_lt_size v
  · rw [hvalue, Int64.ofInt_toInt]

/-- A literal of a plain text is not the decimal number only where that overruns. -/
theorem IsPlain.overruns_iff (h : IsPlain text) :
    Overruns text ↔ decimal? text = none ∧ (literal? text).isSome = true := by
  constructor
  · rintro ⟨isNegative, body, m, hsign, hm, hlt, hrange⟩
    constructor
    · refine Option.eq_none_iff_forall_not_mem.mpr fun v hv => hrange ?_
      obtain ⟨n, hn, hvalue⟩ := (decimal?_eq_some_iff hsign).mp hv
      rw [hm.unique (by decide) hn, hvalue]
      exact ⟨v.le_toInt, v.toInt_lt⟩
    · rw [(h.areOf hsign).literal?_eq_some_iff.mpr ⟨m, hlt, hm, rfl⟩]
      rfl
  · rintro ⟨hnone, hsome⟩
    obtain ⟨v, hv⟩ := Option.isSome_iff_exists.mp hsome
    obtain ⟨p, hp⟩ := exists_parts text
    obtain ⟨body, hsign, -⟩ := (hp p).mpr rfl
    obtain ⟨m, hlt, hm, -⟩ := (h.areOf hsign).literal?_eq_some_iff.mp hv
    refine ⟨_, body, m, hsign, hm, hlt, fun hrange => ?_⟩
    have hread : decimal? text = some (Int64.ofInt (signed p.isNegative m)) := by
      refine (decimal?_eq_some_iff hsign).mpr ⟨m, hm, ?_⟩
      exact (toInt_ofInt_eq_iff.mpr ⟨hrange.1, hrange.2, rfl⟩).symm
    rw [hread] at hnone
    cases hnone

/-- **A plain text is read alike with and without bases, unless it overruns.** A plain text that is
no number, whose number is in the range of 64-bit integers, or whose magnitude needs more than 64
bits reads the same whether it might announce a base or not. Any other has no decimal value, but is
read as a literal. -/
theorem plain_read_alike_iff (h : IsPlain text) :
    (literal? text = decimal? text ↔ ¬ Overruns text) ∧
      (Overruns text → decimal? text = none ∧ (literal? text).isSome = true) := by
  refine ⟨?_, h.overruns_iff.mp⟩
  rw [h.overruns_iff]
  cases hdecimal : decimal? text with
  | some v => simp [h.literal?_of_decimal? hdecimal]
  | none => cases literal? text <;> simp

/-- The least integer of 64 bits is plain, and its magnitude is not in their range. -/
theorem least_number_read_alike :
    IsPlain "-9223372036854775808".toList ∧
      literal? "-9223372036854775808".toList = decimal? "-9223372036854775808".toList ∧
      decimal? "-9223372036854775808".toList = some Int64.minValue := by
  have hplain : IsPlain "-9223372036854775808".toList := isPlain_of_head? (by decide +kernel)
  have hvalue : decimal? "-9223372036854775808".toList = some Int64.minValue := by decide +kernel
  obtain ⟨halike, hoverruns⟩ := plain_read_alike_iff hplain
  refine ⟨hplain, halike.mpr fun h => ?_, hvalue⟩
  rw [(hoverruns h).1] at hvalue
  cases hvalue

/-- A number just beyond the greatest is read as the least where it might announce a base. -/
theorem overrun_read_apart :
    IsPlain "9223372036854775808".toList ∧ decimal? "9223372036854775808".toList = none ∧
      literal? "9223372036854775808".toList = some Int64.minValue :=
  ⟨isPlain_of_head? (by decide +kernel), by decide +kernel, by decide +kernel⟩

end WireDictionary.Numeral
