import WireDictionary.Numeral
import Mathlib.Data.List.Basic

/-! # Numbers are read as they were written

A number survives being written and read, over the whole range of 64-bit integers:
in decimal (`decimal?_decimal`), in decimal where a base might be announced
(`literal?_decimal`), and in hexadecimal (`literal?_hexadecimal`). The second of
these needs that no number but zero is written with a leading zero.
-/
namespace WireDictionary.Numeral

/-! ## Digits -/

theorem digit?_digitChar : ∀ base ≤ 16, ∀ d < base, digit? base (Nat.digitChar d) = some d := by
  decide

theorem isBlank_digitChar : ∀ d < 16, Text.isBlank (Nat.digitChar d) = false := by decide

/-- Every digit is the character of a number below the base. -/
theorem exists_of_mem_toDigits {base n : Nat} (hbase : 1 < base) {c : Char}
    (hc : c ∈ Nat.toDigits base n) : ∃ d < base, c = Nat.digitChar d := by
  induction n using Nat.strongRecOn with
  | ind n ih =>
    rw [Nat.toDigits_eq_if hbase] at hc
    split at hc
    · rename_i hlt
      exact ⟨n, hlt, List.mem_singleton.mp hc⟩
    · rename_i hge
      rcases List.mem_append.mp hc with hc | hc
      · exact ih (n / base) (Nat.div_lt_self (by omega) hbase) hc
      · exact ⟨n % base, Nat.mod_lt n (by omega), List.mem_singleton.mp hc⟩

/-- Only zero is written with a leading zero. -/
theorem head?_toDigits {base n : Nat} (hbase : 1 < base) (hsmall : base ≤ 16) (hn : 0 < n) :
    (Nat.toDigits base n).head? ≠ some '0' := by
  induction n using Nat.strongRecOn with
  | ind n ih =>
    rw [Nat.toDigits_eq_if hbase]
    split
    · rename_i hlt
      have hdigit : ∀ d < 16, 0 < d → Nat.digitChar d ≠ '0' := by decide
      simpa using hdigit n (by omega) hn
    · rename_i hge
      have hdiv : 0 < n / base := Nat.div_pos (by omega) (by omega)
      rw [List.head?_append_of_ne_nil _ Nat.toDigits_ne_nil]
      exact ih (n / base) (Nat.div_lt_self hn hbase) hdiv

theorem valueFrom?_append (base high : Nat) (xs ys : List Char) :
    valueFrom? base high (xs ++ ys) =
      (valueFrom? base high xs).bind fun high' => valueFrom? base high' ys := by
  induction xs generalizing high with
  | nil => rfl
  | cons c xs ih =>
    rw [List.cons_append, valueFrom?, valueFrom?, Option.bind_assoc]
    exact congrArg _ (funext fun d => ih (high * base + d))

theorem valueFrom?_toDigits {base : Nat} (hbase : 1 < base) (hsmall : base ≤ 16) (n : Nat) :
    valueFrom? base 0 (Nat.toDigits base n) = some n := by
  induction n using Nat.strongRecOn with
  | ind n ih =>
    rw [Nat.toDigits_eq_if hbase]
    split
    · rename_i hlt
      rw [valueFrom?, digit?_digitChar base hsmall n hlt]
      simp [valueFrom?]
    · rename_i hge
      have hmod : n % base < base := Nat.mod_lt n (by omega)
      rw [valueFrom?_append, ih (n / base) (Nat.div_lt_self (by omega) hbase), Option.bind_some,
        valueFrom?, digit?_digitChar base hsmall _ hmod, Option.bind_some, valueFrom?,
        Nat.div_add_mod']

theorem valueFrom?_replicate_zero {base : Nat} (hbase : 0 < base) (k : Nat) :
    valueFrom? base 0 (List.replicate k '0') = some 0 := by
  have hzero : digit? base '0' = some 0 := by simp [digit?, hbase]
  induction k with
  | zero => rfl
  | succ k ih => rw [List.replicate_succ, valueFrom?, hzero, Option.bind_some, Nat.zero_mul, ih]

/-- Leading zeros do not change a magnitude. -/
theorem magnitude?_toDigits {base : Nat} (hbase : 1 < base) (hsmall : base ≤ 16) (k n : Nat) :
    magnitude? base (List.replicate k '0' ++ Nat.toDigits base n) = some n := by
  have hne : List.replicate k '0' ++ Nat.toDigits base n ≠ [] := by simp
  rw [magnitude?, if_neg (by rwa [List.isEmpty_iff]), valueFrom?_append,
    valueFrom?_replicate_zero (by omega), Option.bind_some, valueFrom?_toDigits hbase hsmall]

/-! ## Decimal numbers -/

theorem toList_decimal (v : Int64) : (decimal v).toList =
    if v < 0 then '-' :: Nat.toDigits 10 v.toInt.natAbs else Nat.toDigits 10 v.toInt.natAbs :=
  String.toList_ofList

theorem exists_of_mem_decimal {v : Int64} {c : Char} (hc : c ∈ (decimal v).toList) :
    c = '-' ∨ ∃ d < 10, c = Nat.digitChar d := by
  rw [toList_decimal] at hc
  split at hc
  · rcases List.mem_cons.mp hc with rfl | hc
    · exact .inl rfl
    · exact .inr (exists_of_mem_toDigits (by decide) hc)
  · exact .inr (exists_of_mem_toDigits (by decide) hc)

/-- Other characters are not in a number. -/
theorem not_mem_decimal {c : Char} (h : c ≠ '-' ∧ ∀ d < 10, c ≠ Nat.digitChar d) (v : Int64) :
    c ∉ (decimal v).toList := by
  intro hc
  rcases exists_of_mem_decimal hc with hminus | ⟨d, hd, hdigit⟩
  · exact h.1 hminus
  · exact h.2 d hd hdigit

theorem decimal_ne_nil (v : Int64) : (decimal v).toList ≠ [] := by
  rw [toList_decimal]
  split <;> simp

theorem trim_decimal (v : Int64) : Text.trim (decimal v).toList = (decimal v).toList := by
  refine Text.trim_eq_self fun c hc => ?_
  rcases exists_of_mem_decimal hc with rfl | ⟨d, hd, rfl⟩
  · decide
  · exact isBlank_digitChar d (by omega)

theorem splitSign_decimal (v : Int64) :
    splitSign (decimal v).toList = (decide (v < 0), Nat.toDigits 10 v.toInt.natAbs) := by
  rw [toList_decimal]
  split
  · rename_i hneg
    simp [splitSign, hneg]
  · rename_i hpos
    have hdigit : ∀ d < 10, Nat.digitChar d ≠ '-' ∧ Nat.digitChar d ≠ '+' := by decide
    have hmem : ∀ c ∈ Nat.toDigits 10 v.toInt.natAbs, c ≠ '-' ∧ c ≠ '+' := by
      intro c hc
      obtain ⟨d, hd, rfl⟩ := exists_of_mem_toDigits (by decide) hc
      exact hdigit d hd
    unfold splitSign
    split
    · rename_i he
      exact absurd rfl (hmem '-' (by simp [he])).1
    · rename_i he
      exact absurd rfl (hmem '+' (by simp [he])).2
    · simp [hpos]

theorem signed_natAbs (v : Int64) : signed (decide (v < 0)) v.toInt.natAbs = v.toInt := by
  have hneg : v < 0 ↔ v.toInt < 0 := Int64.lt_iff_toInt_lt
  rw [signed]
  split
  · rename_i h
    have := hneg.mp (of_decide_eq_true h)
    omega
  · rename_i h
    have hpos : ¬ v.toInt < 0 := fun hn => h (decide_eq_true (hneg.mpr hn))
    omega

/-- A decimal number reads back. -/
theorem decimal?_decimal (v : Int64) : decimal? (decimal v).toList = some v := by
  have hmagnitude : magnitude? 10 (Nat.toDigits 10 v.toInt.natAbs) = some v.toInt.natAbs :=
    magnitude?_toDigits (by decide) (by decide) 0 _
  have hrange : Int64.minValue.toInt ≤ v.toInt ∧ v.toInt ≤ Int64.maxValue.toInt :=
    ⟨v.minValue_le_toInt, v.toInt_le⟩
  simp only [decimal?, trim_decimal, splitSign_decimal, hmagnitude, Option.bind_some, signed_natAbs,
    if_pos hrange, Int64.ofInt_toInt]

/-- Different numbers are written differently. -/
theorem toList_decimal_inj {v w : Int64} : (decimal v).toList = (decimal w).toList ↔ v = w := by
  refine ⟨fun h => ?_, fun h => by rw [h]⟩
  have hread := congrArg decimal? h
  rw [decimal?_decimal, decimal?_decimal] at hread
  exact Option.some.inj hread

/-! ## Numbers that may announce their base -/

theorem splitBase_toDigits (n : Nat) : splitBase (Nat.toDigits 10 n) = (10, Nat.toDigits 10 n) := by
  rcases Nat.eq_zero_or_pos n with rfl | hn
  · rfl
  · have hhead := head?_toDigits (by decide : 1 < 10) (by decide) hn
    unfold splitBase
    split
    · rename_i he
      exact absurd (by rw [he]; rfl) hhead
    · rfl

theorem natAbs_lt_size (v : Int64) : v.toInt.natAbs < UInt64.size := by
  have hsize : UInt64.size = 2 ^ 64 := rfl
  have := v.le_toInt
  have := v.toInt_lt
  omega

/-- A decimal number reads back where it might announce a base, as it does not seem to. -/
theorem literal?_decimal (v : Int64) : literal? (decimal v).toList = some v := by
  have hmagnitude : magnitude? 10 (Nat.toDigits 10 v.toInt.natAbs) = some v.toInt.natAbs :=
    magnitude?_toDigits (by decide) (by decide) 0 _
  simp only [literal?, trim_decimal, splitSign_decimal, splitBase_toDigits, hmagnitude,
    Option.bind_some, if_pos (natAbs_lt_size v), signed_natAbs, Int64.ofInt_toInt]

theorem toList_hexadecimal (width : Nat) (v : Int64) : (hexadecimal width v).toList =
    '0' :: 'x' :: (List.replicate (width - (Nat.toDigits 16 v.toUInt64.toNat).length) '0' ++
      Nat.toDigits 16 v.toUInt64.toNat) :=
  String.toList_ofList

theorem exists_of_mem_hexadecimal {width : Nat} {v : Int64} {c : Char}
    (hc : c ∈ (hexadecimal width v).toList) : c = 'x' ∨ ∃ d < 16, c = Nat.digitChar d := by
  have hzero : ∃ d < 16, '0' = Nat.digitChar d := ⟨0, by decide, rfl⟩
  rw [toList_hexadecimal, List.mem_cons, List.mem_cons, List.mem_append] at hc
  rcases hc with rfl | rfl | hc | hc
  · exact .inr hzero
  · exact .inl rfl
  · rw [List.eq_of_mem_replicate hc]
    exact .inr hzero
  · exact .inr (exists_of_mem_toDigits (by decide) hc)

theorem trim_hexadecimal (width : Nat) (v : Int64) :
    Text.trim (hexadecimal width v).toList = (hexadecimal width v).toList := by
  refine Text.trim_eq_self fun c hc => ?_
  rcases exists_of_mem_hexadecimal hc with rfl | ⟨d, hd, rfl⟩
  · decide
  · exact isBlank_digitChar d hd

/-- A number is what its two's complement bits stand for. -/
theorem ofInt_toUInt64 (v : Int64) : Int64.ofInt v.toUInt64.toNat = v := by
  rw [← Int64.toNat_toBitVec]
  exact Int64.toBitVec.inj (by simp)

/-- A hexadecimal number of any width reads back. -/
theorem literal?_hexadecimal (width : Nat) (v : Int64) :
    literal? (hexadecimal width v).toList = some v := by
  have hsign : splitSign (hexadecimal width v).toList = (false, (hexadecimal width v).toList) := by
    rw [toList_hexadecimal]
    rfl
  have hbase : splitBase (hexadecimal width v).toList =
      (16, List.replicate (width - (Nat.toDigits 16 v.toUInt64.toNat).length) '0' ++
        Nat.toDigits 16 v.toUInt64.toNat) := by
    rw [toList_hexadecimal]
    rfl
  have hmagnitude := magnitude?_toDigits (by decide : 1 < 16) (by decide)
    (width - (Nat.toDigits 16 v.toUInt64.toNat).length) v.toUInt64.toNat
  have hlt : v.toUInt64.toNat < UInt64.size := v.toUInt64.toNat_lt_size
  simp only [literal?, trim_hexadecimal, hsign, hbase, hmagnitude, Option.bind_some, if_pos hlt,
    signed, Bool.false_eq_true, if_false, ofInt_toUInt64]

end WireDictionary.Numeral
