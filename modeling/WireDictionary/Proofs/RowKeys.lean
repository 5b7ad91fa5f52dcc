import WireDictionary.Proofs.PushedLines
import WireDictionary.Proofs.ReadRows
import WireDictionary.Proofs.WrittenNumbers

/-! # Keys tell rows apart

The unique id of an entity and the text of a pair are both a decimal number, a dot and
something more. No number has a dot in it, so the first dot ends the number
(`decimal_dot_inj`), and both parts can be told from the text, although the key of an
entity may itself hold dots, digits and signs. So no two rows are merged unless their
types and their keys agree, quotes left out and commas read as dots.
-/
namespace WireDictionary

/-! ## Texts of keys -/

theorem Numeral.dot_not_mem_decimal (v : Int64) : '.' ∉ (decimal v).toList :=
  not_mem_decimal (by decide) v

/-- The first dot behind a number ends it. -/
theorem Numeral.takeWhile_decimal_append (v : Int64) (rest : List Char) :
    ((decimal v).toList ++ '.' :: rest).takeWhile (· != '.') = (decimal v).toList := by
  have hkept : ∀ c ∈ (decimal v).toList, (c != '.') = true := by
    intro c hc
    exact bne_iff_ne.mpr (ne_of_mem_of_not_mem hc (dot_not_mem_decimal v))
  rw [List.takeWhile_append_of_pos hkept, List.takeWhile_cons_of_neg (by decide), List.append_nil]

/-- A number and what comes behind a dot can be told from the text of both. -/
theorem Numeral.decimal_dot_inj {v w : Int64} {xs ys : List Char} :
    (decimal v).toList ++ '.' :: xs = (decimal w).toList ++ '.' :: ys ↔ v = w ∧ xs = ys := by
  constructor
  · intro h
    have hnumbers := congrArg (List.takeWhile (· != '.')) h
    rw [takeWhile_decimal_append, takeWhile_decimal_append, toList_decimal_inj] at hnumbers
    subst hnumbers
    exact ⟨rfl, (List.cons.inj (List.append_cancel_left h)).2⟩
  · rintro ⟨rfl, rfl⟩
    rfl

namespace EntityRow

/-- What a character of a key counts for: nothing if it is a quote, a dot if it is a comma. -/
def keyChar? (c : Char) : Option Char :=
  if c = '"' then none else if c = ',' then some '.' else some c

/-- What the characters of a key count for. -/
def keyChars (key : String) : List Char := key.toList.filterMap keyChar?

theorem toList_dotted (key : String) : (dotted key).toList = keyChars key := by
  rw [dotted, keyChars, String.toList_ofList, ← List.filterMap_eq_map, List.filterMap_filter]
  refine List.filterMap_congr fun c _ => ?_
  by_cases hquote : c = '"'
  · simp [keyChar?, hquote]
  · by_cases hcomma : c = ',' <;> simp [keyChar?, hquote, hcomma]

/-- Quotes that are left out early would be left out later. -/
theorem keyChars_withoutQuotes (key : String) : keyChars (withoutQuotes key) = keyChars key := by
  rw [keyChars, withoutQuotes, String.toList_ofList, List.filterMap_filter]
  refine List.filterMap_congr fun c _ => ?_
  by_cases hquote : c = '"' <;> simp [keyChar?, hquote]

theorem toList_idOf (typeCode : Int64) (key : String) : (idOf typeCode key).toList =
    (Numeral.decimal typeCode).toList ++ '.' :: keyChars key := by
  simp [idOf, toList_dotted]

theorem idOf_eq_idOf_iff {t t' : Int64} {k k' : String} :
    idOf t k = idOf t' k' ↔ t = t' ∧ keyChars k = keyChars k' := by
  rw [← String.toList_inj, toList_idOf, toList_idOf, Numeral.decimal_dot_inj]

theorem idOf_withoutQuotes (typeCode : Int64) (key : String) :
    idOf typeCode (withoutQuotes key) = idOf typeCode key :=
  idOf_eq_idOf_iff.mpr ⟨rfl, keyChars_withoutQuotes key⟩

end EntityRow

theorem PairKey.text_eq_text_iff {k l : PairKey} : k.text = l.text ↔ k = l := by
  have htext : ∀ m : PairKey, m.text.toList =
      (Numeral.decimal m.id).toList ++ '.' :: (Numeral.decimal m.sub).toList := by
    intro m
    simp [text]
  rw [← String.toList_inj, htext, htext, Numeral.decimal_dot_inj, Numeral.toList_decimal_inj,
    PairKey.mk.injEq]

/-! ## Rows of lines -/

namespace Table

variable {K R : Type} [DecidableEq K] [Row K R]

/-- The row of a table that stands for a line: the one with the key of the line's row. -/
def rowFor? (t : Table K R) (line : String) : Option R :=
  (Row.parse R line).toOption.bind fun row => t.get? (Row.key row)

variable {lines : List String} {line : String} {row : R}

/-- Every accepted line has a row that stands for it. -/
theorem exists_rowFor? (hline : line ∈ lines) (hrow : Row.parse R line = .ok row) :
    ∃ kept ∈ (ofLines lines : Table K R).toList, Row.key kept = Row.key row ∧
      (ofLines lines : Table K R).rowFor? line = some kept := by
  have haccepted : row ∈ Row.accepted R lines :=
    List.mem_filterMap.mpr ⟨line, hline, by rw [hrow]; rfl⟩
  obtain ⟨kept, hkept⟩ := Row.exists_last?_of_mem haccepted
  have hkey : Row.key kept = Row.key row := Row.key_of_last? hkept
  refine ⟨kept, ?_, hkey, ?_⟩
  · rw [toList_ofLines, Row.mem_standing, hkey]
    exact hkept
  · rw [rowFor?, hrow, Except.toOption, Option.bind_some, get?_ofLines]
    exact hkept

/-- Lines share a row exactly if their rows have one key. -/
theorem rowFor?_eq_iff {line' : String} {row' : R} (hline : line ∈ lines) (hline' : line' ∈ lines)
    (hrow : Row.parse R line = .ok row) (hrow' : Row.parse R line' = .ok row') :
    (ofLines lines : Table K R).rowFor? line = (ofLines lines : Table K R).rowFor? line' ↔
      Row.key row = Row.key row' := by
  obtain ⟨kept, -, hkey, hkept⟩ := exists_rowFor? hline hrow
  obtain ⟨kept', -, hkey', hkept'⟩ := exists_rowFor? hline' hrow'
  constructor
  · intro h
    rw [hkept, hkept'] at h
    rw [← hkey, ← hkey', Option.some.inj h]
  · intro h
    rw [rowFor?, rowFor?, hrow, hrow', Except.toOption, Except.toOption, Option.bind_some,
      Option.bind_some, h]

end Table

namespace EntityRow

/-- The type of an entity and what the characters of its key count for, as the columns of a line give
them. -/
def typedKey? (line : String) : Option (Int64 × List Char) := do
  let typeCode ← ColumnKind.integer.cell? (Row.columns line)[0]?
  let key ← (Row.columns line)[1]?
  return (typeCode, keyChars key)

theorem typedKey?_of_parse {line : String} {row : EntityRow}
    (h : Row.parse EntityRow line = .ok row) :
    typedKey? line = some (row.typeCode, keyChars row.key) := by
  have hread := Row.areRead.isAt line row h
  obtain ⟨raw, hraw, hkey⟩ := Option.map_eq_some_iff.mp hread.key
  simp [typedKey?, hread.typeCode, hraw, ← hkey, keyChars_withoutQuotes]

theorem key_eq_key_iff {line line' : String} {row row' : EntityRow}
    (hrow : Row.parse EntityRow line = .ok row) (hrow' : Row.parse EntityRow line' = .ok row') :
    Row.key row = Row.key row' ↔ typedKey? line = typedKey? line' := by
  have hid : row.uniqueId = idOf row.typeCode row.key := (Row.areRead.isAt line row hrow).uniqueId
  have hid' : row'.uniqueId = idOf row'.typeCode row'.key :=
    (Row.areRead.isAt line' row' hrow').uniqueId
  change row.uniqueId = row'.uniqueId ↔ _
  rw [hid, hid', idOf_eq_idOf_iff, typedKey?_of_parse hrow, typedKey?_of_parse hrow',
    Option.some_inj, Prod.mk.injEq]

end EntityRow

/-- **Keys identify rows.** The unique ids of two entities are equal exactly if their types are and
their keys are, without quotes and with dots for commas; quotes may be left out before as well. So
every accepted line of entities has a row in the table, and two lines have the same row exactly if
the types and the keys in their columns agree. Two pairs are written alike only if they are equal. -/
theorem keys_identify_rows :
    (∀ (t t' : Int64) (k k' : String), EntityRow.idOf t k = EntityRow.idOf t' k' ↔
      t = t' ∧ EntityRow.keyChars k = EntityRow.keyChars k') ∧
    (∀ (t : Int64) (k : String), EntityRow.idOf t (withoutQuotes k) = EntityRow.idOf t k) ∧
    (∀ (lines : List String) (line line' : String), line ∈ lines → line' ∈ lines →
      Row.isAccepted EntityRow line = true → Row.isAccepted EntityRow line' = true →
      let t : Table String EntityRow := Table.ofLines lines
      (∃ row ∈ t.toList, t.rowFor? line = some row) ∧
        (t.rowFor? line = t.rowFor? line' ↔
          EntityRow.typedKey? line = EntityRow.typedKey? line')) ∧
    ∀ k l : PairKey, k.text = l.text ↔ k = l := by
  refine ⟨fun t t' k k' => EntityRow.idOf_eq_idOf_iff, EntityRow.idOf_withoutQuotes, ?_,
    fun k l => PairKey.text_eq_text_iff⟩
  intro lines line line' hline hline' haccepted haccepted' t
  obtain ⟨row, hrow⟩ := Row.isAccepted_iff.mp haccepted
  obtain ⟨row', hrow'⟩ := Row.isAccepted_iff.mp haccepted'
  obtain ⟨kept, hmem, -, hkept⟩ := Table.exists_rowFor? hline hrow
  refine ⟨⟨kept, hmem, hkept⟩, ?_⟩
  rw [Table.rowFor?_eq_iff hline hline' hrow hrow', EntityRow.key_eq_key_iff hrow hrow']

/-- The first two lines differ in the zeros of the type, in quotes and in the comma; the third has a
dot where they have none. -/
theorem respelled_keys_identify_rows :
    let lines := ["1^\"0x01,2\"^Foo^5", "01^0x\"01.2^Bar^6", "1^0x0.1.2^Baz^7"]
    let t : Table String EntityRow := Table.ofLines lines
    (∀ line ∈ lines, Row.isAccepted EntityRow line = true) ∧
      t.rowFor? "1^\"0x01,2\"^Foo^5" = t.rowFor? "01^0x\"01.2^Bar^6" ∧
      t.rowFor? "01^0x\"01.2^Bar^6" ≠ t.rowFor? "1^0x0.1.2^Baz^7" := by
  intro lines t
  have haccepted : ∀ line ∈ lines, Row.isAccepted EntityRow line = true := by decide +kernel
  have hrows := keys_identify_rows.2.2.1 lines
  have hfirst : "1^\"0x01,2\"^Foo^5" ∈ lines := by decide
  have hsecond : "01^0x\"01.2^Bar^6" ∈ lines := by decide
  have hthird : "1^0x0.1.2^Baz^7" ∈ lines := by decide
  have hshared := hrows _ _ hfirst hsecond (haccepted _ hfirst) (haccepted _ hsecond)
  have hapart := hrows _ _ hsecond hthird (haccepted _ hsecond) (haccepted _ hthird)
  exact ⟨haccepted, hshared.2.mpr (by decide +kernel), mt hapart.2.mp (by decide +kernel)⟩

end WireDictionary
