import WireDictionary.Proofs.ColumnCuts
import WireDictionary.Proofs.ReadRows
import WireDictionary.Proofs.StandingRows
import WireDictionary.Proofs.WrittenNumbers
import WireDictionary.Row.Entity
import WireDictionary.Row.Enum
import WireDictionary.Row.Field
import WireDictionary.Row.Fragment
import WireDictionary.Row.Line

/-! # Rows are read as they were written

A text between quotes may hold anything but a quote and a line feed: separators do
not split it, and blanks at its ends are not at the ends of the line. All other
columns are made of characters that need no quotes. So a written line is cut into
the columns that it was made of, each column reads as the cell that it was written
for, and a text of lines gives the table of the rows, for every layout.
-/
namespace WireDictionary

/-! ## Written columns -/

/-- A character of a column that stands without quotes. -/
def Column.isBare (c : Char) : Bool := !Text.isBlank c && c != '"' && c != Column.separator

/-- A column as it is written: between quotes, or in characters that need none. -/
def Column.Segment.IsWritten (s : Column.Segment) : Prop :=
  s.raw = '"' :: s.column ++ ['"'] ∧ '"' ∉ s.column ∧ '\n' ∉ s.column ∨
    s.raw = s.column ∧ ∀ c ∈ s.column, Column.isBare c = true

namespace ColumnKind

/-- The texts in a cell. -/
def texts : (kind : ColumnKind) → kind.Cell → List String
  | .text, s => [s]
  | .integer, _ | .literal, _ | .flag, _ | .optionalInteger, _ | .optionalFlag, _ => []

/-- A written column without the quotes around it. -/
def content (spelling : Spelling) : (kind : ColumnKind) → kind.Cell → String
  | .text, s => s
  | .integer, v => written spelling .integer v
  | .literal, v => written spelling .literal v
  | .flag, b => written spelling .flag b
  | .optionalInteger, v? => written spelling .optionalInteger v?
  | .optionalFlag, b? => written spelling .optionalFlag b?

def segment (spelling : Spelling) (kind : ColumnKind) (cell : kind.Cell) : Column.Segment :=
  ⟨(kind.written spelling cell).toList, (kind.content spelling cell).toList⟩

end ColumnKind

namespace Cells

/-- The texts in cells. -/
def texts : (kinds : List ColumnKind) → Cells kinds → List String
  | [], _ => []
  | kind :: kinds, (cell, cells) => kind.texts cell ++ texts kinds cells

def segments (spelling : Spelling) : (kinds : List ColumnKind) → Cells kinds → List Column.Segment
  | [], _ => []
  | kind :: kinds, (cell, cells) => kind.segment spelling cell :: segments spelling kinds cells

theorem map_raw_segments (spelling : Spelling) (kinds : List ColumnKind) (cells : Cells kinds) :
    (segments spelling kinds cells).map Column.Segment.raw =
      (written spelling kinds cells).map String.toList := by
  induction kinds with
  | nil => rfl
  | cons kind kinds ih => simp [segments, written, ih, ColumnKind.segment]

theorem length_segments (spelling : Spelling) (kinds : List ColumnKind) (cells : Cells kinds) :
    (segments spelling kinds cells).length = kinds.length := by
  rw [← List.length_map, map_raw_segments, List.length_map, length_written]

end Cells

namespace Column

theorem isBare_digitChar : ∀ d < 16, isBare (Nat.digitChar d) = true := by decide

theorem isBare_of_mem_decimal {v : Int64} {c : Char} (hc : c ∈ (Numeral.decimal v).toList) :
    isBare c = true := by
  rcases Numeral.exists_of_mem_decimal hc with rfl | ⟨d, hd, rfl⟩
  · decide
  · exact isBare_digitChar d (by omega)

theorem isBare_of_mem_literal {spelling : Spelling} {v : Int64} {c : Char}
    (hc : c ∈ (spelling.literal v).toList) : isBare c = true := by
  cases spelling with
  | decimal => exact isBare_of_mem_decimal hc
  | hexadecimal =>
    rcases Numeral.exists_of_mem_hexadecimal hc with rfl | ⟨d, hd, rfl⟩
    · decide
    · exact isBare_digitChar d hd

theorem isBare_of_mem_flagText {b : Bool} {c : Char} (hc : c ∈ (flagText b).toList) :
    isBare c = true := by
  cases b <;>
  · obtain rfl := List.mem_singleton.mp hc
    decide

end Column

/-- Every column is written as one that can be cut out of its line again. -/
theorem ColumnKind.isWritten_segment (spelling : Spelling) (kind : ColumnKind) (cell : kind.Cell)
    (h : ∀ text ∈ kind.texts cell, '"' ∉ text.toList ∧ '\n' ∉ text.toList) :
    (kind.segment spelling cell).IsWritten := by
  cases kind with
  | text => exact .inl ⟨String.toList_ofList, h cell (List.mem_singleton.mpr rfl)⟩
  | integer => exact .inr ⟨rfl, fun c hc => Column.isBare_of_mem_decimal hc⟩
  | literal => exact .inr ⟨rfl, fun c hc => Column.isBare_of_mem_literal hc⟩
  | flag => exact .inr ⟨rfl, fun c hc => Column.isBare_of_mem_flagText hc⟩
  | optionalInteger =>
    refine .inr ⟨rfl, fun c hc => ?_⟩
    cases cell with
    | none => cases hc
    | some v => exact Column.isBare_of_mem_decimal hc
  | optionalFlag =>
    refine .inr ⟨rfl, fun c hc => ?_⟩
    cases cell with
    | none => cases hc
    | some b => exact Column.isBare_of_mem_flagText hc

theorem Cells.isWritten_of_mem_segments {spelling : Spelling} {kinds : List ColumnKind}
    {cells : Cells kinds} (h : ∀ text ∈ texts kinds cells, '"' ∉ text.toList ∧ '\n' ∉ text.toList) :
    ∀ s ∈ segments spelling kinds cells, s.IsWritten := by
  induction kinds with
  | nil => simp [segments]
  | cons kind kinds ih =>
    obtain ⟨cell, cells⟩ := cells
    obtain ⟨hcell, hcells⟩ := List.forall_mem_append.mp h
    exact List.forall_mem_cons.mpr ⟨kind.isWritten_segment spelling cell hcell, ih hcells⟩

/-! ## Written lines -/

namespace Text

/-- No blank at either end. -/
def IsTight (cs : List Char) : Prop :=
  (∀ c ∈ cs.head?, isBlank c = false) ∧ ∀ c ∈ cs.getLast?, isBlank c = false

theorem isTight_of_forall {cs : List Char} (h : ∀ c ∈ cs, isBlank c = false) : IsTight cs :=
  ⟨fun c hc => h c (List.mem_of_mem_head? hc), fun c hc => h c (List.mem_of_mem_getLast? hc)⟩

theorem IsTight.append {xs ys : List Char} (hx : IsTight xs) (hy : IsTight ys) :
    IsTight (xs ++ ys) := by
  constructor
  · intro c hc
    rw [List.head?_append, Option.mem_def, Option.or_eq_some_iff] at hc
    rcases hc with hc | ⟨-, hc⟩
    · exact hx.1 c hc
    · exact hy.1 c hc
  · intro c hc
    rw [List.getLast?_append, Option.mem_def, Option.or_eq_some_iff] at hc
    rcases hc with hc | ⟨-, hc⟩
    · exact hy.2 c hc
    · exact hx.2 c hc

theorem IsTight.trim {cs : List Char} (h : IsTight cs) : Text.trim cs = cs := strip_eq_self h.1 h.2

theorem IsTight.getLast?_ne_return {cs : List Char} (h : IsTight cs) : cs.getLast? ≠ some '\r' :=
  fun hc => absurd (h.2 '\r' hc) (by decide)

end Text

namespace Column

open Text (IsTight isTight_of_forall)

theorem Segment.IsWritten.opens {s : Segment} (h : s.IsWritten) (line : List Char) :
    s.Opens line := by
  rcases h with ⟨hraw, hquote, -⟩ | ⟨hraw, hbare⟩
  · exact .inl ⟨hraw, fun hin => hquote (hin.subset List.mem_cons_self)⟩
  · have hquote : ∀ c ∈ s.raw, (c == '"') = false := by
      intro c hc
      have := hbare c (hraw ▸ hc)
      simp_all [isBare]
    refine .inr ⟨?_, ?_, .inl ?_⟩
    · intro hc
      exact absurd (hbare separator (hraw ▸ hc)) (by decide)
    · rw [Text.strip_eq_self (fun c hc => hquote c (List.mem_of_mem_head? hc))
        fun c hc => hquote c (List.mem_of_mem_getLast? hc), hraw]
    · intro hhead
      exact absurd (hquote '"' (List.mem_of_mem_head? hhead)) (by decide)

/-- Written columns are cut apart where they were joined. -/
theorem splitChars_joined {segments : List Segment} (hne : segments ≠ [])
    (h : ∀ s ∈ segments, s.IsWritten) :
    splitChars (joined (segments.map Segment.raw)) = segments.map Segment.column := by
  have hcut : IsCut (joined (segments.map Segment.raw)) segments := by
    refine ⟨hne, rfl, ?_⟩
    intro before s after he
    exact (h s (by simp [he])).opens _
  obtain ⟨others, hothers, hcolumns⟩ := exists_isCut (joined (segments.map Segment.raw))
  rw [hcolumns, hothers.unique hcut]

theorem isBlank_of_isBare {c : Char} (h : isBare c = true) : Text.isBlank c = false := by
  simp_all [isBare]

theorem Segment.IsWritten.isTight {s : Segment} (h : s.IsWritten) : IsTight s.raw := by
  rcases h with ⟨hraw, -⟩ | ⟨hraw, hbare⟩
  · rw [hraw]
    constructor
    · intro c hc
      obtain rfl := Option.some.inj hc
      decide
    · intro c hc
      rw [Option.mem_def, List.getLast?_concat] at hc
      obtain rfl := Option.some.inj hc
      decide
  · rw [hraw]
    exact isTight_of_forall fun c hc => isBlank_of_isBare (hbare c hc)

theorem Segment.IsWritten.feed_not_mem {s : Segment} (h : s.IsWritten) : '\n' ∉ s.raw := by
  rcases h with ⟨hraw, -, hfeed⟩ | ⟨hraw, hbare⟩
  · rw [hraw]
    simpa using hfeed
  · intro hc
    exact absurd (hbare '\n' (hraw ▸ hc)) (by decide)

/-- A line of written columns needs no trimming and holds no line feed. -/
theorem isTight_joined {segments : List Segment} (h : ∀ s ∈ segments, s.IsWritten) :
    IsTight (joined (segments.map Segment.raw)) ∧ '\n' ∉ joined (segments.map Segment.raw) := by
  induction segments with
  | nil => exact ⟨isTight_of_forall (by simp [joined]), by simp [joined]⟩
  | cons s segments ih =>
    obtain ⟨hs, hsegments⟩ := List.forall_mem_cons.mp h
    obtain ⟨htight, hfeed⟩ := ih hsegments
    have hseparator : IsTight [separator] := by
      refine isTight_of_forall fun c hc => ?_
      obtain rfl := List.mem_singleton.mp hc
      decide
    rw [List.map_cons, joined_cons]
    split
    · simpa [continued] using ⟨hs.isTight, hs.feed_not_mem⟩
    · refine ⟨hs.isTight.append (hseparator.append htight), ?_⟩
      rw [continued, List.mem_append, List.mem_cons, not_or, not_or]
      exact ⟨hs.feed_not_mem, by decide, hfeed⟩

end Column

/-! ## What written columns hold -/

theorem literal?_literal (spelling : Spelling) (v : Int64) :
    Numeral.literal? (spelling.literal v).toList = some v := by
  cases spelling with
  | decimal => exact Numeral.literal?_decimal v
  | hexadecimal => exact Numeral.literal?_hexadecimal 1 v

theorem flagText_eq (b : Bool) : flagText b = Numeral.decimal (if b then 1 else 0) := by
  cases b <;> decide

theorem flag_ne_zero (b : Bool) : ((if b then 1 else 0 : Int64) != 0) = b := by
  cases b <;> decide

namespace ColumnKind

theorem optionalNumber?_decimal (v : Int64) :
    optionalNumber? (some (Numeral.decimal v)) = some (some v) := by
  have hblank : (Numeral.decimal v).toList.all Text.isBlank = false := by
    cases hd : (Numeral.decimal v).toList with
    | nil => exact absurd hd (Numeral.decimal_ne_nil v)
    | cons d rest =>
      have hbare := Column.isBare_of_mem_decimal (c := d) (v := v) (by simp [hd])
      rw [List.all_cons, Column.isBlank_of_isBare hbare, Bool.false_and]
  simp [optionalNumber?, hblank, Numeral.decimal?_decimal]

/-- A column holds the cell that it was written for. -/
theorem cell?_content (spelling : Spelling) (kind : ColumnKind) (cell : kind.Cell) :
    kind.cell? (some (kind.content spelling cell)) = some cell := by
  cases kind with
  | text => rfl
  | integer =>
    rw [cell?, Option.bind_some]
    exact Numeral.decimal?_decimal cell
  | literal =>
    rw [cell?, Option.bind_some]
    exact literal?_literal spelling cell
  | flag =>
    change (Numeral.decimal? (flagText cell).toList).map (· != 0) = some cell
    rw [flagText_eq, Numeral.decimal?_decimal, Option.map_some, flag_ne_zero]
  | optionalInteger =>
    cases cell with
    | none => rfl
    | some v => exact optionalNumber?_decimal v
  | optionalFlag =>
    cases cell with
    | none => rfl
    | some b =>
      change (optionalNumber? (some (flagText b))).map (fun v? => v?.map (· != 0)) = some (some b)
      rw [flagText_eq, optionalNumber?_decimal, Option.map_some, Option.map_some, flag_ne_zero]

end ColumnKind

/-- Columns hold the cells that they were written for. -/
theorem Cells.areAt_of_drop {spelling : Spelling} {kinds : List ColumnKind} {written : Cells kinds}
    {columns : List String} {i : Nat}
    (h : columns.drop i = (segments spelling kinds written).map fun s => String.ofList s.column) :
    AreAt columns kinds i written := by
  induction kinds generalizing i with
  | nil => trivial
  | cons kind kinds ih =>
    obtain ⟨cell, rest⟩ := written
    have hcolumn : columns[i]? = some (kind.content spelling cell) := by
      rw [← List.head?_drop, h]
      simp [segments, ColumnKind.segment]
    have hrest : columns.drop (i + 1) =
        (segments spelling kinds rest).map fun s => String.ofList s.column := by
      rw [← List.tail_drop, h]
      rfl
    refine ⟨?_, ih hrest⟩
    rw [hcolumn]
    exact kind.cell?_content spelling cell

/-! ## Written rows -/

namespace Row

variable {K R : Type} [Row K R]

/-- Whether the texts of a row can stand between quotes. -/
def IsWritable (row : R) : Prop :=
  ∀ text ∈ Cells.texts (layout R) (toCells row), '"' ∉ text.toList ∧ '\n' ∉ text.toList

instance (row : R) : Decidable (IsWritable row) :=
  inferInstanceAs (Decidable (∀ text ∈ Cells.texts (layout R) (toCells row), _))

/-- Whether the key of a row is the one that its cells give. -/
def IsKeyed (row : R) : Prop := key (ofCells (toCells row) : R) = key row

/-- Rows of the type follow from the cells that they are written in. -/
class Lawful (R : Type) {K : Type} [Row K R] : Prop where
  layout_ne_nil : layout R ≠ []
  ofCells_toCells : ∀ row : R, IsWritable row → IsKeyed row → ofCells (toCells row) = row

def segments (spelling : Spelling) (row : R) : List Column.Segment :=
  Cells.segments spelling (layout R) (toCells row)

theorem toList_line (spelling : Spelling) (row : R) :
    (line spelling row).toList =
      Column.joined ((segments spelling row).map Column.Segment.raw) := by
  rw [line, String.toList_intercalate, segments, Cells.map_raw_segments]
  rfl

theorem isWritten_of_mem_segments {spelling : Spelling} {row : R} (h : IsWritable row) :
    ∀ s ∈ segments spelling row, s.IsWritten :=
  Cells.isWritten_of_mem_segments h

theorem isTight_line {spelling : Spelling} {row : R} (h : IsWritable row) :
    Text.IsTight (line spelling row).toList ∧ '\n' ∉ (line spelling row).toList := by
  rw [toList_line]
  exact Column.isTight_joined (isWritten_of_mem_segments h)

theorem length_segments (spelling : Spelling) (row : R) :
    (segments spelling row).length = (layout R).length :=
  Cells.length_segments spelling (layout R) (toCells row)

theorem segments_ne_nil [Lawful R] (spelling : Spelling) (row : R) :
    segments spelling row ≠ [] := by
  intro h
  have hlength := length_segments spelling row
  rw [h] at hlength
  exact Lawful.layout_ne_nil (List.length_eq_zero_iff.mp hlength.symm)

/-- A written line is cut into the columns that it was made of. -/
theorem ofLine_line [Lawful R] {spelling : Spelling} {row : R} (h : IsWritable row) :
    Cursor.ofLine (line spelling row) =
      ⟨(segments spelling row).map fun s => String.ofList s.column, 0⟩ := by
  rw [Cursor.ofLine, (isTight_line h).1.trim, toList_line,
    Column.splitChars_joined (segments_ne_nil spelling row) (isWritten_of_mem_segments h),
    List.map_map]
  rfl

/-- **A line reads as the row that it was written for.** -/
theorem parse_line [Lawful R] {spelling : Spelling} {row : R} (h : IsWritable row)
    (hkey : IsKeyed row) : parse R (line spelling row) = .ok row := by
  have hsize : ¬ (Cursor.ofLine (line spelling row)).size < minColumns R := by
    rw [ofLine_line h, Cursor.size, List.length_map, length_segments, Nat.not_lt]
    exact List.countP_le_length
  have hasked : (Cursor.ofLine (line spelling row)).HasAsked
      ((segments spelling row).map fun s => String.ofList s.column) 0 := by
    rw [ofLine_line h]
    exact Cursor.hasAsked_start _
  obtain ⟨c, hc⟩ := hasked.cells_run_of_areAt (Cells.areAt_of_drop rfl)
  simp only [parse, if_neg hsize, hc, Lawful.ofCells_toCells row h hkey]

/-- A text with one line for each row. -/
def text (rows : List (Spelling × R)) : String :=
  String.join ((rows.map fun r => line r.1 r.2).map (· ++ "\n"))

theorem linesOf_text {rows : List (Spelling × R)} (h : ∀ r ∈ rows, IsWritable r.2) :
    Text.linesOf (text rows) = rows.map fun r => line r.1 r.2 := by
  refine Text.linesOf_join fun written hw => ?_
  obtain ⟨r, hr, rfl⟩ := List.mem_map.mp hw
  have hline : Text.IsTight (line r.1 r.2).toList ∧ '\n' ∉ (line r.1 r.2).toList :=
    isTight_line (h r hr)
  exact ⟨hline.2, hline.1.getLast?_ne_return⟩

theorem accepted_lines [Lawful R] {rows : List (Spelling × R)} (h : ∀ r ∈ rows, IsWritable r.2)
    (hkeyed : ∀ r ∈ rows, IsKeyed r.2) :
    accepted R (rows.map fun r => line r.1 r.2) = rows.map Prod.snd := by
  have hparse : ∀ r ∈ rows, (parse R (line r.1 r.2)).toOption = some r.2 := by
    intro r hr
    rw [parse_line (h r hr) (hkeyed r hr)]
    rfl
  rw [accepted, List.filterMap_map, ← List.filterMap_eq_map]
  exact List.filterMap_congr hparse

end Row

/-! ## Written tables -/

theorem withoutQuotes_eq_self {text : String} (h : '"' ∉ text.toList) :
    withoutQuotes text = text := by
  have hkeep : text.toList.filter (· != '"') = text.toList :=
    List.filter_eq_self.mpr fun c hc => bne_iff_ne.mpr fun he => h (he ▸ hc)
  rw [withoutQuotes, hkeep, String.ofList_toList]

/-- The key of an entity that may be written is the one that its cells give exactly if it is made of
its type and its key. -/
theorem EntityRow.isKeyed_iff {row : EntityRow} (h : Row.IsWritable row) :
    Row.IsKeyed row ↔ row.uniqueId = idOf row.typeCode row.key := by
  obtain ⟨hkey, -⟩ := List.forall_mem_cons.mp h
  change idOf row.typeCode (withoutQuotes row.key) = row.uniqueId ↔ _
  rw [withoutQuotes_eq_self hkey.1, eq_comm]

instance : Row.Lawful EntityRow where
  layout_ne_nil := List.cons_ne_nil _ _
  ofCells_toCells row h hkeyed := by
    obtain ⟨hkey, hrest⟩ := List.forall_mem_cons.mp h
    have hname := List.forall_mem_singleton.mp hrest
    change { row with
      uniqueId := EntityRow.idOf row.typeCode (withoutQuotes row.key)
      key := withoutQuotes row.key, name := withoutQuotes row.name } = row
    rw [withoutQuotes_eq_self hkey.1, withoutQuotes_eq_self hname.1,
      ← (EntityRow.isKeyed_iff h).mp hkeyed]

instance : Row.Lawful EntryRow where
  layout_ne_nil := List.cons_ne_nil _ _
  ofCells_toCells row h _ := by
    have hname := List.forall_mem_singleton.mp h
    change { row with name := withoutQuotes row.name } = row
    rw [withoutQuotes_eq_self hname.1]

instance : Row.Lawful EnumRow where
  layout_ne_nil := List.cons_ne_nil _ _
  ofCells_toCells row h _ := by
    have hname := List.forall_mem_singleton.mp h
    change { row with name := withoutQuotes row.name } = row
    rw [withoutQuotes_eq_self hname.1]

instance : Row.Lawful FieldRow where
  layout_ne_nil := List.cons_ne_nil _ _
  ofCells_toCells row h _ := by
    have hname := List.forall_mem_singleton.mp h
    change { row with name := withoutQuotes row.name } = row
    rw [withoutQuotes_eq_self hname.1]

instance : Row.Lawful FragmentRow where
  layout_ne_nil := List.cons_ne_nil _ _
  ofCells_toCells row h _ := by
    obtain ⟨hname, hrest⟩ := List.forall_mem_cons.mp h
    have hvalue := List.forall_mem_singleton.mp hrest
    change { row with name := withoutQuotes row.name, modValue := withoutQuotes row.modValue } = row
    rw [withoutQuotes_eq_self hname.1, withoutQuotes_eq_self hvalue.1]

namespace Table

section ReadBack

variable {K R : Type} [DecidableEq K] [Row K R]

/-- A text with a line for each row gives a table of these rows and no others. -/
def AreReadBack (rows : List (Spelling × R)) : Prop :=
  (ofText (Row.text rows) : Table K R).skipped = 0 ∧
    (ofText (Row.text rows) : Table K R).toList = rows.map Prod.snd

/-- Rows whose keys differ are read back, as long as their texts can stand between quotes. -/
theorem areReadBack [Row.Lawful R] {rows : List (Spelling × R)}
    (hkeys : (rows.map fun r => Row.key r.2).Nodup) (h : ∀ r ∈ rows, Row.IsWritable r.2)
    (hkeyed : ∀ r ∈ rows, Row.IsKeyed r.2) : AreReadBack rows := by
  have hlines := Row.linesOf_text h
  constructor
  · rw [ofText, hlines, skipped_ofLines, List.countP_map, List.countP_eq_zero]
    intro r hr
    simp [Row.parse_line (h r hr) (hkeyed r hr), Except.toOption]
  · rw [ofText, hlines, toList_ofLines, Row.accepted_lines h hkeyed]
    refine Row.standing_eq_self ?_
    rwa [List.map_map]

end ReadBack

/-- Tables of rows of a type can be written and read again, each row with its numbers in either
spelling, if all else that the rows hold follows from what is written. -/
def ReadsBack (R : Type) {K : Type} [DecidableEq K] [Row K R] (follows : R → Prop) : Prop :=
  ∀ rows : List (Spelling × R), (rows.map fun r => Row.key r.2).Nodup →
    (∀ r ∈ rows, Row.IsWritable r.2) → (∀ r ∈ rows, follows r.2) → AreReadBack rows

/-- **Every table can be written and read again.** The unique id of an entity is not written; it has
to follow from the type and the key. -/
theorem rows_read_back :
    ReadsBack EntityRow (fun row => row.uniqueId = EntityRow.idOf row.typeCode row.key) ∧
      ReadsBack EntryRow (fun _ => True) ∧ ReadsBack EnumRow (fun _ => True) ∧
      ReadsBack FieldRow (fun _ => True) ∧ ReadsBack FragmentRow (fun _ => True) := by
  refine ⟨fun rows hkeys h hids => areReadBack hkeys h fun r hr => ?_, ?_, ?_, ?_, ?_⟩
  · exact (EntityRow.isKeyed_iff (h r hr)).mpr (hids r hr)
  -- the keys of the other rows are made of numbers that are written
  all_goals exact fun rows hkeys h _ => areReadBack hkeys h fun _ _ => rfl

/-- Separators, blanks and returns stay in the texts, and numbers may be the least or the greatest,
in either spelling. -/
theorem hard_rows_read_back :
    AreReadBack (R := EntityRow)
      [(.decimal, ⟨"1. 2^3.4\t", 1, " 2^3,4\t", "\r", -1, none, true, none⟩),
        (.hexadecimal,
          ⟨"1.2^3.4", 1, "2^3,4", "", Int64.minValue, some 0, false, some Int64.maxValue⟩)] ∧
    AreReadBack (R := EntryRow)
      [(.hexadecimal, ⟨1, Int64.minValue, " ^", none⟩),
        (.decimal, ⟨1, Int64.maxValue, "^ ", some Int64.minValue⟩),
        (.hexadecimal, ⟨2, 255, "", none⟩)] ∧
    AreReadBack (R := EnumRow)
      [(.decimal, ⟨1, "a^b\r", 0, true⟩), (.decimal, ⟨-1, "\r\t ", 2, false⟩)] ∧
    AreReadBack (R := FieldRow)
      [(.decimal, ⟨7, "^^", 8, 2, 0, true, none, true⟩),
        (.decimal, ⟨6, " speed ", Int64.maxValue, -1, 0, false, some 3, false⟩)] ∧
    AreReadBack (R := FragmentRow)
      [(.decimal, ⟨1, 1, 0, 7, "a", -1, 0, " "⟩),
        (.decimal, ⟨1, 0, 1, 2, "^", 0, -1, "b^c\r"⟩)] := by
  obtain ⟨hentities, hentries, henums, hfields, hfragments⟩ := rows_read_back
  exact ⟨hentities _ (by decide +kernel) (by decide +kernel) (by decide +kernel),
    hentries _ (by decide +kernel) (by decide +kernel) fun _ _ => trivial,
    henums _ (by decide +kernel) (by decide +kernel) fun _ _ => trivial,
    hfields _ (by decide +kernel) (by decide +kernel) fun _ _ => trivial,
    hfragments _ (by decide +kernel) (by decide +kernel) fun _ _ => trivial⟩

end Table

end WireDictionary
