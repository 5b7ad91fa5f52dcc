import WireDictionary.Proofs.StandingRows
import WireDictionary.Proofs.WrittenRows

/-! # What the texts of a row are made of

The texts of a row that was read are columns of its line without double quotes,
and a column is a part of the line: nothing is unescaped on the way. So whatever
the lines of a table are, the rows that they yield have no quotes and no line feeds
in their texts, and each of them could be written again
(`isWritable_of_mem_accepted`).
-/
namespace WireDictionary

/-! ## Columns are parts of lines -/

namespace Column

theorem mem_joined {texts : List (List Char)} {text : List Char} (h : text ∈ texts) {c : Char}
    (hc : c ∈ text) : c ∈ joined texts := by
  induction texts with
  | nil => cases h
  | cons first texts ih =>
    rw [joined_cons, List.mem_append]
    rcases List.mem_cons.mp h with rfl | h
    · exact .inl hc
    · right
      rw [if_neg (List.ne_nil_of_mem h)]
      exact List.mem_cons_of_mem _ (ih h)

theorem IsCut.mem_line {line : List Char} {segments : List Segment} (h : IsCut line segments)
    {s : Segment} (hs : s ∈ segments) {c : Char} (hc : c ∈ s.column) : c ∈ line := by
  obtain ⟨before, after, hsplit⟩ := List.append_of_mem hs
  have hraw : c ∈ s.raw := by
    rcases h.opens before s after hsplit with hquoted | hbare
    · rw [hquoted.1]
      exact List.mem_append_left _ (List.mem_cons_of_mem _ hc)
    · rw [hbare.2.1] at hc
      exact Text.mem_of_mem_strip hc
  rw [h.joins]
  exact mem_joined (List.mem_map_of_mem hs) hraw

theorem mem_of_mem_splitChars {line text : List Char} (h : text ∈ splitChars line) {c : Char}
    (hc : c ∈ text) : c ∈ line := by
  obtain ⟨segments, hcut, hcolumns⟩ := exists_isCut line
  rw [hcolumns] at h
  obtain ⟨s, hs, rfl⟩ := List.mem_map.mp h
  exact hcut.mem_line hs hc

end Column

/-! ## Texts are columns -/

theorem ColumnKind.column?_of_mem_texts {kind : ColumnKind} {column? : Option String}
    {cell : kind.Cell} (h : kind.cell? column? = some cell) {text : String}
    (ht : text ∈ kind.texts cell) : column? = some text := by
  cases kind with
  | text =>
    rw [List.mem_singleton.mp ht]
    exact h
  | integer | literal | flag | optionalInteger | optionalFlag => cases ht

namespace Cursor

variable {α β : Type}

/-- Reading yields texts that are columns, and the columns stay as they are. -/
def ReadsTexts (r : Reader α) (texts : α → List String) : Prop :=
  ∀ (c c' : Cursor) (a : α), r.run c = .ok a c' →
    c'.columns = c.columns ∧ ∀ text ∈ texts a, text ∈ c.columns

theorem run_bind_eq_ok_iff {r : Reader α} {f : α → Reader β} {c c' : Cursor} {b : β} :
    (r >>= f).run c = .ok b c' ↔
      ∃ a between, r.run c = .ok a between ∧ (f a).run between = .ok b c' := by
  rw [EStateM.run_bind]
  cases r.run c <;> simp

theorem readsTexts_next (kind : ColumnKind) : ReadsTexts (next kind) kind.texts := by
  intro c c' cell h
  cases next_run_eq_iff.mp h with
  | held hcolumn hcell | absent hcolumn hcell =>
    refine ⟨rfl, fun text ht => ?_⟩
    have htext := ColumnKind.column?_of_mem_texts hcell ht
    exact List.mem_of_getElem? (hcolumn.trans htext)

theorem readsTexts_cells (kinds : List ColumnKind) :
    ReadsTexts (cells kinds) (Cells.texts kinds) := by
  induction kinds with
  | nil =>
    intro c c' a h
    cases h
    exact ⟨rfl, fun text ht => by cases ht⟩
  | cons kind kinds ih =>
    intro c c' a h
    obtain ⟨cell, between, hcell, h⟩ := run_bind_eq_ok_iff.mp h
    obtain ⟨rest, last, hrest, hpure⟩ := run_bind_eq_ok_iff.mp h
    cases hpure
    obtain ⟨hbetween, hcellTexts⟩ := readsTexts_next kind _ _ _ hcell
    obtain ⟨hlast, hrestTexts⟩ := ih _ _ _ hrest
    rw [hbetween] at hlast hrestTexts
    refine ⟨hlast, fun text ht => ?_⟩
    rcases List.mem_append.mp ht with ht | ht
    · exact hcellTexts text ht
    · exact hrestTexts text ht

end Cursor

/-! ## Rows that were read -/

namespace Row

variable {K R : Type} [Row K R]

/-- Rows of the type hold the texts of their cells without the quotes in them. -/
class Unquoted (R : Type) {K : Type} [Row K R] : Prop where
  texts_ofCells : ∀ cells : Cells (layout R),
    Cells.texts (layout R) (toCells (ofCells cells : R)) =
      (Cells.texts (layout R) cells).map withoutQuotes
  name_mem_texts : ∀ row : R, name row ∈ Cells.texts (layout R) (toCells row)

/-- The texts of a row are made of characters of its line, and quotes are not among them. -/
theorem mem_line_of_parse [Unquoted R] {line : String} {row : R} (h : parse R line = .ok row)
    {text : String} (ht : text ∈ Cells.texts (layout R) (toCells row)) {c : Char}
    (hc : c ∈ text.toList) : c ∈ line.toList ∧ c ≠ '"' := by
  simp only [parse] at h
  split at h
  · cases h
  · split at h
    · rename_i cells c' hrun
      cases h
      rw [Unquoted.texts_ofCells] at ht
      obtain ⟨column, hcolumn, rfl⟩ := List.mem_map.mp ht
      rw [withoutQuotes, String.toList_ofList] at hc
      obtain ⟨hc, hquote⟩ := List.mem_filter.mp hc
      refine ⟨?_, bne_iff_ne.mp hquote⟩
      have hmem := (Cursor.readsTexts_cells (layout R) _ _ _ hrun).2 column hcolumn
      obtain ⟨chars, hchars, rfl⟩ := List.mem_map.mp hmem
      rw [String.toList_ofList] at hc
      exact Text.mem_of_mem_strip (Column.mem_of_mem_splitChars hchars hc)
    · cases h

theorem exists_parse_of_mem_accepted {lines : List String} {row : R} (h : row ∈ accepted R lines) :
    ∃ line ∈ lines, parse R line = .ok row := by
  obtain ⟨line, hline, hrow⟩ := List.mem_filterMap.mp h
  refine ⟨line, hline, ?_⟩
  cases hp : parse R line with
  | ok other =>
    rw [hp] at hrow
    exact congrArg _ (Option.some.inj hrow)
  | error fault =>
    rw [hp] at hrow
    cases hrow

/-- Rows that were read from the lines of a text could have been written. -/
theorem isWritable_of_mem_accepted [Unquoted R] {text : String} {row : R}
    (h : row ∈ accepted R (Text.linesOf text)) : IsWritable row := by
  obtain ⟨line, hline, hparse⟩ := exists_parse_of_mem_accepted h
  obtain ⟨chars, hchars, rfl⟩ := List.mem_map.mp hline
  intro text ht
  refine ⟨fun hc => (mem_line_of_parse hparse ht hc).2 rfl, fun hc => ?_⟩
  have hfeed := (mem_line_of_parse hparse ht hc).1
  rw [String.toList_ofList] at hfeed
  exact Text.not_mem_of_mem_lines hchars hfeed

/-- The name of a row that was read has no line feed. -/
theorem feed_not_mem_name [Unquoted R] {text : String} {row : R}
    (h : row ∈ accepted R (Text.linesOf text)) : '\n' ∉ (name row).toList :=
  (isWritable_of_mem_accepted h _ (Unquoted.name_mem_texts row)).2

end Row

/-- The unique id of an entity that was read is made of its type and its key. -/
theorem EntityRow.uniqueId_of_mem_accepted {lines : List String} {row : EntityRow}
    (h : row ∈ Row.accepted EntityRow lines) : row.uniqueId = idOf row.typeCode row.key := by
  obtain ⟨line, -, hparse⟩ := Row.exists_parse_of_mem_accepted h
  exact (Row.areRead.isAt line row hparse).uniqueId

instance : Row.Unquoted EntityRow where
  texts_ofCells _ := rfl
  name_mem_texts _ := List.mem_cons_of_mem _ List.mem_cons_self

instance : Row.Unquoted EntryRow where
  texts_ofCells _ := rfl
  name_mem_texts _ := List.mem_cons_self

instance : Row.Unquoted EnumRow where
  texts_ofCells _ := rfl
  name_mem_texts _ := List.mem_cons_self

instance : Row.Unquoted FieldRow where
  texts_ofCells _ := rfl
  name_mem_texts _ := List.mem_cons_self

instance : Row.Unquoted FragmentRow where
  texts_ofCells _ := rfl
  name_mem_texts _ := List.mem_cons_self

end WireDictionary
