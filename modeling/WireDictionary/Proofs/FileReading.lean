import WireDictionary.Proofs.DecodedText
import WireDictionary.Table

/-! # A file reads like its text

A table file is cut into lines as bytes, and a line keeps its line feed; a text is
cut as characters, and its lines are bare. Neither difference reaches a row: lines
may be cut before or after decoding, and a line is trimmed before it is read. So a
file gives the table of its decoded text, whatever its bytes are.
-/
namespace WireDictionary

namespace Text

/-- The break at the end of a piece is blank, so that trimming takes it away as well. -/
theorem trim_dropBreak (piece : List Char) : trim (dropBreak piece) = trim piece := by
  have hfeed : isBlank '\n' = true := by decide
  have hreturn : isBlank '\r' = true := by decide
  unfold dropBreak
  split
  · rename_i rest he
    have hp : piece = rest.reverse ++ ['\r'] ++ ['\n'] := by
      rw [← List.reverse_reverse piece, he]
      simp
    rw [hp, trim, trim, strip_append_of_pos hfeed, strip_append_of_pos hreturn]
  · rename_i rest _ he
    have hp : piece = rest.reverse ++ ['\n'] := by
      rw [← List.reverse_reverse piece, he]
      simp
    rw [hp, trim, trim, strip_append_of_pos hfeed]
  · rfl

end Text

variable {K R : Type} [Row K R]

/-- What a line yields does not depend on the blanks around it. -/
theorem Row.parse_eq_of_trim_eq {line other : String}
    (h : Text.trim line.toList = Text.trim other.toList) : parse R line = parse R other := by
  have hcursor : Cursor.ofLine line = Cursor.ofLine other := by
    rw [Cursor.ofLine, h]
    rfl
  rw [parse, hcursor]
  rfl

namespace Table

variable [DecidableEq K]

theorem push_eq_of_parse_eq {line other : String} (h : Row.parse R line = Row.parse R other)
    (t : Table K R) : t.push line = t.push other := by
  cases hother : Row.parse R other with
  | ok row => rw [push_of_ok hother, push_of_ok (h.trans hother)]
  | error fault => rw [push_of_error hother, push_of_error (h.trans hother)]

/-- Lines may be changed as long as each yields the row that it did. -/
theorem ofLines_map {α : Type} {f g : α → String} (l : List α)
    (h : ∀ a, Row.parse R (f a) = Row.parse R (g a)) :
    (ofLines (l.map f) : Table K R) = ofLines (l.map g) := by
  simp only [ofLines, pushAll_eq_foldl, List.foldl_map, push_eq_of_parse_eq (h _)]

/-- The lines of a file make the table that the lines of its text make. -/
theorem ofLines_lines_eq_ofText (bytes : List UInt8) :
    (ofLines (Source.lines { bytes }) : Table K R) =
      ofText (String.ofList (Text.Utf8.decode bytes)) := by
  have hfile : Source.lines { bytes } =
      (Text.pieces '\n' (Text.Utf8.decode bytes)).map String.ofList := by
    rw [Text.Utf8.pieces_decode, List.map_map]
    rfl
  have htext : Text.linesOf (String.ofList (Text.Utf8.decode bytes)) =
      (Text.pieces '\n' (Text.Utf8.decode bytes)).map fun piece =>
        String.ofList (Text.dropBreak piece) := by
    rw [Text.linesOf, Text.lines, String.toList_ofList, List.map_map]
    rfl
  rw [ofText, hfile, htext]
  refine ofLines_map _ fun piece => Row.parse_eq_of_trim_eq ?_
  rw [String.toList_ofList, String.toList_ofList, Text.trim_dropBreak]

/-- **Reading a file is reading its text.** A file without a fault, whether its bytes are UTF-8 or
not, gives the table of its decoded text: the same rows in the same order under the same keys and
names, and the same number of lines without a row. A text that is stored in a file and read again
gives the table of the text. -/
theorem ofSource_eq_ok_iff (s : Source) (t : Table K R) :
    (ofSource s = .ok t ↔
        s.fault? = none ∧ t = ofText (String.ofList (Text.Utf8.decode s.bytes))) ∧
      ∀ text : String, ofSource { bytes := text.toUTF8.data.toList } =
        (.ok (ofText text) : Except Fault (Table K R)) := by
  constructor
  · obtain ⟨bytes, fault?⟩ := s
    cases fault? with
    | none =>
      simp only [ofSource_eq, Except.ok.injEq, true_and]
      rw [ofLines_lines_eq_ofText]
      exact eq_comm
    | some fault => simp [ofSource_eq]
  · intro text
    simp only [ofSource_eq]
    rw [ofLines_lines_eq_ofText, Text.Utf8.decode_toUTF8, String.ofList_toList]

end Table

end WireDictionary
