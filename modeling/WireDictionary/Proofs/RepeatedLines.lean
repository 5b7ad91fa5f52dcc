import WireDictionary.Proofs.NamedRows
import WireDictionary.Proofs.PushedLines

/-! # Lines that are pushed again

While lines are pushed a second time, earlier rows take the places of later ones and
take their names back, so the table goes through other states than the first time. It
ends where it started: a table is settled by the order of the keys, the last row with
each key and the last row with each name (`Row.ShowAlike`), and the last row of a list
is the last row of the list twice over. Rows that come later keep two tables alike
(`ShowAlike.append`), so no line can tell whether others were pushed once or twice.
-/
namespace WireDictionary

theorem find?_reverse_append_self {α : Type} (p : α → Bool) (l : List α) :
    (l ++ l).reverse.find? p = l.reverse.find? p := by
  rw [List.reverse_append, List.find?_append, Option.or_self]

theorem eraseDups_append_self {α : Type} [DecidableEq α] (l : List α) :
    (l ++ l).eraseDups = l.eraseDups := by
  have hrepeated : l.removeAll l = [] := by simp [List.removeAll]
  rw [List.eraseDups_append, hrepeated, List.eraseDups_nil, List.append_nil]

namespace Row

theorem accepted_append {K : Type} (R : Type) [Row K R] (lines later : List String) :
    accepted R (lines ++ later) = accepted R lines ++ accepted R later :=
  List.filterMap_append

variable {K R : Type} [DecidableEq K] [Row K R] {rows others : List R}

/-- Rows that make tables which cannot be told apart. -/
structure ShowAlike (rows others : List R) : Prop where
  keys : keys rows = keys others
  last? : ∀ k, last? rows k = last? others k
  lastNamed? : ∀ n, lastNamed? rows n = lastNamed? others n

theorem ShowAlike.concat (h : ShowAlike rows others) (row : R) :
    ShowAlike (rows ++ [row]) (others ++ [row]) where
  keys := by rw [keys_concat, keys_concat, h.keys]
  last? k := by rw [last?_concat, last?_concat, h.last?]
  lastNamed? n := by rw [lastNamed?_concat, lastNamed?_concat, h.lastNamed?]

theorem ShowAlike.append (h : ShowAlike rows others) (later : List R) :
    ShowAlike (rows ++ later) (others ++ later) := by
  induction later using List.reverseRecOn with
  | nil =>
    rw [List.append_nil, List.append_nil]
    exact h
  | append_singleton later row ih =>
    rw [← List.append_assoc, ← List.append_assoc]
    exact ih.concat row

theorem ShowAlike.standing_eq (h : ShowAlike rows others) : standing rows = standing others := by
  rw [standing, standing, h.keys, funext h.last?]

/-- Rows twice over end like the rows. -/
theorem showAlike_append_self (rows : List R) : ShowAlike (rows ++ rows) rows where
  keys := by
    rw [keys, List.map_append, eraseDups_append_self]
    rfl
  last? _ := find?_reverse_append_self _ rows
  lastNamed? _ := find?_reverse_append_self _ rows

end Row

namespace Table

variable {K R : Type} [DecidableEq K] [Row K R]

theorem byName?_ofLines (lines : List String) (n : String) :
    (ofLines lines : Table K R).byName? n =
      (Row.lastNamed? (Row.accepted R lines) n).bind fun row =>
        Row.last? (Row.accepted R lines) (Row.key row) := by
  rw [ofLines_eq_ofWrites, byName?_ofWrites, written_map_line, byName?_ofRows]

theorem agree_ofLines {lines others : List String}
    (h : Row.ShowAlike (Row.accepted R lines) (Row.accepted R others)) :
    (ofLines lines : Table K R).Agree (ofLines others) where
  toList := by rw [toList_ofLines, toList_ofLines, h.standing_eq]
  get? k := by rw [get?_ofLines, get?_ofLines, h.last?]
  byName? n := by rw [byName?_ofLines, byName?_ofLines, h.lastNamed?, funext h.last?]

/-- **Pushing the same lines again only counts again.** The table shows the same rows in the same
order and answers alike for every key and every name, also after any further lines. The lines
without a row are counted a second time. -/
theorem lines_again_absorbed (lines : List String) :
    let once : Table K R := ofLines lines
    let twice : Table K R := once.pushAll lines
    twice.Agree once ∧ twice.skipped = 2 * once.skipped ∧
      ∀ later, (twice.pushAll later).Agree (once.pushAll later) := by
  intro once twice
  have htwice : twice = ofLines (lines ++ lines) := (pushAll_append empty lines lines).symm
  have halike : Row.ShowAlike (Row.accepted R (lines ++ lines)) (Row.accepted R lines) := by
    rw [Row.accepted_append]
    exact Row.showAlike_append_self _
  refine ⟨?_, ?_, ?_⟩
  · rw [htwice]
    exact agree_ofLines halike
  · rw [htwice, skipped_ofLines, skipped_ofLines, List.countP_append, Nat.two_mul]
  · intro later
    have hthen : ∀ before : List String, (ofLines before : Table K R).pushAll later =
        ofLines (before ++ later) := fun before => (pushAll_append empty before later).symm
    rw [htwice, hthen, hthen]
    refine agree_ofLines ?_
    rw [Row.accepted_append, Row.accepted_append R lines later]
    exact halike.append _

-- midway the row has its first name back, and both names lead to it
example :
    let once : Table Int64 FieldRow := ofLines ["1^a^8^2^0^0", "1^b^8^2^0^0"]
    once.toList.map FieldRow.name = ["b"] ∧
      (once.push "1^a^8^2^0^0").toList.map FieldRow.name = ["a"] ∧
      ((once.push "1^a^8^2^0^0").byName? "b").map FieldRow.name = some "a" := by
  decide +kernel

end Table

end WireDictionary
