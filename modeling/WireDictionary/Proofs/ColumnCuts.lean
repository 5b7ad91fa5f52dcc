import WireDictionary.Column.Split
import Mathlib.Data.List.Infix

/-! # A line is cut in one way

`IsCut` says which segments a line may be cut into, without scanning it: every
segment is quoted or bare, and what a bare segment may look like depends on the
whole rest of the line. Each line has a cut, it has no other, and the columns
that the scanner finds are those of the cut.
-/
namespace WireDictionary.Column

/-! ## Cuts -/

/-- A part of a line between two separators, and the column that it stands for. -/
structure Segment where
  raw : List Char
  column : List Char
  deriving DecidableEq, Repr

/-- Texts with a separator between each two. -/
def joined (texts : List (List Char)) : List Char := [separator].intercalate texts

/-- Whether a column that opened before `rest` can close in it: there is a quote at the end or
before a separator. -/
def HasClosing (rest : List Char) : Prop :=
  ∃ before after, rest = before ++ '"' :: after ∧ (after = [] ∨ after.head? = some separator)

namespace Segment

/-- The column stands between quotes, and no quote in it could have closed it. -/
def IsQuoted (s : Segment) : Prop :=
  s.raw = '"' :: s.column ++ ['"'] ∧ ¬ ['"', separator] <:+: s.column

/-- The segment holds no separator and gives up the quotes at its ends. It may open with a quote
only if nothing closes it in `line`, the line from the segment on. -/
def IsBare (s : Segment) (line : List Char) : Prop :=
  separator ∉ s.raw ∧ s.column = Text.strip (· == '"') s.raw ∧
    (s.raw.head? ≠ some '"' ∨ ¬ HasClosing line.tail)

/-- Whether a line may start with the segment. -/
def Opens (s : Segment) (line : List Char) : Prop := s.IsQuoted ∨ s.IsBare line

end Segment

/-- Segments that a line may be cut into. -/
structure IsCut (line : List Char) (segments : List Segment) : Prop where
  ne_nil : segments ≠ []
  joins : line = joined (segments.map Segment.raw)
  opens : ∀ before s after, segments = before ++ s :: after →
    s.Opens (joined ((s :: after).map Segment.raw))

/-- What follows a segment: nothing, or a separator and the rest of the line. -/
def continued : Option (List Char) → List Char
  | none => []
  | some next => separator :: next

/-- The segments of what follows a segment. -/
def IsContinued : Option (List Char) → List Segment → Prop
  | none, segments => segments = []
  | some next, segments => IsCut next segments

theorem joined_cons (text : List Char) (texts : List (List Char)) :
    joined (text :: texts) =
      text ++ continued (if texts = [] then none else some (joined texts)) := by
  cases texts with
  | nil => simp [joined, continued]
  | cons other texts => simp [joined, continued, List.intercalate]

/-- A cut is a first segment and a cut of the line behind it, if the line goes on. -/
theorem isCut_cons_iff {line : List Char} {s : Segment} {segments : List Segment} :
    IsCut line (s :: segments) ↔ s.Opens line ∧
      ∃ next, line = s.raw ++ continued next ∧ IsContinued next segments := by
  constructor
  · intro h
    have hopens := h.opens [] s segments rfl
    have hline := h.joins
    rw [← hline] at hopens
    rw [List.map_cons, joined_cons] at hline
    refine ⟨hopens, _, hline, ?_⟩
    by_cases hs : segments = []
    · rw [hs]
      rfl
    · rw [if_neg (by simpa using hs)]
      refine ⟨hs, rfl, ?_⟩
      intro before t after he
      exact h.opens (s :: before) t after (by rw [he, List.cons_append])
  · rintro ⟨hopens, next, hline, hnext⟩
    have hjoined : line = joined ((s :: segments).map Segment.raw) := by
      rw [List.map_cons, joined_cons, hline]
      cases next with
      | none =>
        obtain rfl : segments = [] := hnext
        rfl
      | some next => rw [if_neg (by simpa using hnext.ne_nil), ← hnext.joins]
    refine ⟨by simp, hjoined, ?_⟩
    intro before t after he
    cases before with
    | nil =>
      obtain ⟨rfl, rfl⟩ := List.cons.inj he
      rwa [← hjoined]
    | cons b before =>
      obtain ⟨-, rfl⟩ := List.cons.inj he
      cases next with
      | none => simp [IsContinued] at hnext
      | some next => exact hnext.opens before t after rfl

/-! ## The first segment -/

@[simp] theorem tail?_continued (next : Option (List Char)) : (continued next).tail? = next := by
  cases next <;> rfl

theorem eq_continued_iff {rest : List Char} :
    rest = continued rest.tail? ↔ rest = [] ∨ rest.head? = some separator := by
  cases rest with
  | nil => simp [continued]
  | cons c rest => simp [continued]

theorem endsBefore_iff {rest : List Char} :
    endsBefore rest = true ↔ rest = continued rest.tail? := by
  rw [eq_continued_iff, endsBefore, Bool.or_eq_true, List.isEmpty_iff, beq_iff_eq]

/-- A text and a quote behind it end a column only if the text starts with a separator. -/
theorem endsBefore_append_quote {text : List Char} {next : Option (List Char)} :
    endsBefore (text ++ '"' :: continued next) = true ↔ text.head? = some separator := by
  cases text with
  | nil => simp [endsBefore, separator]
  | cons c text => simp [endsBefore]

/-- A column closes at the first quote that can close it. -/
theorem closing?_eq_some_iff {line text : List Char} {next : Option (List Char)} :
    closing? line = some (text, next) ↔
      line = text ++ '"' :: continued next ∧ ¬ ['"', separator] <:+: text := by
  induction line generalizing text with
  | nil => simp [closing?]
  | cons c rest ih =>
    rw [closing?]
    split
    · rename_i hc
      obtain ⟨rfl, hends⟩ := hc
      constructor
      · intro h
        obtain ⟨rfl, rfl⟩ := Prod.mk.inj (Option.some.inj h)
        rw [← endsBefore_iff.mp hends]
        simp
      · rintro ⟨hline, hfree⟩
        cases text with
        | nil =>
          rw [(List.cons.inj hline).2, tail?_continued]
        | cons d text =>
          obtain ⟨rfl, rfl⟩ := List.cons.inj hline
          obtain ⟨tail, htail⟩ := List.head?_eq_some_iff.mp (endsBefore_append_quote.mp hends)
          exact absurd ⟨[], tail, by simp [htail]⟩ hfree
    · rename_i hc
      constructor
      · intro h
        obtain ⟨⟨found, after⟩, hfound, he⟩ := Option.map_eq_some_iff.mp h
        obtain ⟨rfl, rfl⟩ := Prod.mk.inj he
        obtain ⟨hrest, hfree⟩ := ih.mp hfound
        refine ⟨by rw [hrest, List.cons_append], ?_⟩
        intro hin
        rcases List.infix_cons_iff.mp hin with hpre | hin
        · -- the quote in front of the text would have closed the column
          obtain ⟨rfl, tail, rfl⟩ := List.cons_prefix_cons.mp hpre
          refine hc ⟨rfl, ?_⟩
          rw [hrest, endsBefore_append_quote]
          rfl
        · exact hfree hin
      · rintro ⟨hline, hfree⟩
        cases text with
        | nil =>
          obtain ⟨rfl, rfl⟩ := List.cons.inj hline
          exact absurd ⟨rfl, endsBefore_iff.mpr (by rw [tail?_continued])⟩ hc
        | cons d text =>
          obtain ⟨rfl, hrest⟩ := List.cons.inj hline
          have hin : ¬ ['"', separator] <:+: text := fun h => hfree (List.infix_cons h)
          rw [ih.mpr ⟨hrest, hin⟩]
          rfl

/-- What can close a column closes it, at the latest at that place. -/
theorem closing?_eq_none_iff {line : List Char} : closing? line = none ↔ ¬ HasClosing line := by
  constructor
  · rintro hnone ⟨before, after, rfl, hafter⟩
    induction before with
    | nil =>
      rw [List.nil_append, closing?,
        if_pos ⟨rfl, endsBefore_iff.mpr (eq_continued_iff.mpr hafter)⟩] at hnone
      cases hnone
    | cons c before ih =>
      rw [List.cons_append, closing?] at hnone
      split at hnone
      · cases hnone
      · exact ih (Option.map_eq_none_iff.mp hnone)
  · intro hnot
    cases h : closing? line with
    | none => rfl
    | some found =>
      obtain ⟨hline, -⟩ := closing?_eq_some_iff.mp h
      exact absurd ⟨found.1, continued found.2, hline,
        eq_continued_iff.mp (by rw [tail?_continued])⟩ hnot

theorem bare_append {raw : List Char} (h : separator ∉ raw) (next : Option (List Char)) :
    bare (raw ++ continued next) = (Text.strip (· == '"') raw, next) := by
  have hpos : ∀ c ∈ raw, (c != separator) = true := by
    intro c hc
    rw [bne_iff_ne]
    rintro rfl
    exact h hc
  have hstop : (continued next).takeWhile (· != separator) = [] ∧
      (continued next).dropWhile (· != separator) = continued next := by
    cases next <;> simp [continued]
  rw [bare, List.takeWhile_append_of_pos hpos, List.dropWhile_append_of_pos hpos, hstop.1, hstop.2,
    List.append_nil, tail?_continued]

/-- Every line is what stands before its first separator, and what follows. -/
theorem exists_bare (line : List Char) :
    ∃ raw next, separator ∉ raw ∧ line = raw ++ continued next := by
  induction line with
  | nil => exact ⟨[], none, by simp, rfl⟩
  | cons c line ih =>
    by_cases hc : c = separator
    · exact ⟨[], some line, by simp, by rw [hc]; rfl⟩
    · obtain ⟨raw, next, hraw, rfl⟩ := ih
      refine ⟨c :: raw, next, ?_, rfl⟩
      rw [List.mem_cons, not_or]
      exact ⟨fun h => hc h.symm, hraw⟩

theorem first_quote (line : List Char) :
    first ('"' :: line) = (closing? line).getD (bare ('"' :: line)) := rfl

theorem first_of_head?_ne {line : List Char} (h : line.head? ≠ some '"') :
    first line = bare line := by
  unfold first
  split
  · exact absurd rfl h
  · rfl

/-- A line is read like one without quotes if it does not open with one, or if nothing closes it. -/
theorem first_eq_bare {line : List Char} (h : line.head? ≠ some '"' ∨ ¬ HasClosing line.tail) :
    first line = bare line := by
  by_cases hq : line.head? = some '"'
  · obtain ⟨rest, rfl⟩ := List.head?_eq_some_iff.mp hq
    have hnone : closing? rest = none := closing?_eq_none_iff.mpr (h.resolve_left fun hn => hn hq)
    rw [first_quote, hnone, Option.getD_none]
  · exact first_of_head?_ne hq

theorem head?_append_continued (raw : List Char) (next : Option (List Char)) :
    (raw ++ continued next).head? = some '"' ↔ raw.head? = some '"' := by
  cases raw with
  | nil => cases next <;> simp [continued, separator]
  | cons c raw => simp

/-- The first column of a line is that of the segment that the line may start with. -/
theorem first_eq_iff {line column : List Char} {next : Option (List Char)} :
    first line = (column, next) ↔
      ∃ s : Segment, s.column = column ∧ line = s.raw ++ continued next ∧ s.Opens line := by
  constructor
  · intro h
    have hbare : first line = bare line → (line.head? ≠ some '"' ∨ ¬ HasClosing line.tail) →
        ∃ s : Segment, s.column = column ∧ line = s.raw ++ continued next ∧ s.Opens line := by
      intro hfirst hopen
      obtain ⟨raw, after, hraw, rfl⟩ := exists_bare line
      rw [hfirst, bare_append hraw] at h
      obtain ⟨rfl, rfl⟩ := Prod.mk.inj h
      rw [ne_eq, head?_append_continued] at hopen
      exact ⟨⟨raw, _⟩, rfl, rfl, .inr ⟨hraw, rfl, hopen⟩⟩
    by_cases hq : line.head? = some '"'
    · obtain ⟨rest, rfl⟩ := List.head?_eq_some_iff.mp hq
      cases hc : closing? rest with
      | none =>
        exact hbare (by rw [first_quote, hc, Option.getD_none])
          (.inr (closing?_eq_none_iff.mp hc))
      | some found =>
        rw [first_quote, hc, Option.getD_some] at h
        subst h
        obtain ⟨rfl, hfree⟩ := closing?_eq_some_iff.mp hc
        exact ⟨⟨'"' :: column ++ ['"'], column⟩, rfl, by simp, .inl ⟨rfl, hfree⟩⟩
    · exact hbare (first_of_head?_ne hq) (.inl hq)
  · rintro ⟨s, rfl, hline, hquoted | ⟨hraw, hcolumn, hopen⟩⟩
    · obtain ⟨hraw, hfree⟩ := hquoted
      have hrest : line = '"' :: (s.column ++ '"' :: continued next) := by
        rw [hline, hraw]
        simp
      rw [hrest, first_quote, closing?_eq_some_iff.mpr ⟨rfl, hfree⟩, Option.getD_some]
    · have hopen' : line.head? ≠ some '"' ∨ ¬ HasClosing line.tail := by
        rwa [hline, ne_eq, head?_append_continued, ← hline]
      rw [first_eq_bare hopen', hline, bare_append hraw, ← hcolumn]

/-- A line may start with one segment only. -/
theorem segment_unique {line : List Char} {s t : Segment} {next after : Option (List Char)}
    (hs : line = s.raw ++ continued next) (ht : line = t.raw ++ continued after)
    (hso : s.Opens line) (hto : t.Opens line) : s = t ∧ next = after := by
  have hfirst := first_eq_iff.mpr ⟨s, rfl, hs, hso⟩
  rw [first_eq_iff.mpr ⟨t, rfl, ht, hto⟩] at hfirst
  obtain ⟨hcolumn, rfl⟩ := Prod.mk.inj hfirst
  have hraw : s.raw = t.raw := List.append_cancel_right (hs.symm.trans ht)
  refine ⟨?_, rfl⟩
  cases s
  cases t
  simp_all

/-! ## The whole line -/

/-- The scanner finds the columns of a cut. -/
theorem exists_isCut (line : List Char) :
    ∃ segments, IsCut line segments ∧ splitChars line = segments.map Segment.column := by
  fun_induction splitChars line with
  | case1 line hnext =>
    have hfirst : first line = ((first line).1, none) := Prod.ext rfl hnext
    obtain ⟨s, hcolumn, hline, hopens⟩ := first_eq_iff.mp hfirst
    exact ⟨[s], isCut_cons_iff.mpr ⟨hopens, none, hline, rfl⟩, by rw [← hcolumn]; rfl⟩
  | case2 line next hnext ih =>
    have hfirst : first line = ((first line).1, some next) := Prod.ext rfl hnext
    obtain ⟨s, hcolumn, hline, hopens⟩ := first_eq_iff.mp hfirst
    obtain ⟨segments, hcut, hcolumns⟩ := ih
    exact ⟨s :: segments, isCut_cons_iff.mpr ⟨hopens, some next, hline, hcut⟩,
      by rw [hcolumns, ← hcolumn]; rfl⟩

/-- A line has no second cut. -/
theorem IsCut.unique {line : List Char} {segments others : List Segment} (h : IsCut line segments)
    (h' : IsCut line others) : segments = others := by
  induction segments generalizing line others with
  | nil => exact absurd rfl h.ne_nil
  | cons s segments ih =>
    cases others with
    | nil => exact absurd rfl h'.ne_nil
    | cons t others =>
      obtain ⟨hso, next, hs, hsegments⟩ := isCut_cons_iff.mp h
      obtain ⟨hto, after, ht, hothers⟩ := isCut_cons_iff.mp h'
      obtain ⟨rfl, rfl⟩ := segment_unique hs ht hso hto
      cases next with
      | none =>
        obtain rfl : segments = [] := hsegments
        obtain rfl : others = [] := hothers
        rfl
      | some next => rw [ih hsegments hothers]

/-- **A line is cut in exactly one way**, and its columns are those of the cut. -/
theorem split_unique_cut (line : String) : ∃ segments, IsCut line.toList segments ∧
    split line = segments.map (fun s => String.ofList s.column) ∧
    ∀ others, IsCut line.toList others → others = segments := by
  obtain ⟨segments, hcut, hcolumns⟩ := exists_isCut line.toList
  refine ⟨segments, hcut, ?_, fun others h => h.unique hcut⟩
  rw [split, hcolumns, List.map_map]
  rfl

-- the last quote opens nothing, as nothing closes it
example : split "1^\"a^b\"^\"open^2" = ["1", "a^b", "open", "2"] := by decide +kernel

end WireDictionary.Column
