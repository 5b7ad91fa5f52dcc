import WireDictionary.Text.Strip

/-! Cutting a line into columns. Columns are separated by `^`. A column that opens with a double
quote may hold separators: it closes at the first later quote that a separator or the end of the line
follows. If there is no such quote, the column is read like one without quotes, which ends at the
next separator and loses the quotes at its ends. -/

namespace WireDictionary.Column

def separator : Char := '^'

/-- Whether a column may end before the given rest of a line. -/
def endsBefore (rest : List Char) : Bool :=
  rest.isEmpty || rest.head? == some separator

/-- The text up to the closing quote of a column whose opening quote has been read, and the columns
after it, if the line goes on. -/
def closing? : List Char → Option (List Char × Option (List Char))
  | [] => none
  | c :: rest =>
    if c = '"' ∧ endsBefore rest then some ([], rest.tail?)
    else (closing? rest).map fun (text, next) => (c :: text, next)

def bare (line : List Char) : List Char × Option (List Char) :=
  (Text.strip (· == '"') (line.takeWhile (· != separator)),
    (line.dropWhile (· != separator)).tail?)

/-- The first column of a line, and the columns after it. -/
def first (line : List Char) : List Char × Option (List Char) :=
  match line with
  | '"' :: rest => (closing? rest).getD (bare line)
  | _ => bare line

theorem length_lt_of_tail? {α : Type} {l next : List α} (h : l.tail? = some next) :
    next.length < l.length := by
  cases l with
  | nil => simp at h
  | cons a rest =>
    simp only [List.tail?_cons, Option.some.injEq] at h
    subst h
    simp

theorem closing?_length {line text next : List Char} (h : closing? line = some (text, some next)) :
    next.length < line.length := by
  induction line generalizing text with
  | nil => simp [closing?] at h
  | cons c rest ih =>
    simp only [closing?] at h
    split at h
    · simp only [Option.some.injEq, Prod.mk.injEq] at h
      have := length_lt_of_tail? h.2
      simp only [List.length_cons]
      omega
    · obtain ⟨⟨t, n⟩, ht, he⟩ := Option.map_eq_some_iff.mp h
      simp only [Prod.mk.injEq] at he
      obtain ⟨-, rfl⟩ := he
      have := ih ht
      simp only [List.length_cons]
      omega

theorem bare_length {line next : List Char} (h : (bare line).2 = some next) :
    next.length < line.length := by
  have hd := (List.dropWhile_sublist (p := (· != separator)) (l := line)).length_le
  have := length_lt_of_tail? h
  omega

/-- What follows the first column is shorter than the line. -/
theorem first_length {line next : List Char} (h : (first line).2 = some next) :
    next.length < line.length := by
  unfold first at h
  split at h
  · rename_i rest
    cases hc : closing? rest with
    | none => rw [hc] at h; exact bare_length h
    | some found =>
      obtain ⟨text, after⟩ := found
      rw [hc] at h
      simp only [Option.getD_some] at h
      subst h
      have := closing?_length hc
      simp only [List.length_cons]
      omega
  · exact bare_length h

/-- The columns of a line. There is always at least one. -/
def splitChars (line : List Char) : List (List Char) :=
  match _h : (first line).2 with
  | none => [(first line).1]
  | some next => (first line).1 :: splitChars next
termination_by line.length
decreasing_by exact first_length _h

/-- The columns of a line. The line is taken as it is, blanks included. -/
def split (line : String) : List String := (splitChars line.toList).map String.ofList

end WireDictionary.Column
