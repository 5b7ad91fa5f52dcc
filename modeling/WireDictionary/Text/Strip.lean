/-! Removing unwanted characters from the ends of a text. -/

namespace WireDictionary.Text

/-- The text without the characters at its end that satisfy `p`. -/
def stripEnd (p : Char → Bool) (cs : List Char) : List Char :=
  (cs.reverse.dropWhile p).reverse

/-- The text without the characters at either end that satisfy `p`. -/
def strip (p : Char → Bool) (cs : List Char) : List Char :=
  stripEnd p (cs.dropWhile p)

theorem stripEnd_append_of_pos {p : Char → Bool} {c : Char} (h : p c = true) (cs : List Char) :
    stripEnd p (cs ++ [c]) = stripEnd p cs := by
  simp [stripEnd, h]

theorem stripEnd_append_of_neg {p : Char → Bool} {c : Char} (h : p c = false) (cs : List Char) :
    stripEnd p (cs ++ [c]) = cs ++ [c] := by
  simp [stripEnd, h]

/-- What is removed at the end is made of unwanted characters only. -/
theorem eq_stripEnd_append (p : Char → Bool) (cs : List Char) :
    ∃ removed, cs = stripEnd p cs ++ removed ∧ ∀ c ∈ removed, p c = true := by
  refine ⟨(cs.reverse.takeWhile p).reverse, ?_, ?_⟩
  · rw [stripEnd, ← List.reverse_append, List.takeWhile_append_dropWhile, List.reverse_reverse]
  · intro c hc
    exact List.all_eq_true.mp List.all_takeWhile c (List.mem_reverse.mp hc)

theorem getLast?_stripEnd {p : Char → Bool} {cs : List Char} {c : Char}
    (h : (stripEnd p cs).getLast? = some c) : p c = false := by
  rw [stripEnd, List.getLast?_reverse] at h
  have := List.head?_dropWhile_not p cs.reverse
  rw [h] at this
  exact Bool.eq_false_iff.mpr (by simpa using this)

theorem mem_of_mem_stripEnd {p : Char → Bool} {cs : List Char} {c : Char}
    (h : c ∈ stripEnd p cs) : c ∈ cs := by
  obtain ⟨removed, he, -⟩ := eq_stripEnd_append p cs
  rw [he]
  exact List.mem_append_left _ h

theorem mem_of_mem_strip {p : Char → Bool} {cs : List Char} {c : Char} (h : c ∈ strip p cs) :
    c ∈ cs :=
  (List.dropWhile_sublist p).subset (mem_of_mem_stripEnd h)

/-- A text without unwanted characters at its ends stays as it is. -/
theorem strip_eq_self {p : Char → Bool} {cs : List Char} (hhead : ∀ c ∈ cs.head?, p c = false)
    (hlast : ∀ c ∈ cs.getLast?, p c = false) : strip p cs = cs := by
  have hdrop : cs.dropWhile p = cs := by
    cases cs with
    | nil => rfl
    | cons c rest => simp [hhead c rfl]
  rw [strip, hdrop]
  rcases List.eq_nil_or_concat cs with rfl | ⟨front, c, hcs⟩
  · rfl
  · rw [List.concat_eq_append] at hcs
    subst hcs
    exact stripEnd_append_of_neg (hlast c (by simp)) front

/-- An unwanted character at the end makes no difference. -/
theorem strip_append_of_pos {p : Char → Bool} {c : Char} (h : p c = true) (cs : List Char) :
    strip p (cs ++ [c]) = strip p cs := by
  rw [strip, strip, List.dropWhile_append]
  split
  · rename_i hd
    rw [List.isEmpty_iff.mp hd]
    simp [h]
  · exact stripEnd_append_of_pos h _

/-- A stripped text does not end in an unwanted character. -/
theorem getLast?_strip {p : Char → Bool} {cs : List Char} {c : Char}
    (h : (strip p cs).getLast? = some c) : p c = false :=
  getLast?_stripEnd h

/-- A stripped text does not start with an unwanted character. -/
theorem head?_strip {p : Char → Bool} {cs : List Char} {c : Char}
    (h : (strip p cs).head? = some c) : p c = false := by
  obtain ⟨removed, he, -⟩ := eq_stripEnd_append p (cs.dropWhile p)
  have hd := List.head?_dropWhile_not p cs
  have hh : (cs.dropWhile p).head? = some c := by
    rw [he, List.head?_append]
    change (strip p cs).head?.or removed.head? = some c
    simp [h]
  rw [hh] at hd
  exact Bool.eq_false_iff.mpr (by simpa using hd)

end WireDictionary.Text
