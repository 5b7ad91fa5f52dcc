import WireDictionary.Identifier

/-! # The shape of identifiers, and the text behind a hyphen

An identifier has none of the characters that separate words in a display name and no
underscore at either end, whatever the name (`isShaped_ofCased`). The text behind the
first hyphen is cut off after the name has been put into its case. Lowercasing a sigma
looks at the text behind it, but never past a hyphen, which is neither a letter nor
passed over (`meetsCased_append_hyphen`); so what is cut off has not made a difference.
-/
namespace WireDictionary

/-! ## Case before a hyphen -/

namespace Text

theorem isCased_hyphen : isCased '-' = false := by decide +kernel

theorem isCaseIgnorable_hyphen : isCaseIgnorable '-' = false := by decide +kernel

theorem lowerOf_hyphen : lowerOf '-' = ['-'] := by decide +kernel

theorem upperOf_hyphen : upperOf '-' = ['-'] := by decide +kernel

/-- The search for a letter with a case ends at a hyphen without one. -/
theorem meetsCased_append_hyphen (cs rest : List Char) :
    meetsCased (cs ++ '-' :: rest) = meetsCased cs := by
  unfold meetsCased
  induction cs with
  | nil =>
    rw [List.nil_append, List.dropWhile_cons_of_neg (by simp [isCaseIgnorable_hyphen])]
    exact isCased_hyphen
  | cons c cs ih =>
    cases hc : isCaseIgnorable c with
    | true =>
      rw [List.cons_append, List.dropWhile_cons_of_pos hc, List.dropWhile_cons_of_pos hc, ih]
    | false =>
      have hstop : ¬ isCaseIgnorable c = true := by simp [hc]
      rw [List.cons_append, List.dropWhile_cons_of_neg hstop, List.dropWhile_cons_of_neg hstop]

theorem lowerAfter_append_hyphen (before cs rest : List Char) :
    lowerAfter before (cs ++ '-' :: rest) =
      lowerAfter before cs ++ '-' :: lowerAfter ('-' :: (cs.reverse ++ before)) rest := by
  induction cs generalizing before with
  | nil =>
    have hhyphen : '-' ≠ 'Σ' := by decide
    simp only [List.nil_append, lowerAfter, if_neg hhyphen, lowerOf_hyphen, List.reverse_nil]
    rfl
  | cons c cs ih =>
    have hends : endsWord before (cs ++ '-' :: rest) = endsWord before cs := by
      unfold endsWord
      rw [meetsCased_append_hyphen]
    rw [List.cons_append, lowerAfter, hends, ih, lowerAfter, List.append_assoc, List.reverse_cons,
      List.append_assoc]
    rfl

/-- A change of case for which nothing that precedes a hyphen depends on what follows it. -/
def StopsAtHyphen (change : List Char → List Char) : Prop :=
  ∀ cs rest, ∃ tail, change (cs ++ '-' :: rest) = change cs ++ '-' :: tail

theorem stopsAtHyphen_lower : StopsAtHyphen lower := by
  intro cs rest
  exact ⟨_, lowerAfter_append_hyphen [] cs rest⟩

theorem stopsAtHyphen_upper : StopsAtHyphen upper := by
  intro cs rest
  refine ⟨upper rest, ?_⟩
  unfold upper
  rw [List.flatMap_append, List.flatMap_cons, upperOf_hyphen]
  rfl

end Text

namespace Identifier

/-- The shape of an identifier: words joined by underscores. -/
structure IsShaped (cs : List Char) : Prop where
  no_space : ' ' ∉ cs
  no_slash : '/' ∉ cs
  no_hyphen : '-' ∉ cs
  head? : cs.head? ≠ some '_'
  getLast? : cs.getLast? ≠ some '_'

/-- The characters of an identifier come from its name. -/
theorem exists_of_mem_ofCased {cs : List Char} {c : Char} (h : c ∈ ofCased cs) :
    c ≠ '-' ∧ ∃ d ∈ cs, joiner d = c := by
  have hkept := Text.mem_of_mem_strip h
  have hstop : (c != '-') = true := List.all_eq_true.mp List.all_takeWhile c hkept
  exact ⟨bne_iff_ne.mp hstop, List.mem_map.mp ((List.takeWhile_sublist _).subset hkept)⟩

/-- What separates words in a display name is in no identifier. -/
theorem separator_not_mem_ofCased {sep : Char} (hsep : sep = ' ' ∨ sep = '/') (cs : List Char) :
    sep ∉ ofCased cs := by
  intro hmem
  obtain ⟨-, c, -, hc⟩ := exists_of_mem_ofCased hmem
  unfold joiner at hc
  split at hc
  · rcases hsep with rfl | rfl <;> cases hc
  · rename_i hother
    exact hother (hc ▸ hsep)

theorem isShaped_ofCased (cs : List Char) : IsShaped (ofCased cs) where
  no_space := separator_not_mem_ofCased (.inl rfl) cs
  no_slash := separator_not_mem_ofCased (.inr rfl) cs
  no_hyphen h := (exists_of_mem_ofCased h).1 rfl
  head? h := absurd (Text.head?_strip h) (by decide)
  getLast? h := absurd (Text.getLast?_strip h) (by decide)

theorem takeWhile_append_hyphen (cs tail : List Char) :
    (cs ++ '-' :: tail).takeWhile (· != '-') = cs.takeWhile (· != '-') := by
  have htail : ('-' :: tail).takeWhile (· != '-') = [] := rfl
  rw [List.takeWhile_append, htail, List.append_nil]
  split
  · rename_i hlength
    exact ((List.takeWhile_sublist _).eq_of_length hlength).symm
  · rfl

theorem ofCased_append_hyphen {change : List Char → List Char} (h : Text.StopsAtHyphen change)
    (a b : String) : ofCased (change (a ++ "-" ++ b).toList) = ofCased (change a.toList) := by
  obtain ⟨tail, htail⟩ := h a.toList b.toList
  have htext : (a ++ "-" ++ b).toList = a.toList ++ '-' :: b.toList := by simp
  have hhyphen : joiner '-' = '-' := by decide
  rw [htext, htail, ofCased, List.map_append, List.map_cons, hhyphen, takeWhile_append_hyphen,
    ofCased]

theorem lowercase_append_hyphen (a b : String) : lowercase (a ++ "-" ++ b) = lowercase a :=
  congrArg String.ofList (ofCased_append_hyphen Text.stopsAtHyphen_lower a b)

theorem uppercase_append_hyphen (a b : String) : uppercase (a ++ "-" ++ b) = uppercase a :=
  congrArg String.ofList (ofCased_append_hyphen Text.stopsAtHyphen_upper a b)

theorem isShaped_lowercase (name : String) : IsShaped (lowercase name).toList := by
  rw [lowercase, String.toList_ofList]
  exact isShaped_ofCased _

theorem isShaped_uppercase (name : String) : IsShaped (uppercase name).toList := by
  rw [uppercase, String.toList_ofList]
  exact isShaped_ofCased _

/-- **Identifiers are shaped by the text before the first hyphen.** For every display name, neither
identifier has a space, a slash or a hyphen, or an underscore at either end. A hyphen and whatever
follows it make no difference, although the whole name is put into its case before it is cut. -/
theorem shaped_before_hyphen (a b : String) :
    IsShaped (lowercase a).toList ∧ IsShaped (uppercase a).toList ∧
      lowercase (a ++ "-" ++ b) = lowercase a ∧ uppercase (a ++ "-" ++ b) = uppercase a :=
  ⟨isShaped_lowercase a, isShaped_uppercase a, lowercase_append_hyphen a b,
    uppercase_append_hyphen a b⟩

-- a letter behind the sigma changes it, also behind a full stop, but not behind a hyphen
example : (["ΑΣ", "ΑΣΑ", "ΑΣ.Α", "ΑΣ-Α"].map lowercase) = ["ας", "ασα", "ασ.α", "ας"] := by
  decide +kernel

end Identifier

end WireDictionary
