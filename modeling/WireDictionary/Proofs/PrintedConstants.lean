import WireDictionary.Proofs.OutputLines
import WireDictionary.Proofs.Previews

/-! # Constants are read back from the lines that print them

The line of a value shows three identifiers, the constant and, in a comment, the
name of the value. An identifier has no space (`IsShaped.no_space`), so the
constant is what follows the first space of the line, whatever the names are
(`constantText_valueLine`), and it is a literal of the value
(`literal?_hexadecimal`). Only the lines of values are indented, so reading the
lines of an enum one after the other gives its values (`filterMap_enumLines`).
-/
namespace WireDictionary

theorem Numeral.hexadecimal_inj {width : Nat} {v w : Int64} :
    hexadecimal width v = hexadecimal width w ↔ v = w := by
  refine ⟨fun h => ?_, fun h => by rw [h]⟩
  have hread := congrArg (fun text => literal? text.toList) h
  simp only [literal?_hexadecimal] at hread
  exact Option.some.inj hread

theorem Numeral.comma_not_mem_hexadecimal (width : Nat) (v : Int64) :
    ',' ∉ (hexadecimal width v).toList := by
  intro hcomma
  have hdigit : ∀ d < 16, ',' ≠ Nat.digitChar d := by decide
  rcases exists_of_mem_hexadecimal hcomma with hx | ⟨d, hd, hc⟩
  · cases hx
  · exact hdigit d hd hc

namespace Declaration

/-! ## Reading lines -/

/-- The text between the first space of a line and the comma behind it. -/
def constantText (line : List Char) : List Char :=
  (line.dropWhile (· ≠ ' ')).tail.takeWhile (· ≠ ',')

/-- The value of the constant in a line. Only the lines of constants are indented. -/
def constant? (line : List Char) : Option Int64 :=
  if line.head? = some '\t' then Numeral.literal? (constantText line) else none

theorem constantText_append {front text : List Char} (hfront : ' ' ∉ front) (htext : ',' ∉ text)
    (rest : List Char) : constantText (front ++ ' ' :: (text ++ ',' :: rest)) = text := by
  have hskip : ∀ c ∈ front, decide (c ≠ ' ') = true := fun c hc =>
    decide_eq_true (ne_of_mem_of_not_mem hc hfront)
  have hkeep : ∀ c ∈ text, decide (c ≠ ',') = true := fun c hc =>
    decide_eq_true (ne_of_mem_of_not_mem hc htext)
  have hdrop : (front ++ ' ' :: (text ++ ',' :: rest)).dropWhile (· ≠ ' ') =
      ' ' :: (text ++ ',' :: rest) := by
    rw [List.dropWhile_append_of_pos hskip]
    rfl
  have htake : (text ++ ',' :: rest).takeWhile (· ≠ ',') = text := by
    rw [List.takeWhile_append_of_pos hkeep]
    exact List.append_nil _
  rw [constantText, hdrop, List.tail_cons, htake]

theorem toList_valueLine (scope enumName : String) (v : EnumValue) :
    ∃ front rest, (valueLine scope enumName v).toList =
        '\t' :: front ++ ' ' :: ((Numeral.hexadecimal 8 v.value).toList ++ ',' :: rest) ∧
      ' ' ∉ '\t' :: front := by
  refine ⟨(Identifier.uppercase scope).toList ++ '_' :: ((Identifier.uppercase enumName).toList ++
    '_' :: ((Identifier.uppercase v.name).toList ++ "\t\t=".toList)),
    "     ".toList ++ (comment v.name).toList, ?_, ?_⟩
  · simp [valueLine]
  · simp [(Identifier.isShaped_uppercase _).no_space]

/-- Names do not hide the constant. -/
theorem constantText_valueLine (scope enumName : String) (v : EnumValue) :
    constantText (valueLine scope enumName v).toList = (Numeral.hexadecimal 8 v.value).toList := by
  obtain ⟨front, rest, hline, hfront⟩ := toList_valueLine scope enumName v
  rw [hline, constantText_append hfront (Numeral.comma_not_mem_hexadecimal 8 v.value)]

theorem constant?_valueLine (scope enumName : String) (v : EnumValue) :
    constant? (valueLine scope enumName v).toList = some v.value := by
  have hhead : (valueLine scope enumName v).toList.head? = some '\t' := by
    obtain ⟨front, rest, hline, -⟩ := toList_valueLine scope enumName v
    rw [hline]
    rfl
  rw [constant?, if_pos hhead, constantText_valueLine, Numeral.literal?_hexadecimal]

theorem constant?_enumHeader (scope : String) (e : EnumDecl) :
    constant? (enumHeader scope e).toList = none := by
  simp [constant?, enumHeader]

/-- The lines of an enum, read one after the other, give its values. -/
theorem filterMap_enumLines (scope : String) (e : EnumDecl) :
    ((enumLines scope e).map String.toList).filterMap constant? = e.values.map EnumValue.value := by
  have hvalue : (constant? ∘ String.toList) ∘ valueLine scope e.name =
      some ∘ EnumValue.value := by
    funext v
    simp only [Function.comp_apply, constant?_valueLine]
  -- the header and the two lines that close the enum are not indented
  have hclosing : constant? "\x7d;".toList = none ∧ constant? "".toList = none := by
    simp [constant?]
  have hlines : enumLines scope e =
      enumHeader scope e :: (e.values.map (valueLine scope e.name) ++ ["\x7d;", ""]) := rfl
  calc ((enumLines scope e).map String.toList).filterMap constant?
      = (enumLines scope e).filterMap (constant? ∘ String.toList) := List.filterMap_map
    _ = (e.values.map (valueLine scope e.name)).filterMap (constant? ∘ String.toList) := by
        simp only [hlines, List.filterMap_cons, List.filterMap_append, List.filterMap_nil,
          Function.comp_apply, constant?_enumHeader, hclosing, List.append_nil]
    _ = e.values.map EnumValue.value := by rw [List.filterMap_map, hvalue, List.filterMap_eq_map]

theorem isOneLine_of_mem_enumLines {scope : String} (hscope : IsOneLine scope) {e : EnumDecl}
    (he : IsOneLine e.name) (hv : ∀ v ∈ e.values, IsOneLine v.name) :
    ∀ line ∈ enumLines scope e, IsOneLine line := by
  have hclosing : ∀ line ∈ ["\x7d;", ""], IsOneLine line := by decide
  refine List.forall_mem_append.mpr ⟨List.forall_mem_cons.mpr ⟨?_, ?_⟩, hclosing⟩
  · exact isOneLine_enumHeader hscope he
  · exact List.forall_mem_map.mpr fun v hm => isOneLine_valueLine hscope he (hv v hm)

/-- Without line feeds in names, the text of an enum can be read in place of its lines. -/
theorem filterMap_splitOn_enumText {scope : String} (hscope : IsOneLine scope) {e : EnumDecl}
    (he : IsOneLine e.name) (hv : ∀ v ∈ e.values, IsOneLine v.name) :
    ((unlines (enumLines scope e)).toList.splitOn '\n').filterMap constant? =
      e.values.map EnumValue.value := by
  rw [splitOn_unlines (isOneLine_of_mem_enumLines hscope he hv), List.filterMap_append,
    filterMap_enumLines]
  exact List.append_nil _

theorem ascending_values_of_mem_enums {steps : List Schema.Step} {e : EnumDecl}
    (h : e ∈ (Schema.ofSteps steps).enums.values) : Ascending EnumValue.value e.values := by
  obtain ⟨id, hid⟩ := OrderedMap.mem_values.mp h
  rw [Schema.get?_enums_ofSteps] at hid
  obtain ⟨row, -, rfl⟩ := Option.map_eq_some_iff.mp hid
  exact ascending_sortedBy _

/-- **Constants read back.** A value is printed as a literal that reads as the value, so different
values are printed differently. Take any run of steps, any scope and any enum of the schema. What
follows the first space of the line of a value is its literal, whatever the names are; the lines
that the text of the enum is made of, read from the first to the last, give all its values, and
these do not descend. Where no name has a line feed, cutting the text at its line feeds does for
the lines. -/
theorem constants_read_back (scope : String) (steps : List Schema.Step) :
    (∀ v : Int64, Numeral.literal? (Numeral.hexadecimal 8 v).toList = some v) ∧
      (∀ v w : Int64, Numeral.hexadecimal 8 v = Numeral.hexadecimal 8 w ↔ v = w) ∧
      ∀ e ∈ (Schema.ofSteps steps).enums.values,
        enumText? scope (Schema.ofSteps steps) e.id = some (unlines (enumLines scope e)) ∧
        (∀ v ∈ e.values, valueLine scope e.name v ∈ enumLines scope e ∧
          constantText (valueLine scope e.name v).toList =
            (Numeral.hexadecimal 8 v.value).toList) ∧
        ((enumLines scope e).map String.toList).filterMap constant? =
          e.values.map EnumValue.value ∧
        (e.values.map EnumValue.value).Pairwise (· ≤ ·) ∧
        (IsOneLine scope → IsOneLine e.name → (∀ v ∈ e.values, IsOneLine v.name) →
          ((unlines (enumLines scope e)).toList.splitOn '\n').filterMap constant? =
            e.values.map EnumValue.value) := by
  refine ⟨Numeral.literal?_hexadecimal 8, fun v w => Numeral.hexadecimal_inj, fun e he => ?_⟩
  have hkeyed := (Schema.keyedById_ofSteps steps).enums
  refine ⟨?_, fun v hv => ⟨?_, constantText_valueLine scope e.name v⟩, filterMap_enumLines scope e,
    List.pairwise_map.mpr (ascending_values_of_mem_enums he),
    fun hscope hname hvalues => filterMap_splitOn_enumText hscope hname hvalues⟩
  · rw [enumText?, (OrderedMap.get?_eq_some_iff_mem_values hkeyed).mpr ⟨he, rfl⟩]
    rfl
  · exact List.mem_append_left _ (List.mem_cons_of_mem _ (List.mem_map_of_mem hv))

/-- The least and the greatest value, a value twice, and names that hold spaces, commas and
literals. -/
theorem extreme_constants_read_back :
    let entry (value : Int64) (name : String) : Schema.Step := .entry ⟨1, value, name, none⟩
    let steps := [.enum ⟨1, "a = 0x5, b", 0, false⟩, entry Int64.maxValue "top", entry 3 "0x7, x",
      entry (-1) " = 0x00000009, /* ", entry Int64.minValue "low", entry 3 "-"]
    let e : EnumDecl := ⟨1, "a = 0x5, b", [⟨Int64.minValue, "low"⟩, ⟨-1, " = 0x00000009, /* "⟩,
      ⟨3, "0x7, x"⟩, ⟨3, "-"⟩, ⟨Int64.maxValue, "top"⟩]⟩
    e ∈ (Schema.ofSteps steps).enums.values ∧
      enumText? "my scope" (Schema.ofSteps steps) 1 = some (unlines (enumLines "my scope" e)) ∧
      ((unlines (enumLines "my scope" e)).toList.splitOn '\n').filterMap constant? =
        [Int64.minValue, -1, 3, 3, Int64.maxValue] ∧
      (Numeral.hexadecimal 8 Int64.minValue, Numeral.hexadecimal 8 3) =
        ("0x8000000000000000", "0x00000003") := by
  intro entry steps e
  have he : e ∈ (Schema.ofSteps steps).enums.values := by decide +kernel
  obtain ⟨htext, -, -, -, hsplit⟩ := (constants_read_back "my scope" steps).2.2 e he
  exact ⟨he, htext, hsplit (by decide) (by decide) (by decide), by decide +kernel⟩

end Declaration

end WireDictionary
