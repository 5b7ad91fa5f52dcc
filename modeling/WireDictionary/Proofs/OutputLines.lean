import WireDictionary.Declaration
import WireDictionary.Proofs.Description
import WireDictionary.Proofs.FileReading
import WireDictionary.Proofs.IdentifierShape
import WireDictionary.Proofs.RowTexts
import Mathlib.Algebra.GroupWithZero.Nat

/-! # The lines of the output

Names come from lines of the tables, so none of them holds a line feed, and
neither their cases nor the numbers bring one in. Every line of the output stays a
line, then, and cutting the output at its line feeds gives the layout that the
schema calls for (`lines_not_forged`): what a table holds can change what a line
says, but neither start a line nor end one.
-/
namespace WireDictionary

/-! ## Letters of either case -/

namespace Text

theorem feed_not_mem_of_expansion? {table : List (Nat × List Nat)} (h : ∀ e ∈ table, 10 ∉ e.2)
    {c : Char} {cs : List Char} (hcs : expansion? table c = some cs) : '\n' ∉ cs := by
  obtain ⟨numbers, hlookup, rfl⟩ := Option.map_eq_some_iff.mp hcs
  obtain ⟨before, after, rfl, -⟩ := List.lookup_eq_some_iff.mp hlookup
  intro hfeed
  obtain ⟨n, hn, hchar⟩ := List.mem_map.mp hfeed
  rw [Utf8.eq_feed_of_ofNat hchar] at hn
  exact h _ (List.mem_append_right _ List.mem_cons_self) hn

theorem ne_feed_of_find? {runs : List CaseRun} (h : ∀ r ∈ runs, 10 < r.target) {c c' : Char}
    (hc : CaseRun.find? runs c = some c') : c' ≠ '\n' := by
  obtain ⟨n, hn, rfl⟩ := Option.map_eq_some_iff.mp hc
  obtain ⟨r, hr, himage⟩ := List.exists_of_findSome?_eq_some hn
  have htarget : 10 < r.target := h r hr
  intro hfeed
  have hten := Utf8.eq_feed_of_ofNat hfeed
  unfold CaseRun.image? at himage
  split at himage
  · have := Option.some.inj himage
    omega
  · cases himage

/-- No other character has a form with a line feed in it. -/
theorem feed_not_mem_form {table : List (Nat × List Nat)} {runs : List CaseRun}
    (htable : ∀ e ∈ table, 10 ∉ e.2) (hruns : ∀ r ∈ runs, 10 < r.target) {c : Char}
    (h : c ≠ '\n') : '\n' ∉ (expansion? table c).getD [(CaseRun.find? runs c).getD c] := by
  cases hcs : expansion? table c with
  | some cs => exact feed_not_mem_of_expansion? htable hcs
  | none =>
    rw [Option.getD_none, List.mem_singleton]
    cases hc : CaseRun.find? runs c with
    | none => exact h.symm
    | some c' => exact (ne_feed_of_find? hruns hc).symm

theorem feed_not_mem_upperOf {c : Char} (h : c ≠ '\n') : '\n' ∉ upperOf c := by
  have hform : upperOf c =
      (expansion? upperExpansions c).getD [(CaseRun.find? upperRuns c).getD c] := by
    unfold upperOf
    cases expansion? upperExpansions c <;> rfl
  rw [hform]
  exact feed_not_mem_form (by decide +kernel) (by decide +kernel) h

theorem feed_not_mem_lowerOf {c : Char} (h : c ≠ '\n') : '\n' ∉ lowerOf c := by
  have hform : lowerOf c =
      (expansion? lowerExpansions c).getD [(CaseRun.find? lowerRuns c).getD c] := by
    unfold lowerOf
    cases expansion? lowerExpansions c <;> rfl
  rw [hform]
  exact feed_not_mem_form (by decide +kernel) (by decide +kernel) h

theorem feed_not_mem_upper {cs : List Char} (h : '\n' ∉ cs) : '\n' ∉ upper cs := by
  intro hfeed
  obtain ⟨c, hc, hfeed⟩ := List.mem_flatMap.mp hfeed
  exact feed_not_mem_upperOf (fun he => h (he ▸ hc)) hfeed

theorem feed_not_mem_lowerAfter {cs : List Char} (h : '\n' ∉ cs) (before : List Char) :
    '\n' ∉ lowerAfter before cs := by
  induction cs generalizing before with
  | nil => exact List.not_mem_nil
  | cons c rest ih =>
    obtain ⟨hc, hrest⟩ := not_or.mp (mt List.mem_cons.mpr h)
    rw [lowerAfter, List.mem_append, not_or]
    refine ⟨?_, ih hrest _⟩
    split
    · split <;> decide
    · exact feed_not_mem_lowerOf (Ne.symm hc)

end Text

theorem Identifier.feed_not_mem_ofCased {cs : List Char} (h : '\n' ∉ cs) : '\n' ∉ ofCased cs := by
  intro hfeed
  obtain ⟨-, c, hc, hjoiner⟩ := exists_of_mem_ofCased hfeed
  unfold joiner at hjoiner
  split at hjoiner
  · cases hjoiner
  · exact h (hjoiner ▸ hc)

/-! ## Texts that stay on one line -/

def IsOneLine (text : String) : Prop := '\n' ∉ text.toList

instance (text : String) : Decidable (IsOneLine text) :=
  inferInstanceAs (Decidable ('\n' ∉ text.toList))

@[simp] theorem isOneLine_append {a b : String} : IsOneLine (a ++ b) ↔ IsOneLine a ∧ IsOneLine b := by
  rw [IsOneLine, String.toList_append, List.mem_append, not_or]
  rfl

@[simp] theorem isOneLine_decimal (v : Int64) : IsOneLine (Numeral.decimal v) :=
  Numeral.not_mem_decimal (by decide) v

@[simp] theorem isOneLine_hexadecimal (width : Nat) (v : Int64) :
    IsOneLine (Numeral.hexadecimal width v) := by
  intro hfeed
  have hdigit : ∀ d < 16, '\n' ≠ Nat.digitChar d := by decide
  rcases Numeral.exists_of_mem_hexadecimal hfeed with hx | ⟨d, hd, hc⟩
  · cases hx
  · exact hdigit d hd hc

theorem isOneLine_lowercase {name : String} (h : IsOneLine name) :
    IsOneLine (Identifier.lowercase name) := by
  rw [IsOneLine, Identifier.lowercase, String.toList_ofList]
  exact Identifier.feed_not_mem_ofCased (Text.feed_not_mem_lowerAfter h [])

theorem isOneLine_uppercase {name : String} (h : IsOneLine name) :
    IsOneLine (Identifier.uppercase name) := by
  rw [IsOneLine, Identifier.uppercase, String.toList_ofList]
  exact Identifier.feed_not_mem_ofCased (Text.feed_not_mem_upper h)

/-! ## Names of a schema -/

/-- All names that the output shows stay on one line. -/
structure Schema.HasOneLineNames (s : Schema) : Prop where
  enums : ∀ e ∈ s.enums.values, IsOneLine e.name
  values : ∀ e ∈ s.enums.values, ∀ v ∈ e.values, IsOneLine v.name
  fields : ∀ field ∈ s.fields.values, IsOneLine field.name
  structs : ∀ d ∈ s.structs.values, ∀ name ∈ d.name?, IsOneLine name

theorem Dictionary.hasOneLineNames (t : TableTexts) : (ofTexts t).schema.HasOneLineNames where
  enums e he := by
    obtain ⟨row, hrow, hname⟩ := Option.map_eq_some_iff.mp ((describes_schema t).enums e he).named
    rw [← hname]
    exact Row.feed_not_mem_name (Row.mem_of_last? hrow)
  values e he v hv := by
    have hlast := (((describes_schema t).enums e he).mem_values v).mp hv
    obtain ⟨row, hrow, rfl⟩ := Option.map_eq_some_iff.mp hlast
    exact Row.feed_not_mem_name (R := EntryRow) (Row.mem_of_last? hrow)
  fields field hfield := by
    rw [(describes_schema t).fields] at hfield
    exact Row.feed_not_mem_name (Row.mem_of_last? (Row.mem_standing.mp hfield))
  structs d hd name hname := by
    rw [((describes_schema t).structs d hd).named] at hname
    obtain ⟨row, hrow, rfl⟩ := Option.map_eq_some_iff.mp hname
    have hstanding := List.mem_of_find?_eq_some hrow
    exact Row.feed_not_mem_name (Row.mem_of_last? (Row.mem_standing.mp hstanding))

/-! ## Lines of the output -/

namespace Declaration

section Lines

variable {scope : String} {s : Schema} (hscope : IsOneLine scope) (hs : s.HasOneLineNames)

def enumHeader (scope : String) (e : EnumDecl) : String :=
  "enum " ++ scope ++ "_" ++ Identifier.lowercase e.name ++ " \x7b " ++ comment e.name

def structHeader (scope : String) (d : StructDecl) : String :=
  "struct " ++ structName scope d ++ " \x7b " ++ comment d.title

/-- The lines that a schema calls for: the marker; for every enum a header, a line for each value, a
closing line and an empty one; an announcement of every struct; for every struct a header, a line
for each member, a closing line and an empty one. -/
def layout (scope : String) (s : Schema) : List String :=
  marker ::
    (s.enums.values.flatMap fun e =>
      enumHeader scope e :: e.values.map (valueLine scope e.name) ++ ["\x7d;", ""]) ++
    s.structs.values.map (forwardLine scope) ++
    (s.structs.values.flatMap fun d =>
      structHeader scope d :: d.members.map (memberLine scope s) ++ ["\x7d;", ""])

theorem allLines_eq_layout (scope : String) (s : Schema) : allLines scope s = layout scope s := rfl

theorem length_layout (scope : String) (s : Schema) : (layout scope s).length =
    1 + (s.enums.values.map fun e => e.values.length + 3).sum + s.structs.values.length +
      (s.structs.values.map fun d => d.members.length + 3).sum := by
  have henum : ∀ e : EnumDecl, (enumHeader scope e :: e.values.map (valueLine scope e.name) ++
      ["\x7d;", ""]).length = e.values.length + 3 := by
    simp
  have hstruct : ∀ d : StructDecl, (structHeader scope d :: d.members.map (memberLine scope s) ++
      ["\x7d;", ""]).length = d.members.length + 3 := by
    simp
  rw [layout, List.length_append, List.length_append, List.length_cons, List.length_flatMap,
    List.length_flatMap, List.length_map]
  simp only [henum, hstruct]
  omega

/-- The names of the schema that are shown for a meaning. -/
def Meaning.names (scope : String) : Meaning → List String
  | .typed field _ | .untyped field => [field.name]
  | .nested d => [structName scope d]
  | .missingField _ | .missingStruct _ | .tagged _ _ => []

@[simp] theorem isOneLine_comment {text : String} : IsOneLine (comment text) ↔ IsOneLine text := by
  simp +decide [comment]

/-- Only names could break a line. -/
theorem isOneLine_meaningText (scope : String) {meaning : Meaning}
    (h : ∀ name ∈ meaning.names scope, IsOneLine name) : IsOneLine (meaningText scope meaning) := by
  cases meaning with
  | typed field type =>
    have hname : IsOneLine field.name := List.forall_mem_singleton.mp h
    have htype : IsOneLine type.declared := by cases type <;> decide
    simp +decide [meaningText, isOneLine_lowercase hname, hname, htype]
  | untyped field =>
    have hname : IsOneLine field.name := List.forall_mem_singleton.mp h
    simp +decide [meaningText, hname]
  | nested d =>
    have hname : IsOneLine (structName scope d) := List.forall_mem_singleton.mp h
    simp +decide [meaningText, hname]
  | missingField id | missingStruct id | tagged code value => simp +decide [meaningText]

include hscope

theorem isOneLine_enumHeader {e : EnumDecl} (h : IsOneLine e.name) :
    IsOneLine (enumHeader scope e) := by
  simp +decide [enumHeader, hscope, isOneLine_lowercase h, h]

theorem isOneLine_valueLine {enumName : String} {v : EnumValue} (he : IsOneLine enumName)
    (hv : IsOneLine v.name) : IsOneLine (valueLine scope enumName v) := by
  simp +decide [valueLine, isOneLine_uppercase hscope, isOneLine_uppercase he,
    isOneLine_uppercase hv, hv]

include hs

theorem isOneLine_structName {d : StructDecl} (hd : d ∈ s.structs.values) :
    IsOneLine (structName scope d) := by
  unfold structName
  cases hname : d.name? with
  | none => simp +decide [hscope]
  | some name =>
    have hlower := isOneLine_lowercase (hs.structs d hd name hname)
    simp +decide [hscope, hlower]

omit hscope in
theorem isOneLine_title {d : StructDecl} (hd : d ∈ s.structs.values) : IsOneLine d.title := by
  unfold StructDecl.title
  cases hname : d.name? with
  | none => decide
  | some name => exact hs.structs d hd name hname

theorem isOneLine_structHeader {d : StructDecl} (hd : d ∈ s.structs.values) :
    IsOneLine (structHeader scope d) := by
  simp +decide [structHeader, isOneLine_structName hscope hs hd, isOneLine_title hs hd]

theorem isOneLine_forwardLine {d : StructDecl} (hd : d ∈ s.structs.values) :
    IsOneLine (forwardLine scope d) := by
  simp +decide [forwardLine, isOneLine_structName hscope hs hd, isOneLine_title hs hd]

/-- The names that a meaning shows stay on one line. -/
theorem isOneLine_of_mem_names (m : Member) :
    ∀ name ∈ (meaning s m).names scope, IsOneLine name := by
  unfold meaning
  split
  · split
    · exact List.forall_mem_nil _
    · rename_i field hfield
      have hname : IsOneLine field.name := hs.fields field (OrderedMap.mem_values.mpr ⟨_, hfield⟩)
      split <;> exact List.forall_mem_singleton.mpr hname
  · split
    · exact List.forall_mem_nil _
    · rename_i d hd
      have hname := isOneLine_structName hscope hs (OrderedMap.mem_values.mpr ⟨_, hd⟩)
      exact List.forall_mem_singleton.mpr hname
  · exact List.forall_mem_nil _
  · exact List.forall_mem_nil _

theorem isOneLine_memberLine (m : Member) : IsOneLine (memberLine scope s m) :=
  isOneLine_append.mpr
    ⟨by decide, isOneLine_meaningText scope (isOneLine_of_mem_names hscope hs m)⟩

theorem isOneLine_of_mem_layout : ∀ line ∈ layout scope s, IsOneLine line := by
  have hmarker : IsOneLine marker := by decide
  have hclosing : IsOneLine "\x7d;" ∧ IsOneLine "" := ⟨by decide, by decide⟩
  simp only [layout, List.forall_mem_append, List.forall_mem_cons, List.forall_mem_flatMap,
    List.forall_mem_map, List.not_mem_nil, false_implies, implies_true, and_true]
  refine ⟨⟨⟨hmarker, fun e he => ⟨⟨?_, fun v hv => ?_⟩, hclosing⟩⟩, fun d hd => ?_⟩,
    fun d hd => ⟨⟨?_, fun m _ => ?_⟩, hclosing⟩⟩
  · exact isOneLine_enumHeader hscope (hs.enums e he)
  · exact isOneLine_valueLine hscope (hs.enums e he) (hs.values e he v hv)
  · exact isOneLine_forwardLine hscope hs hd
  · exact isOneLine_structHeader hscope hs hd
  · exact isOneLine_memberLine hscope hs m

end Lines

/-! ## Cutting the output -/

theorem toList_unlines (lines : List String) :
    (unlines lines).toList = lines.flatMap fun line => line.toList ++ ['\n'] := by
  induction lines with
  | nil => rfl
  | cons line lines ih =>
    rw [unlines, List.map_cons, String.join_cons, String.toList_append, String.toList_append,
      List.flatMap_cons, ← ih]
    rfl

theorem splitOn_unlines {lines : List String} (h : ∀ line ∈ lines, IsOneLine line) :
    (unlines lines).toList.splitOn '\n' = lines.map String.toList ++ [[]] := by
  have hintercalate : (unlines lines).toList =
      ['\n'].intercalate (lines.map String.toList ++ [[]]) := by
    rw [toList_unlines]
    clear h
    induction lines with
    | nil => rfl
    | cons line lines ih =>
      rw [List.flatMap_cons, ih, List.map_cons, List.cons_append,
        List.intercalate_cons_of_ne_nil (by simp), List.append_assoc]
  have hfeed : ∀ text ∈ lines.map String.toList ++ [[]], '\n' ∉ text := by
    intro text ht
    rcases List.mem_append.mp ht with ht | ht
    · obtain ⟨line, hline, rfl⟩ := List.mem_map.mp ht
      exact h line hline
    · rw [List.mem_singleton.mp ht]
      exact List.not_mem_nil
  rw [hintercalate, List.splitOn_intercalate '\n' hfeed (by simp)]

theorem count_unlines {lines : List String} (h : ∀ line ∈ lines, IsOneLine line) :
    (unlines lines).toList.count '\n' = lines.length := by
  rw [toList_unlines]
  induction lines with
  | nil => rfl
  | cons line lines ih =>
    obtain ⟨hline, hlines⟩ := List.forall_mem_cons.mp h
    rw [List.flatMap_cons, List.count_append, ih hlines, List.count_append,
      List.count_eq_zero_of_not_mem hline, List.length_cons]
    exact Nat.add_comm 1 lines.length

theorem getLast?_unlines {lines : List String} (h : lines ≠ []) :
    (unlines lines).toList.getLast? = some '\n' := by
  rcases List.eq_nil_or_concat lines with rfl | ⟨front, last, rfl⟩
  · exact absurd rfl h
  · rw [toList_unlines, List.concat_eq_append, List.flatMap_append, List.flatMap_singleton,
      ← List.append_assoc, List.getLast?_concat]

end Declaration

/-! ## Dictionaries that were read -/

/-- The table of a text, or of a file that was read to its end. -/
def Table.IsRead {K R : Type} [DecidableEq K] [Row K R] (t : Table K R) : Prop :=
  (∃ text, t = ofText text) ∨ ∃ s, ofSource s = .ok t

theorem Table.IsRead.exists_text {K R : Type} [DecidableEq K] [Row K R] {t : Table K R}
    (h : t.IsRead) : ∃ text, t = ofText text := by
  rcases h with htext | ⟨⟨bytes, fault?⟩, hs⟩
  · exact htext
  · rw [ofSource_eq] at hs
    cases fault? with
    | none => exact ⟨_, (Except.ok.inj hs).symm.trans (ofLines_lines_eq_ofText bytes)⟩
    | some fault => cases hs

/-- Each table was read from a text or from a file. -/
structure Dictionary.IsRead (d : Dictionary) : Prop where
  entities : d.entities.IsRead
  entries : d.entries.IsRead
  enums : d.enums.IsRead
  fields : d.fields.IsRead
  fragments : d.fragments.IsRead

theorem Dictionary.IsRead.exists_texts {d : Dictionary} (h : d.IsRead) :
    ∃ t, d = ofTexts t := by
  obtain ⟨entities, he⟩ := h.entities.exists_text
  obtain ⟨entries, hn⟩ := h.entries.exists_text
  obtain ⟨enums, hm⟩ := h.enums.exists_text
  obtain ⟨fields, hf⟩ := h.fields.exists_text
  obtain ⟨fragments, hg⟩ := h.fragments.exists_text
  refine ⟨⟨entities, entries, enums, fields, fragments⟩, ?_⟩
  cases d
  simp_all [ofTexts]

namespace Declaration

/-- **No table can forge a line of the output.** Take any dictionary whose tables were read from
texts or from the bytes of files, and any scope without a line feed. Cutting the output at its line
feeds gives the lines that the schema calls for and nothing behind the last of them; so there are as
many line feeds as lines, and the output ends with one. -/
theorem lines_not_forged {d : Dictionary} (hd : d.IsRead) {scope : String}
    (hscope : '\n' ∉ scope.toList) :
    (text scope d.schema).toList.splitOn '\n' =
        (layout scope d.schema).map String.toList ++ [[]] ∧
      (text scope d.schema).toList.count '\n' =
        1 + (d.schema.enums.values.map fun e => e.values.length + 3).sum +
          d.schema.structs.values.length +
          (d.schema.structs.values.map fun d => d.members.length + 3).sum ∧
      (text scope d.schema).toList.getLast? = some '\n' := by
  obtain ⟨t, rfl⟩ := hd.exists_texts
  have hlines := isOneLine_of_mem_layout hscope (Dictionary.hasOneLineNames t)
  rw [text, allLines_eq_layout, splitOn_unlines hlines, count_unlines hlines, length_layout]
  exact ⟨rfl, rfl, getLast?_unlines (List.cons_ne_nil _ _)⟩

/-- The tables of a file, whose first line breaks off within quotes and within a character, and of
texts whose quotes hold breaks and the end of a declaration. -/
def brokenLines : Dictionary where
  entities := .ofText "1^2^\"end */\n\x7d;\"^5\n1^2^\r\x7d; */^5"
  entries := .ofText "1^2^\"a\r\nb\"\r\n1^3^\"\x7d;\"\r"
  enums := .ofLines (Source.lines { bytes :=
    [0x31, 0x5E, 0x22, 0xE2, 0x80, 0x0A, 0x31, 0x5E, 0xC3, 0x9F, 0x0D, 0x7D, 0x5E, 0x30, 0x5E,
      0x30] })
  fields := .ofText "7^\"x\r\x7d;\"^8^2^0^0"
  fragments := .ofText "5^0^0^7^m^0^0^none"

theorem broken_lines_not_forged :
    brokenLines.IsRead ∧ '\n' ∉ defaultScope.toList ∧
      (text defaultScope brokenLines.schema).toList.splitOn '\n' =
        (layout defaultScope brokenLines.schema).map String.toList ++ [[]] ∧
      layout defaultScope brokenLines.schema =
        ["/* GENERATED CODE. DO NOT EDIT. */", "enum gobi_ß\r\x7d \x7b /* ß\r\x7d */",
          "\tGOBI_SS\r\x7d_A\t\t= 0x00000002,     /* a */",
          "\tGOBI_SS\r\x7d_\x7d;\t\t= 0x00000003,     /* \x7d; */", "\x7d;", "",
          "struct gobi_\r\x7d;_*; /* \r\x7d; */ */",
          "struct gobi_\r\x7d;_* \x7b /* \r\x7d; */ */", "\tuint8 x\r\x7d;; /* x\r\x7d; */",
          "\x7d;", ""] ∧
      (text defaultScope brokenLines.schema).toList.count '\n' = 11 ∧
      (text defaultScope brokenLines.schema).toList.getLast? = some '\n' := by
  have hread : brokenLines.IsRead :=
    ⟨.inl ⟨_, rfl⟩, .inl ⟨_, rfl⟩, .inr ⟨{ bytes := _ }, Table.ofSource_eq _⟩, .inl ⟨_, rfl⟩,
      .inl ⟨_, rfl⟩⟩
  have hscope : '\n' ∉ defaultScope.toList := by decide
  obtain ⟨hsplit, hcount, hlast⟩ := lines_not_forged hread hscope
  refine ⟨hread, hscope, hsplit, by decide +kernel, ?_, hlast⟩
  rw [hcount]
  decide +kernel

end Declaration

end WireDictionary
