import WireDictionary.Proofs.Placeholders
import WireDictionary.Proofs.WrittenNumbers
import Mathlib.Data.List.Flatten

/-! # What the line of a member remarks

Checking references and declaring members are two walks over the same structs,
each with its own look at tags and references. A placeholder carries a remark if
a field or struct is missing or the member has a bare tag, and the remark can be
read back from the line alone (`remark?_eq_some_iff`): it is told by its words,
and no name, wherever it stands in a line, can make up the same ones
(`remark?_meaningText`). The remarks in the order of the lines are the findings
about members in the order in which they are found (`remarks_agree`).
-/
namespace WireDictionary

/-! ## Tags of rows -/

/-- Codes that need no check, and only those, are marked as such. -/
def Tag.IsMarked : Tag → Prop
  | .field | .struct => True
  | .unchecked code => code = 2 ∨ code = 6
  | .surprising code => ¬ (code = 2 ∨ code = 6)

theorem Tag.isMarked_ofCode (code : Int64) : (Tag.ofCode code).IsMarked := by
  unfold Tag.ofCode
  by_cases hfield : code = 0
  · simp [hfield, IsMarked]
  · by_cases hstruct : code = 1
    · simp [hstruct, IsMarked]
    · by_cases hunchecked : code = 2 ∨ code = 6
      · simp only [hfield, hstruct, hunchecked, if_false, if_true, IsMarked]
      · simp only [hfield, hstruct, hunchecked, if_false, IsMarked, not_false_eq_true]

namespace Schema

/-- The members with the ids of their structs, in the order in which they are declared. -/
def placedMembers (s : Schema) : List (Int64 × Member) :=
  s.structs.values.flatMap fun d => d.members.map fun m => (d.id, m)

theorem isMarked_of_mem_placedMembers {steps : List Step} {structId : Int64} {m : Member}
    (h : (structId, m) ∈ (ofSteps steps).placedMembers) : m.tag.IsMarked := by
  obtain ⟨d, hd, hplaced⟩ := List.mem_flatMap.mp h
  obtain ⟨other, hm, he⟩ := List.mem_map.mp hplaced
  rw [← (Prod.mk.inj he).2]
  obtain ⟨id, hid⟩ := OrderedMap.mem_values.mp hd
  rw [get?_structs_ofSteps] at hid
  split at hid
  · cases hid
  · rw [← Option.some.inj hid, mem_sortedBy] at hm
    obtain ⟨row, -, rfl⟩ := List.mem_map.mp hm
    exact Tag.isMarked_ofCode row.tagCode

/-- The kinds of findings that checking has about members. -/
def memberKinds : List Finding.Kind := [.danglingField, .danglingStruct, .surprisingMember]

theorem kind_of_mem_memberFindings {s : Schema} {structId : Int64} {m : Member} {f : Finding}
    (h : f ∈ s.memberFindings structId m) : f.kind ∈ memberKinds := by
  unfold memberFindings at h
  split at h
  · split at h
    · cases h
    · rw [List.mem_singleton.mp h]
      simp [Finding.kind, memberKinds]
  · split at h
    · cases h
    · rw [List.mem_singleton.mp h]
      simp [Finding.kind, memberKinds]
  · cases h
  · rw [List.mem_singleton.mp h]
    simp [Finding.kind, memberKinds]

theorem kind_of_mem_entityFindings {s : Schema} {e : EntityDecl} {f : Finding}
    (h : f ∈ s.entityFindings e) : f.kind = .missingStruct := by
  unfold entityFindings at h
  split at h
  · cases h
  · rw [List.mem_singleton.mp h]
    rfl

/-- Apart from the findings about entities, checking finds something about members only. -/
theorem filter_kind_validate (s : Schema) : s.validate.filter (·.kind ∈ memberKinds) =
    s.placedMembers.flatMap fun p => s.memberFindings p.1 p.2 := by
  have hmembers : (s.structs.values.flatMap s.structFindings).filter (·.kind ∈ memberKinds) =
      s.structs.values.flatMap s.structFindings := by
    refine List.filter_eq_self.mpr fun f hf => ?_
    obtain ⟨d, -, hf⟩ := List.mem_flatMap.mp hf
    obtain ⟨m, -, hf⟩ := List.mem_flatMap.mp hf
    exact decide_eq_true (kind_of_mem_memberFindings hf)
  have hentities : (s.entities.values.flatMap s.entityFindings).filter (·.kind ∈ memberKinds) =
      [] := by
    refine List.filter_eq_nil_iff.mpr fun f hf => ?_
    obtain ⟨e, -, hf⟩ := List.mem_flatMap.mp hf
    rw [kind_of_mem_entityFindings hf]
    decide
  rw [validate, List.filter_append, hmembers, hentities, List.append_nil, placedMembers,
    List.flatMap_assoc]
  refine List.flatMap_congr fun d _ => ?_
  rw [structFindings, List.flatMap_map]

end Schema

namespace Declaration

/-! ## Remarks and their lines -/

/-- What a placeholder remarks about a member that is neither a field nor a struct of the schema. -/
inductive Remark where
  | missingField (id : Int64)
  | missingStruct (id : Int64)
  | tagged (code value : Int64)
  deriving DecidableEq, Repr

namespace Remark

open Numeral (decimal)

def text : Remark → String
  | missingField id => "missing field " ++ decimal id
  | missingStruct id => "missing struct " ++ decimal id
  | tagged code value => "tag " ++ decimal code ++ ", value " ++ decimal value

@[simp] theorem text_missingField (id : Int64) :
    (missingField id).text = "missing field " ++ decimal id := rfl

@[simp] theorem text_missingStruct (id : Int64) :
    (missingStruct id).text = "missing struct " ++ decimal id := rfl

@[simp] theorem text_tagged (code value : Int64) :
    (tagged code value).text = "tag " ++ decimal code ++ ", value " ++ decimal value := rfl

def line (r : Remark) : String := "\t???; /* " ++ r.text ++ " */"

theorem line_eq (r : Remark) : r.line = "\t" ++ (placeholder ++ "; " ++ comment r.text) := by
  rw [line, ← String.toList_inj]
  simp [placeholder, comment]

/-- What is found if a member of a struct gets the remark. Members of two kinds are tagged and not
checked. -/
def finding? (structId : Int64) : Remark → Option Finding
  | missingField id => some (.danglingField structId id)
  | missingStruct id => some (.danglingStruct structId id)
  | tagged code value =>
    if code = 2 ∨ code = 6 then none else some (.surprisingMember structId code value)

/-- What stands between the blanks of the line. -/
def words : Remark → List (List Char)
  | missingField id =>
    ["\t???;".toList, "/*".toList, "missing".toList, "field".toList, (decimal id).toList,
      "*/".toList]
  | missingStruct id =>
    ["\t???;".toList, "/*".toList, "missing".toList, "struct".toList, (decimal id).toList,
      "*/".toList]
  | tagged code value =>
    ["\t???;".toList, "/*".toList, "tag".toList, (decimal code).toList ++ [','], "value".toList,
      (decimal value).toList, "*/".toList]

theorem toList_line (r : Remark) : r.line.toList = [' '].intercalate r.words := by
  cases r <;> simp [line, words]

theorem not_mem_words (r : Remark) : ∀ word ∈ r.words, ' ' ∉ word := by
  have hdecimal : ∀ v, ' ' ∉ (decimal v).toList := Numeral.not_mem_decimal (by decide)
  cases r <;> simp [words, hdecimal]

/-- A line tells the words of its remark. -/
theorem splitOn_line (r : Remark) : r.line.toList.splitOn ' ' = r.words := by
  have hne : r.words ≠ [] := by cases r <;> simp [words]
  rw [toList_line, List.splitOn_intercalate ' ' r.not_mem_words hne]

theorem eq_of_words {r r' : Remark} (h : r.words = r'.words) : r = r' := by
  cases r <;> cases r' <;> simp_all [words, Numeral.toList_decimal_inj]

/-- Different remarks have different lines. -/
theorem eq_of_line {r r' : Remark} (h : r.line = r'.line) : r = r' :=
  eq_of_words (by rw [← splitOn_line, ← splitOn_line, h])

end Remark

/-! ## Reading remarks -/

/-- The number that stands among words, a comma apart. -/
def numberAt? (words : List (List Char)) (i : Nat) : Option Int64 :=
  words[i]?.bind fun word => Numeral.decimal? (word.filter (· ≠ ','))

/-- The remarks that words may be those of, with numbers from the words where numbers belong. -/
def candidates (words : List (List Char)) : List Remark :=
  ((numberAt? words 4).map .missingField).toList ++
    ((numberAt? words 4).map .missingStruct).toList ++
    ((numberAt? words 3).bind fun code => (numberAt? words 5).map (.tagged code)).toList

/-- The remark that a line makes, if it makes one. -/
def remark? (line : String) : Option Remark :=
  (candidates (line.toList.splitOn ' ')).find? (·.line = line)

theorem mem_candidates (r : Remark) : r ∈ candidates r.words := by
  have hfilter : ∀ v, (Numeral.decimal v).toList.filter (· ≠ ',') = (Numeral.decimal v).toList := by
    intro v
    refine List.filter_eq_self.mpr fun c hc => decide_eq_true ?_
    rintro rfl
    exact Numeral.not_mem_decimal (by decide) v hc
  cases r <;>
    simp only [candidates, numberAt?, Remark.words, List.getElem?_cons_succ,
      List.getElem?_cons_zero, Option.bind_some, List.filter_append, hfilter] <;>
    simp [Numeral.decimal?_decimal]

/-- A line makes a remark exactly if it is the line of the remark. -/
theorem remark?_eq_some_iff {line : String} {r : Remark} :
    remark? line = some r ↔ line = r.line := by
  constructor
  · intro h
    rw [remark?] at h
    have hline := List.find?_some h
    exact (of_decide_eq_true hline).symm
  · rintro rfl
    have hsome : (remark? r.line).isSome = true := by
      rw [remark?, Remark.splitOn_line, List.find?_isSome]
      exact ⟨r, mem_candidates r, decide_eq_true rfl⟩
    obtain ⟨r', hr'⟩ := Option.isSome_iff_exists.mp hsome
    have hfind := hr'
    rw [remark?] at hfind
    have hline := List.find?_some hfind
    rw [hr', Remark.eq_of_line (of_decide_eq_true hline)]

theorem remark?_eq_none_iff {line : String} :
    remark? line = none ↔ ∀ r : Remark, line ≠ r.line := by
  rw [Option.eq_none_iff_forall_ne_some]
  exact forall_congr' fun r => not_congr remark?_eq_some_iff

/-! ## Lines of members -/

/-- The remark about a member of the given meaning. -/
def Meaning.remark? : Meaning → Option Remark
  | .missingField id => some (.missingField id)
  | .missingStruct id => some (.missingStruct id)
  | .tagged code value => some (.tagged code value)
  | .typed _ _ | .untyped _ | .nested _ => none

/-- The line of a member of a known type does not begin like a remark. -/
theorem typed_ne_line (scope : String) (field : FieldRow) (type : BaseType) (r : Remark) :
    "\t" ++ meaningText scope (.typed field type) ≠ r.line := by
  rw [Remark.line_eq, meaningText]
  simp only [String.append_assoc, ne_eq, String.append_right_inj]
  exact declared_ne_placeholder type _ _

/-- No remark has a colon, which stands behind the name of a field of an unknown type. -/
theorem untyped_ne_line (scope : String) (field : FieldRow) (r : Remark) :
    "\t" ++ meaningText scope (.untyped field) ≠ r.line := by
  have hdecimal : ∀ v, ':' ∉ (Numeral.decimal v).toList := Numeral.not_mem_decimal (by decide)
  have hremark : ':' ∉ r.line.toList := by
    cases r <;> simp [Remark.line, hdecimal]
  intro h
  refine hremark ?_
  rw [← h]
  simp [meaningText, comment]

/-- No remark begins like the line of a nested struct. -/
theorem nested_ne_line (scope : String) (d : StructDecl) (r : Remark) :
    "\t" ++ meaningText scope (.nested d) ≠ r.line := by
  intro h
  rw [Remark.line_eq, meaningText] at h
  simp only [comment, String.append_assoc, String.append_right_inj] at h
  have hchars := congrArg String.toList h
  cases r <;> simp at hchars

/-- A line makes the remark that belongs to the member, whatever names stand in it. -/
theorem remark?_meaningText (scope : String) (meaning : Meaning) :
    remark? ("\t" ++ meaningText scope meaning) = meaning.remark? := by
  cases meaning with
  | typed field type => exact remark?_eq_none_iff.mpr (typed_ne_line scope field type)
  | untyped field => exact remark?_eq_none_iff.mpr (untyped_ne_line scope field)
  | nested d => exact remark?_eq_none_iff.mpr (nested_ne_line scope d)
  | missingField _ | missingStruct _ | tagged _ _ =>
    simp only [Meaning.remark?, remark?_eq_some_iff, Remark.line_eq, meaningText,
      Remark.text_missingField, Remark.text_missingStruct, Remark.text_tagged]

/-- What a member is remarked upon for is what is found about it. -/
theorem memberFindings_eq {s : Schema} {m : Member} (h : m.tag.IsMarked) (structId : Int64) :
    s.memberFindings structId m =
      ((meaning s m).remark?.bind (Remark.finding? structId)).toList := by
  unfold Schema.memberFindings meaning
  cases htag : m.tag with
  | field =>
    cases hf : s.fields.get? m.value with
    | none => simp [OrderedMap.contains_eq_isSome_get?, hf, Meaning.remark?, Remark.finding?]
    | some field =>
      cases ht : field.type? <;>
        simp [OrderedMap.contains_eq_isSome_get?, hf, ht, Meaning.remark?]
  | struct =>
    cases hd : s.structs.get? m.value <;>
      simp [OrderedMap.contains_eq_isSome_get?, hd, Meaning.remark?, Remark.finding?]
  | unchecked code =>
    have hcode : code = 2 ∨ code = 6 := by simpa only [htag, Tag.IsMarked] using h
    simp only [Meaning.remark?, Option.bind_some, Remark.finding?, if_pos hcode, Option.toList_none]
  | surprising code =>
    have hcode : ¬ (code = 2 ∨ code = 6) := by simpa only [htag, Tag.IsMarked] using h
    simp only [Meaning.remark?, Option.bind_some, Remark.finding?, if_neg hcode, Option.toList_some]

theorem sublist_allLines (scope : String) (s : Schema) :
    (s.placedMembers.map fun p => memberLine scope s p.2).Sublist (allLines scope s) := by
  have hlines : s.placedMembers.map (fun p => memberLine scope s p.2) =
      s.structs.values.flatMap fun d => d.members.map (memberLine scope s) := by
    simp only [Schema.placedMembers, List.map_flatMap, List.map_map, Function.comp_def]
  rw [hlines]
  refine List.Sublist.trans (List.Sublist.flatMap_right _ fun d _ => ?_)
    (List.sublist_append_right ..)
  exact (List.sublist_cons_self ..).trans (List.sublist_append_left ..)

/-- **Remarks in lines and findings about members agree.** Take any run of steps and any scope, and
go through the members in the order of their lines. A line makes a remark only if it is the line of
that remark, and no names make the line of a field or struct of the schema such a line. What is
found about each member is what its line remarks, and nothing if it remarks nothing; so these
remarks in turn are all findings about members in turn. -/
theorem remarks_agree (steps : List Schema.Step) (scope : String) :
    let s := Schema.ofSteps steps
    let remarked? (p : Int64 × Member) := (remark? (memberLine scope s p.2)).bind (·.finding? p.1)
    (s.placedMembers.map fun p => memberLine scope s p.2).Sublist (allLines scope s) ∧
      s.validate.filter (·.kind ∈ Schema.memberKinds) = s.placedMembers.filterMap remarked? ∧
      (∀ p ∈ s.placedMembers, s.memberFindings p.1 p.2 = (remarked? p).toList) ∧
      (∀ line r, remark? line = some r ↔ line = r.line) ∧
      ∀ meaning : Meaning, remark? ("\t" ++ meaningText scope meaning) = meaning.remark? := by
  intro s remarked?
  have hmember : ∀ p ∈ s.placedMembers, s.memberFindings p.1 p.2 = (remarked? p).toList := by
    intro p hp
    have hline : remark? (memberLine scope s p.2) = (meaning s p.2).remark? :=
      remark?_meaningText scope _
    simp only [remarked?, hline]
    exact memberFindings_eq (Schema.isMarked_of_mem_placedMembers hp) p.1
  refine ⟨sublist_allLines scope s, ?_, hmember, fun _ _ => remark?_eq_some_iff,
    remark?_meaningText scope⟩
  rw [Schema.filter_kind_validate, List.filterMap_eq_flatMap_toList]
  exact List.flatMap_congr hmember

-- a struct may be called what a remark says
example : remark? "\t???; /* missing struct -9 */" = some (.missingStruct (-9)) ∧
    remark? "\t???; /* struct missing_struct_-9 */" = none := by decide +kernel

end Declaration

end WireDictionary
