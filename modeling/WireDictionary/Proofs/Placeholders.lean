import WireDictionary.Declaration
import WireDictionary.Proofs.Description
import WireDictionary.Schema.Validation

/-! # Placeholders and the findings that explain them

Three places decide on their own whether a member has a type: a field is tested
when it is stored, a reference when the schema is checked, and both again when
the member is declared. For references and tags they agree. For fields they do
not: a base type below all codes gets a placeholder like one beyond them, but no
finding. Nothing else goes unexplained.
-/
namespace WireDictionary

/-! ## Codes of base types -/

theorem BaseType.ofCode?_eq_none_iff {code : Int64} :
    ofCode? code = none ↔ code < 0 ∨ maxCode < code := by
  have hzero : (0 : Int64).toInt = 0 := rfl
  have hmax : maxCode.toInt = 16 := rfl
  simp only [ofCode?, Int64.le_iff_toInt_le, Int64.lt_iff_toInt_lt, hzero, hmax]
  split
  · rw [List.getElem?_eq_none_iff]
    simp only [all, List.length_cons, List.length_nil]
    omega
  · simp only [true_iff]
    omega

/-! ## Members and findings -/

namespace Schema

variable {s : Schema}

theorem mem_validate_of_member {d : StructDecl} (hd : d ∈ s.structs.values) {m : Member}
    (hm : m ∈ d.members) {f : Finding} (hf : f ∈ s.memberFindings d.id m) : f ∈ s.validate :=
  List.mem_append_left _
    (List.mem_flatMap.mpr ⟨d, hd, List.mem_flatMap.mpr ⟨m, hm, hf⟩⟩)

/-- Checking references finds nothing about base types. -/
theorem strangeField_not_mem_validate (id : Int64) (name : String) (baseType : Int64) :
    .strangeField id name baseType ∉ s.validate := by
  intro h
  rcases List.mem_append.mp h with h | h
  · obtain ⟨d, -, h⟩ := List.mem_flatMap.mp h
    obtain ⟨m, -, h⟩ := List.mem_flatMap.mp h
    cases htag : m.tag with
    | field | struct =>
      simp only [memberFindings, htag] at h
      split at h <;> simp at h
    | unchecked _ | surprising _ => simp [memberFindings, htag] at h
  · obtain ⟨e, -, h⟩ := List.mem_flatMap.mp h
    unfold entityFindings at h
    split at h <;> simp at h

end Schema

namespace Dictionary

variable {t : TableTexts}

theorem id_of_get?_fields {id : Int64} {field : FieldRow}
    (h : (ofTexts t).schema.fields.get? id = some field) : field.id = id := by
  rw [get?_fields_ofTexts] at h
  exact Row.key_of_last? h

/-- The base type of a field is found strange exactly if it is beyond all codes. -/
theorem strangeField_mem_findings_iff {id : Int64} {field : FieldRow}
    (h : (ofTexts t).schema.fields.get? id = some field) :
    (∃ name, .strangeField id name field.baseType ∈ (ofTexts t).schema.findings) ↔
      BaseType.maxCode < field.baseType := by
  have hid : field.id = id := id_of_get?_fields h
  rw [(describes_schema t).findings]
  constructor
  · rintro ⟨name, hname⟩
    rcases List.mem_append.mp hname with howner | hstrange
    · simp at howner
    · obtain ⟨row, hrow, he⟩ := List.mem_map.mp hstrange
      obtain ⟨-, -, hbase⟩ := Finding.strangeField.inj he
      have hlt : Schema.isStrange row = true := (List.mem_filter.mp hrow).2
      rw [← hbase]
      exact of_decide_eq_true hlt
  · intro hlt
    have hstanding : field ∈ Row.standing t.fieldRows := by
      rw [get?_fields_ofTexts, ← hid] at h
      exact Row.mem_standing.mpr h
    refine ⟨field.name, List.mem_append_right _ (List.mem_map.mpr ⟨field, ?_, by rw [hid]⟩)⟩
    exact List.mem_filter.mpr ⟨hstanding, decide_eq_true hlt⟩

end Dictionary

namespace Declaration

/-! ## Lines -/

/-- A line that stands for a member of no declared type. -/
def IsPlaceholder (line : String) : Prop := ∃ rest, line = "\t" ++ placeholder ++ rest

theorem declared_ne_placeholder (type : BaseType) (text rest : String) :
    type.declared ++ text ≠ placeholder ++ rest := by
  intro h
  have hchars := congrArg String.toList h
  cases type <;> simp [BaseType.declared, placeholder] at hchars

/-- Only a member of a known type has a declaration of its own. -/
theorem isPlaceholder_memberLine_iff {scope : String} {s : Schema} {m : Member} :
    IsPlaceholder (memberLine scope s m) ↔ ∀ field type, meaning s m ≠ .typed field type := by
  rw [IsPlaceholder, memberLine]
  cases hm : meaning s m with
  | typed field type =>
    refine iff_of_false ?_ fun h => h field type rfl
    rintro ⟨rest, h⟩
    simp only [meaningText, String.append_assoc, String.append_right_inj] at h
    exact declared_ne_placeholder type _ rest h
  | untyped _ | missingField _ | nested _ | missingStruct _ | tagged _ _ =>
    simp only [meaningText, String.append_assoc, ne_eq, reduceCtorEq, not_false_eq_true,
      implies_true, iff_true]
    exact ⟨_, rfl⟩

theorem memberLine_mem_allLines (scope : String) {s : Schema} {d : StructDecl}
    (hd : d ∈ s.structs.values) {m : Member} (hm : m ∈ d.members) :
    memberLine scope s m ∈ allLines scope s := by
  have hline : memberLine scope s m ∈ structLines scope s d :=
    List.mem_append_left _ (List.mem_cons_of_mem _ (List.mem_map_of_mem hm))
  exact List.mem_append_right _ (List.mem_flatMap.mpr ⟨d, hd, hline⟩)

/-! ## Explanations -/

/-- Among findings is one that says why a member of a struct has no declared type, if there is
anything wrong with the member. -/
def Explained (s : Schema) (structId : Int64) (m : Member) (findings : List Finding) : Prop :=
  match meaning s m with
  | .typed _ _ | .nested _ => True
  | .untyped field => ∃ name, .strangeField m.value name field.baseType ∈ findings
  | .missingField id => .danglingField structId id ∈ findings
  | .missingStruct id => .danglingStruct structId id ∈ findings
  | .tagged code value =>
    m.tag = .unchecked code ∨ .surprisingMember structId code value ∈ findings

theorem meaning_eq_untyped_iff {s : Schema} {m : Member} {field : FieldRow} :
    meaning s m = .untyped field ↔
      m.tag = .field ∧ s.fields.get? m.value = some field ∧ field.type? = none := by
  cases htag : m.tag with
  | field =>
    cases hf : s.fields.get? m.value with
    | none => simp [meaning, htag, hf]
    | some other =>
      cases ht : other.type? with
      | none =>
        simp only [meaning, htag, hf, ht, Meaning.untyped.injEq, true_and, Option.some.injEq]
        exact ⟨fun he => ⟨he, he ▸ ht⟩, And.left⟩
      | some type =>
        simp only [meaning, htag, hf, ht, reduceCtorEq, true_and, Option.some.injEq, false_iff,
          not_and]
        rintro rfl hnone
        simp [ht] at hnone
  | struct => cases hd : s.structs.get? m.value <;> simp [meaning, htag, hd]
  | unchecked _ | surprising _ => simp [meaning, htag]

/-- Checking references explains all that may be wrong with a member but the type of a field. -/
theorem explained_iff_of_memberFindings {s : Schema} {structId : Int64} {m : Member}
    {findings : List Finding} (h : ∀ f ∈ s.memberFindings structId m, f ∈ findings) :
    Explained s structId m findings ↔ ∀ field, meaning s m = .untyped field →
      ∃ name, .strangeField m.value name field.baseType ∈ findings := by
  cases htag : m.tag with
  | field =>
    cases hf : s.fields.get? m.value with
    | none =>
      have hmem : .danglingField structId m.value ∈ findings :=
        h _ (by simp [Schema.memberFindings, htag, OrderedMap.get?_eq_none_iff.mp hf])
      simp [Explained, meaning, htag, hf, hmem]
    | some field =>
      cases ht : field.type? with
      | none => simp [Explained, meaning, htag, hf, ht]
      | some type => simp [Explained, meaning, htag, hf, ht]
  | struct =>
    cases hd : s.structs.get? m.value with
    | none =>
      have hmem : .danglingStruct structId m.value ∈ findings :=
        h _ (by simp [Schema.memberFindings, htag, OrderedMap.get?_eq_none_iff.mp hd])
      simp [Explained, meaning, htag, hd, hmem]
    | some d => simp [Explained, meaning, htag, hd]
  | unchecked code => simp [Explained, meaning, htag]
  | surprising code =>
    have hmem : .surprisingMember structId code m.value ∈ findings :=
      h _ (by simp [Schema.memberFindings, htag])
    simp [Explained, meaning, htag, hmem]

section OfTexts

open Dictionary (ofTexts)

variable {t : TableTexts}

/-- A field of an unknown type is explained exactly if its base type is not below all codes. -/
theorem strangeField_mem_iff_of_untyped {m : Member} {field : FieldRow}
    (h : meaning (ofTexts t).schema m = .untyped field) :
    (∃ name, .strangeField m.value name field.baseType ∈
        (ofTexts t).schema.findings ++ (ofTexts t).schema.validate) ↔ 0 ≤ field.baseType := by
  obtain ⟨-, hfield, htype⟩ := meaning_eq_untyped_iff.mp h
  have hfindings := Dictionary.strangeField_mem_findings_iff hfield
  simp only [List.mem_append, Schema.strangeField_not_mem_validate, or_false, hfindings]
  constructor
  · intro hmax
    exact Int64.le_trans (by decide) (Int64.le_of_lt hmax)
  · intro hzero
    rcases BaseType.ofCode?_eq_none_iff.mp htype with hneg | hmax
    · exact absurd (Int64.lt_of_lt_of_le hneg hzero) Int64.lt_irrefl
    · exact hmax

/-- **Only a base type below all codes goes unexplained.** Every member of the schema of table texts
has its line in the output, and the line is a placeholder unless the member is a field of a known
type. If anything is wrong with the member, a finding explains it, except where the member is a
field with a negative base type. -/
theorem explained_unless_below (t : TableTexts) (scope : String) {d : StructDecl}
    (hd : d ∈ (ofTexts t).schema.structs.values) {m : Member} (hm : m ∈ d.members) :
    memberLine scope (ofTexts t).schema m ∈ allLines scope (ofTexts t).schema ∧
      (IsPlaceholder (memberLine scope (ofTexts t).schema m) ↔
        ∀ field type, meaning (ofTexts t).schema m ≠ .typed field type) ∧
      (Explained (ofTexts t).schema d.id m
          ((ofTexts t).schema.findings ++ (ofTexts t).schema.validate) ↔
        ∀ field, meaning (ofTexts t).schema m = .untyped field → 0 ≤ field.baseType) := by
  refine ⟨memberLine_mem_allLines scope hd hm, isPlaceholder_memberLine_iff, ?_⟩
  rw [explained_iff_of_memberFindings fun f hf =>
    List.mem_append_right _ (Schema.mem_validate_of_member hd hm hf)]
  exact forall₂_congr fun field h => strangeField_mem_iff_of_untyped h

/-- The texts of a struct whose only member is a field of a base type. -/
def oneMember (baseType : String) : TableTexts where
  entities := ""
  entries := ""
  enums := ""
  fields := "1^speed^4^" ++ baseType ++ "^0^0"
  fragments := "1^0^0^1^speed^0^0^none"

theorem member_beyond_codes_explained :
    (⟨1, none, [⟨0, .field, 1⟩]⟩ : StructDecl) ∈ (ofTexts (oneMember "17")).schema.structs.values ∧
      Explained (ofTexts (oneMember "17")).schema 1 ⟨0, .field, 1⟩
        ((ofTexts (oneMember "17")).schema.findings ++
          (ofTexts (oneMember "17")).schema.validate) := by
  have hd : (⟨1, none, [⟨0, .field, 1⟩]⟩ : StructDecl) ∈
      (ofTexts (oneMember "17")).schema.structs.values := by decide +kernel
  have hmeaning : meaning (ofTexts (oneMember "17")).schema ⟨0, .field, 1⟩ =
      .untyped ⟨1, "speed", 4, 17, 0, false, none, false⟩ := by decide +kernel
  refine ⟨hd, (explained_unless_below (oneMember "17") defaultScope hd
    (List.mem_singleton.mpr rfl)).2.2.mpr fun field h => ?_⟩
  rw [← Meaning.untyped.inj (hmeaning.symm.trans h)]
  decide

theorem member_below_codes_unexplained :
    memberLine defaultScope (ofTexts (oneMember "-1")).schema ⟨0, .field, 1⟩ =
        "\t???; /* speed: base type -1 */" ∧
      ¬ Explained (ofTexts (oneMember "-1")).schema 1 ⟨0, .field, 1⟩
        ((ofTexts (oneMember "-1")).schema.findings ++
          (ofTexts (oneMember "-1")).schema.validate) := by
  have hmeaning : meaning (ofTexts (oneMember "-1")).schema ⟨0, .field, 1⟩ =
      .untyped ⟨1, "speed", 4, -1, 0, false, none, false⟩ := by decide +kernel
  have hnone : (ofTexts (oneMember "-1")).schema.findings ++
      (ofTexts (oneMember "-1")).schema.validate = [] := by decide +kernel
  refine ⟨by decide +kernel, ?_⟩
  simp [Explained, hmeaning, hnone]

end OfTexts

end Declaration

end WireDictionary
