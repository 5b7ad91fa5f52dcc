import WireDictionary.Declaration
import WireDictionary.Proofs.Description
import WireDictionary.Schema.Validation

/-! # The order of lines does not show

Values are sorted into their enums and members into their structs, and fields are
only looked up. So the lines of these three tables may change places: where no
key comes twice, the last line with a key is the only one. Only the first lines
of structs have to keep their order, because the structs are declared in it. What
was found on the way comes in the order of the lines.
-/
namespace WireDictionary

/-! ## Rows in another order -/

namespace Row

variable {K R : Type} [Row K R]

theorem accepted_perm {lines lines' : List String} (h : lines.Perm lines') :
    (accepted R lines).Perm (accepted R lines') :=
  h.filterMap _

variable [DecidableEq K] {rows rows' : List R}

/-- A row that is alone with its key is the last with it in any order. -/
theorem last?_eq_of_perm (hperm : rows.Perm rows') (h : (rows.map key).Nodup) (k : K) :
    last? rows k = last? rows' k := by
  have h' : (rows'.map key).Nodup := (hperm.map key).nodup_iff.mp h
  ext row
  rw [last?_eq_some_iff_of_nodup h, last?_eq_some_iff_of_nodup h', hperm.mem_iff]

theorem standing_perm (hperm : rows.Perm rows') (h : (rows.map key).Nodup) :
    (standing rows).Perm (standing rows') := by
  have h' : (rows'.map key).Nodup := (hperm.map key).nodup_iff.mp h
  rwa [standing_eq_self h, standing_eq_self h']

end Row

/-! ## Schemas that look alike -/

/-- Schemas that differ at most in the order of their fields and in what was found. -/
structure Schema.Alike (s s' : Schema) : Prop where
  enums : s.enums.values = s'.enums.values
  structs : s.structs.values = s'.structs.values
  entities : s.entities.values = s'.entities.values
  field? : ∀ id, s.fields.get? id = s'.fields.get? id
  struct? : ∀ id, s.structs.get? id = s'.structs.get? id

namespace Schema.Alike

variable {s s' : Schema}

/-- Schemas that look alike are declared alike. -/
theorem text_eq (h : s.Alike s') (scope : String) :
    Declaration.text scope s = Declaration.text scope s' := by
  have hmember : Declaration.memberLine scope s = Declaration.memberLine scope s' := by
    funext m
    simp only [Declaration.memberLine, Declaration.meaning, h.field?, h.struct?]
  have hstruct : Declaration.structLines scope s = Declaration.structLines scope s' := by
    funext d
    rw [Declaration.structLines, Declaration.structLines, hmember]
  rw [Declaration.text, Declaration.text, Declaration.allLines, Declaration.allLines, h.enums,
    h.structs, hstruct]

/-- Schemas that look alike have the same references, and the same of them lead nowhere. -/
theorem validate_eq (h : s.Alike s') : s.validate = s'.validate := by
  have hfields : ∀ id, s.fields.contains id = s'.fields.contains id := fun id =>
    congrArg Option.isSome (h.field? id)
  have hstructs : ∀ id, s.structs.contains id = s'.structs.contains id := fun id =>
    congrArg Option.isSome (h.struct? id)
  have hmember : s.memberFindings = s'.memberFindings := by
    funext structId m
    simp only [memberFindings, hfields, hstructs]
  have hstruct : s.structFindings = s'.structFindings := by
    funext d
    rw [structFindings, structFindings, hmember]
  have hentity : s.entityFindings = s'.entityFindings := by
    funext e
    simp only [entityFindings, hstructs]
  rw [validate, validate, h.structs, h.entities, hstruct, hentity]

end Schema.Alike

/-! ## Lines in another order -/

theorem Dictionary.get?_structs_eq_some_iff {t : TableTexts} {id : Int64} {d : StructDecl} :
    (ofTexts t).schema.structs.get? id = some d ↔
      d ∈ (ofTexts t).schema.structs.values ∧ d.id = id :=
  OrderedMap.get?_eq_some_iff_mem_values fun id d hd => by rw [get?_structs_ofTexts t hd]

namespace TableTexts

/-- The tables of values, fields and fragments with their lines in another order. Structs first
appear in the same order as before. -/
structure IsReordering (t t' : TableTexts) : Prop where
  enums : t'.enums = t.enums
  entities : t'.entities = t.entities
  entries : (Text.linesOf t.entries).Perm (Text.linesOf t'.entries)
  fields : (Text.linesOf t.fields).Perm (Text.linesOf t'.fields)
  fragments : (Text.linesOf t.fragments).Perm (Text.linesOf t'.fragments)
  structIds : (t.fragmentRows.map FragmentRow.id).eraseDups =
    (t'.fragmentRows.map FragmentRow.id).eraseDups

/-- No key comes twice among the values, the fields or the fragments. -/
structure KeysDiffer (t : TableTexts) : Prop where
  entries : (t.entryRows.map Row.key).Nodup
  fields : (t.fieldRows.map Row.key).Nodup
  fragments : (t.fragmentRows.map Row.key).Nodup

namespace IsReordering

open Dictionary (ofTexts describes_schema)

variable {t t' : TableTexts}

theorem enumRows_eq (h : t.IsReordering t') : t'.enumRows = t.enumRows := by
  rw [enumRows, enumRows, h.enums]

theorem entityRows_eq (h : t.IsReordering t') : t'.entityRows = t.entityRows := by
  rw [entityRows, entityRows, h.entities]

theorem entryRows_perm (h : t.IsReordering t') : t.entryRows.Perm t'.entryRows :=
  Row.accepted_perm h.entries

theorem fieldRows_perm (h : t.IsReordering t') : t.fieldRows.Perm t'.fieldRows :=
  Row.accepted_perm h.fields

theorem fragmentRows_perm (h : t.IsReordering t') : t.fragmentRows.Perm t'.fragmentRows :=
  Row.accepted_perm h.fragments

theorem describesEnum (h : t.IsReordering t') (hkeys : t.KeysDiffer) {e : EnumDecl}
    (he : t.DescribesEnum e) : t'.DescribesEnum e where
  named := by
    rw [h.enumRows_eq]
    exact he.named
  ascending := he.ascending
  mem_values v := by
    rw [he.mem_values, Row.last?_eq_of_perm h.entryRows_perm hkeys.entries]

theorem describesStruct (h : t.IsReordering t') (hkeys : t.KeysDiffer) {d : StructDecl}
    (hd : t.DescribesStruct d) : t'.DescribesStruct d where
  named := by
    rw [h.entityRows_eq]
    exact hd.named
  ascending := hd.ascending
  mem_members m := by
    rw [hd.mem_members, Row.last?_eq_of_perm h.fragmentRows_perm hkeys.fragments]

theorem enums_eq (h : t.IsReordering t') (hkeys : t.KeysDiffer) :
    (ofTexts t).schema.enums.values = (ofTexts t').schema.enums.values := by
  have hids : (ofTexts t).schema.enums.values.map EnumDecl.id =
      (ofTexts t').schema.enums.values.map EnumDecl.id := by
    rw [(describes_schema t).enumIds, (describes_schema t').enumIds, h.enumRows_eq]
  have hdescribed : ∀ e ∈ (ofTexts t).schema.enums.values, t'.DescribesEnum e := fun e he =>
    h.describesEnum hkeys ((describes_schema t).enums e he)
  exact eq_of_map_eq (fun _ _ he he' => he.eq he') hdescribed (describes_schema t').enums hids

theorem structs_eq (h : t.IsReordering t') (hkeys : t.KeysDiffer) :
    (ofTexts t).schema.structs.values = (ofTexts t').schema.structs.values := by
  have hids : (ofTexts t).schema.structs.values.map StructDecl.id =
      (ofTexts t').schema.structs.values.map StructDecl.id := by
    rw [(describes_schema t).structIds, (describes_schema t').structIds, h.structIds]
  have hdescribed : ∀ d ∈ (ofTexts t).schema.structs.values, t'.DescribesStruct d := fun d hd =>
    h.describesStruct hkeys ((describes_schema t).structs d hd)
  exact eq_of_map_eq (fun _ _ hd hd' => hd.eq hd') hdescribed (describes_schema t').structs hids

/-- Tables with their lines in another order give schemas that look alike. -/
theorem alike (h : t.IsReordering t') (hkeys : t.KeysDiffer) :
    (ofTexts t).schema.Alike (ofTexts t').schema where
  enums := h.enums_eq hkeys
  structs := h.structs_eq hkeys
  entities := by
    rw [(describes_schema t).entities, (describes_schema t').entities, h.entityRows_eq]
  field? id := by
    rw [Dictionary.get?_fields_ofTexts, Dictionary.get?_fields_ofTexts,
      Row.last?_eq_of_perm h.fieldRows_perm hkeys.fields]
  struct? id := by
    ext d
    rw [Dictionary.get?_structs_eq_some_iff, Dictionary.get?_structs_eq_some_iff,
      h.structs_eq hkeys]

/-- What was found in tables is found in them in any order of their lines. -/
theorem findings_perm (h : t.IsReordering t') (hkeys : t.KeysDiffer) :
    (ofTexts t).schema.findings.Perm (ofTexts t').schema.findings := by
  have hentries := Row.standing_perm h.entryRows_perm hkeys.entries
  have hfields := Row.standing_perm h.fieldRows_perm hkeys.fields
  rw [(describes_schema t).findings, (describes_schema t').findings, h.enumRows_eq]
  exact ((hentries.filter _).map _).append ((hfields.filter _).map _)

end IsReordering

end TableTexts

namespace Dictionary

/-- **The order of lines does not show.** Lines of values, fields and fragments may change places as
long as their keys differ and structs first appear in the same order. All declarations stay as they
are, and so do the references that lead nowhere; what is found on the way may come in another
order. -/
theorem order_of_lines_hidden {t t' : TableTexts} (h : t.IsReordering t') (hkeys : t.KeysDiffer) :
    (∀ scope, Declaration.text scope (ofTexts t).schema =
        Declaration.text scope (ofTexts t').schema) ∧
      (ofTexts t).schema.validate = (ofTexts t').schema.validate ∧
      (ofTexts t).schema.findings.Perm (ofTexts t').schema.findings :=
  ⟨(h.alike hkeys).text_eq, (h.alike hkeys).validate_eq, h.findings_perm hkeys⟩

/-- Nothing but the order of what was found tells the two apart. -/
theorem moved_lines_hidden :
    let t : TableTexts :=
      { enums := "1^color^0^0"
        entries := "9^1^lost\n1^2^red\nno row\n1^0x1^blue\n8^1^gone"
        fields := "1^speed^8^2^0^0\n2^odd^8^17^0^0"
        fragments := "5^2^1^6^b^0^0^none\n6^1^0^4^a^0^0^none\n5^1^0^1^c^0^0^none"
        entities := "1^1^status^5\n1^2^lost^7" }
    let t' : TableTexts :=
      { t with
        entries := "8^1^gone\n1^0x1^blue\n1^2^red\n9^1^lost\nno row"
        fields := "2^odd^8^17^0^0\n1^speed^8^2^0^0"
        fragments := "5^1^0^1^c^0^0^none\n5^2^1^6^b^0^0^none\n6^1^0^4^a^0^0^none" }
    (ofTexts t).schema.findings ≠ (ofTexts t').schema.findings ∧
      (∀ scope, Declaration.text scope (ofTexts t).schema =
        Declaration.text scope (ofTexts t').schema) ∧
      (ofTexts t).schema.validate = (ofTexts t').schema.validate ∧
      (ofTexts t).schema.findings.Perm (ofTexts t').schema.findings :=
  ⟨by decide +kernel,
    order_of_lines_hidden
      ⟨rfl, rfl, by decide +kernel, by decide +kernel, by decide +kernel, by decide +kernel⟩
      ⟨by decide +kernel, by decide +kernel, by decide +kernel⟩⟩

end Dictionary

end WireDictionary
