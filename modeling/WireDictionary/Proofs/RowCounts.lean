import WireDictionary.Proofs.PushedLines
import WireDictionary.Proofs.References
import Mathlib.Algebra.GroupWithZero.Nat

/-! # What becomes of the rows that are counted

The summary counts the rows of the tables, and the schema is put together from
them step by step. Every value row ends up once, as a value of its enum or in a
finding that it has none (`values_perm`), and every fragment ends up once as a
member of its struct (`members_perm`). So the numbers of the summary are those of
the schema and its findings.
-/
namespace WireDictionary

/-- Grouping items by keys keeps those whose key is among them, each once. -/
theorem flatMap_filter_perm {α β : Type} [DecidableEq β] (f : α → β) {keys : List β}
    (hkeys : keys.Nodup) (items : List α) :
    (keys.flatMap fun k => items.filter (f · = k)).Perm (items.filter (f · ∈ keys)) := by
  have hgroup : ∀ k ∈ keys,
      items.filter (f · = k) = (items.filter (f · ∈ keys)).filter (f · = k) := by
    intro k hk
    rw [List.filter_filter]
    refine List.filter_congr fun a _ => ?_
    by_cases ha : f a = k <;> simp [ha, hk]
  rw [List.flatMap_congr hgroup]
  exact TableTexts.perm_flatMap_filter hkeys fun a ha => of_decide_eq_true (List.mem_filter.mp ha).2

namespace Dictionary

variable (t : TableTexts)

/-! ## Values and members -/

/-- The values of all enums are those of the standing rows whose enums are declared. -/
theorem values_perm :
    ((ofTexts t).schema.enums.values.flatMap EnumDecl.values).Perm
      (((Row.standing t.entryRows).filter fun row => row.id ∈ t.enumRows.map EnumRow.id).map
        EntryRow.enumValue) := by
  let group (id : Int64) : List EntryRow := (Row.standing t.entryRows).filter (·.id = id)
  have hvalues : ∀ id e, (ofTexts t).schema.enums.get? id = some e →
      e.values = sortedBy EnumValue.value ((group id).map EntryRow.enumValue) := by
    intro id e he
    rw [get?_enums_ofTexts, Option.map_eq_some_iff] at he
    obtain ⟨row, -, rfl⟩ := he
    rfl
  rw [OrderedMap.flatMap_values hvalues, keys_enums_ofTexts]
  refine (List.Perm.flatMap_left _ fun id _ => sortedBy_perm _ _).trans ?_
  rw [← List.map_flatMap]
  have hperm := flatMap_filter_perm EntryRow.id (nodup_eraseDups (t.enumRows.map EnumRow.id))
    (Row.standing t.entryRows)
  simp only [List.mem_eraseDups] at hperm
  exact hperm.map EntryRow.enumValue

/-- The members of all structs are those of the standing fragments. -/
theorem members_perm :
    ((ofTexts t).schema.structs.values.flatMap StructDecl.members).Perm
      ((Row.standing t.fragmentRows).map FragmentRow.member) := by
  rw [OrderedMap.flatMap_values fun _ _ hd => members_ofTexts t hd, keys_structs_ofTexts,
    ← List.map_flatMap]
  exact t.fragmentsByStruct_perm.map FragmentRow.member

/-! ## Counts -/

theorem counts_ofTexts : (ofTexts t).counts =
    { entities := (Row.standing t.entityRows).length
      enums := (Row.standing t.enumRows).length
      entries := (Row.standing t.entryRows).length
      fields := (Row.standing t.fieldRows).length
      fragments := (Row.standing t.fragmentRows).length } := by
  simp only [counts, ofTexts, Table.ofText, ← Table.length_toList, Table.toList_ofLines]
  rfl

theorem countP_missingOwner :
    (ofTexts t).schema.findings.countP (·.kind = .missingOwner) =
      ((Row.standing t.entryRows).filter fun row => row.id ∉ t.enumRows.map EnumRow.id).length := by
  have howner : ∀ rows : List EntryRow, rows.countP ((fun f : Finding => decide
      (f.kind = .missingOwner)) ∘ fun row => .missingOwner row.id row.value row.name) =
        rows.length := by
    intro rows
    exact List.countP_eq_length.mpr fun _ _ => rfl
  have hstrange : ∀ rows : List FieldRow, rows.countP ((fun f : Finding => decide
      (f.kind = .missingOwner)) ∘ fun row => .strangeField row.id row.name row.baseType) = 0 := by
    intro rows
    exact List.countP_eq_zero.mpr fun _ _ => Bool.false_ne_true
  rw [(describes_schema t).findings, List.countP_append, List.countP_map, List.countP_map, howner,
    hstrange, Nat.add_zero]

/-- A standing value row either belongs to a declared enum or is found to lack its enum. -/
theorem countP_missingOwner_add_values :
    (ofTexts t).schema.findings.countP (·.kind = .missingOwner) +
        ((ofTexts t).schema.enums.values.map fun e => e.values.length).sum =
      (Row.standing t.entryRows).length := by
  let owned (row : EntryRow) : Bool := row.id ∈ t.enumRows.map EnumRow.id
  have hvalues : ((ofTexts t).schema.enums.values.map fun e => e.values.length).sum =
      ((Row.standing t.entryRows).filter owned).length := by
    rw [← List.length_flatMap, (values_perm t).length_eq, List.length_map]
  have hsplit := (List.filter_append_perm owned (Row.standing t.entryRows)).length_eq
  rw [List.length_append] at hsplit
  rw [countP_missingOwner, hvalues, Nat.add_comm, ← hsplit]
  simp only [owned, decide_not]

theorem sum_members :
    ((ofTexts t).schema.structs.values.map fun d => d.members.length).sum =
      (Row.standing t.fragmentRows).length := by
  rw [← List.length_flatMap, (members_perm t).length_eq, List.length_map]

theorem size_enums : (ofTexts t).schema.enums.size = (Row.standing t.enumRows).length := by
  have hkeys := congrArg List.length (Row.map_key_standing t.enumRows)
  rw [List.length_map] at hkeys
  rw [← OrderedMap.length_keys, keys_enums_ofTexts, hkeys]
  rfl

/-- **Nothing is lost or counted twice.** Take the tables of any texts. The values of all enums and
the values found to lack an enum are as many as the rows of the value table; the members of all
structs are as many as the fragments; enums, fields and entities are as many as the rows of their
tables. What is found on the way is one finding for each value row whose enum no accepted line
declares, and behind these one for each field row with a base type beyond all codes, both in the
order of the tables. -/
theorem counts_add_up :
    (ofTexts t).schema.findings.countP (·.kind = .missingOwner) +
        ((ofTexts t).schema.enums.values.map fun e => e.values.length).sum =
          (ofTexts t).counts.entries ∧
      ((ofTexts t).schema.structs.values.map fun d => d.members.length).sum =
        (ofTexts t).counts.fragments ∧
      (ofTexts t).schema.enums.size = (ofTexts t).counts.enums ∧
      (ofTexts t).schema.fields.size = (ofTexts t).counts.fields ∧
      (ofTexts t).schema.entities.size = (ofTexts t).counts.entities ∧
      (ofTexts t).schema.findings =
        ((ofTexts t).entries.toList.filter fun row => row.id ∉ t.enumRows.map EnumRow.id).map
            (fun row => .missingOwner row.id row.value row.name) ++
          ((ofTexts t).fields.toList.filter fun row => 16 < row.baseType).map
            fun row => .strangeField row.id row.name row.baseType := by
  have hentries : (ofTexts t).entries.toList = Row.standing t.entryRows := Table.toList_ofLines _
  have hfields : (ofTexts t).fields.toList = Row.standing t.fieldRows := Table.toList_ofLines _
  rw [counts_ofTexts, hentries, hfields]
  refine ⟨countP_missingOwner_add_values t, sum_members t, size_enums t, ?_, ?_,
    (describes_schema t).findings⟩
  · rw [← OrderedMap.length_values, (describes_schema t).fields]
  · rw [← OrderedMap.length_values, (describes_schema t).entities, List.length_map]

end Dictionary

end WireDictionary
