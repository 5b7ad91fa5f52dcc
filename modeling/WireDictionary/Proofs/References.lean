import WireDictionary.Proofs.Description
import WireDictionary.Schema.Validation
import Mathlib.Data.List.Perm.Basic

/-! # The references of table texts that lead nowhere

What checking the schema of table texts finds can be read off their accepted
lines: every standing fragment refers, by the code of its tag, to a field, to a
struct or to nothing, and every standing entity refers to a struct. A reference
leads nowhere if no accepted line has the id. Each standing row is looked at
once (`fragmentsByStruct_perm`), so nothing is found twice and nothing is left
out (`validate_exact`).
-/
namespace WireDictionary

namespace TableTexts

/-! ## What a row is found to be -/

/-- The finding about a fragment, by the code of its tag and the ids on accepted lines. -/
def fragmentFinding? (t : TableTexts) (row : FragmentRow) : Option Finding :=
  if row.tagCode = 0 then
    if row.value ∈ t.fieldRows.map FieldRow.id then none
    else some (.danglingField row.id row.value)
  else if row.tagCode = 1 then
    if row.value ∈ t.fragmentRows.map FragmentRow.id then none
    else some (.danglingStruct row.id row.value)
  else if row.tagCode = 2 ∨ row.tagCode = 6 then none
  else some (.surprisingMember row.id row.tagCode row.value)

/-- The finding about an entity: it may refer to a struct that no accepted line has. -/
def entityFinding? (t : TableTexts) (row : EntityRow) : Option Finding :=
  if row.structId ∈ t.fragmentRows.map FragmentRow.id then none
  else some (.missingStruct row.uniqueId row.name row.structId)

/-- The standing fragments, those of each struct by their places. The structs come in the order of
their first lines. -/
def fragmentsByStruct (t : TableTexts) : List FragmentRow :=
  (t.fragmentRows.map FragmentRow.id).eraseDups.flatMap fun id =>
    sortedBy FragmentRow.order ((Row.standing t.fragmentRows).filter (·.id = id))

/-- Items that are grouped by their keys are the same items. -/
theorem perm_flatMap_filter {α β : Type} [DecidableEq β] {f : α → β} {keys : List β}
    (hkeys : keys.Nodup) {items : List α} (h : ∀ a ∈ items, f a ∈ keys) :
    (keys.flatMap fun k => items.filter (f · = k)).Perm items := by
  induction keys generalizing items with
  | nil =>
    have hnil : items = [] := List.eq_nil_iff_forall_not_mem.mpr fun a ha => by cases h a ha
    rw [hnil]
    rfl
  | cons k keys ih =>
    obtain ⟨hk, hkeys⟩ := List.nodup_cons.mp hkeys
    -- the other groups are those of the items that are not in the first
    have hothers : (keys.flatMap fun j => items.filter (f · = j)) =
        keys.flatMap fun j => (items.filter (f · ≠ k)).filter (f · = j) := by
      refine List.flatMap_congr fun j hj => ?_
      have hjk : j ≠ k := fun he => hk (he ▸ hj)
      rw [List.filter_filter]
      refine List.filter_congr fun a _ => ?_
      by_cases ha : f a = j <;> simp [ha, hjk]
    have hrest : ∀ a ∈ items.filter (f · ≠ k), f a ∈ keys := by
      intro a ha
      obtain ⟨ha, hne⟩ := List.mem_filter.mp ha
      exact (List.mem_cons.mp (h a ha)).resolve_left (of_decide_eq_true hne)
    rw [List.flatMap_cons, hothers]
    refine ((ih hkeys hrest).append_left _).trans ?_
    simpa using List.filter_append_perm (f · = k) items

/-- Every standing fragment is looked at once. -/
theorem fragmentsByStruct_perm (t : TableTexts) :
    t.fragmentsByStruct.Perm (Row.standing t.fragmentRows) := by
  have hids : ∀ row ∈ Row.standing t.fragmentRows,
      row.id ∈ (t.fragmentRows.map FragmentRow.id).eraseDups := by
    intro row hrow
    rw [List.mem_eraseDups]
    exact List.mem_map_of_mem (Row.mem_of_last? (Row.mem_standing.mp hrow))
  refine (List.Perm.flatMap_left _ fun id _ => sortedBy_perm _ _).trans ?_
  exact perm_flatMap_filter (nodup_eraseDups _) hids

end TableTexts

namespace Dictionary

variable (t : TableTexts)

/-! ## What refers to nothing -/

theorem contains_fields_ofTexts (id : Int64) :
    (ofTexts t).schema.fields.contains id = true ↔ id ∈ t.fieldRows.map FieldRow.id := by
  rw [OrderedMap.contains_eq_isSome_get?, get?_fields_ofTexts, Row.isSome_last?_iff, Row.keys,
    List.mem_eraseDups]
  rfl

theorem contains_structs_ofTexts (id : Int64) :
    (ofTexts t).schema.structs.contains id = true ↔
      id ∈ t.fragmentRows.map FragmentRow.id := by
  rw [OrderedMap.contains_iff_mem_keys, keys_structs_ofTexts, List.mem_eraseDups]

/-- A member is found to be what its fragment is found to be. -/
theorem memberFindings_ofTexts (row : FragmentRow) :
    (ofTexts t).schema.memberFindings row.id row.member = (t.fragmentFinding? row).toList := by
  have htag : row.member.tag = Tag.ofCode row.tagCode := rfl
  have hvalue : row.member.value = row.value := rfl
  unfold Schema.memberFindings TableTexts.fragmentFinding?
  rw [htag, hvalue, Tag.ofCode]
  by_cases hfield : row.tagCode = 0
  · rw [if_pos hfield, if_pos hfield]
    simp only [contains_fields_ofTexts]
    split <;> rfl
  · rw [if_neg hfield, if_neg hfield]
    by_cases hstruct : row.tagCode = 1
    · rw [if_pos hstruct, if_pos hstruct]
      simp only [contains_structs_ofTexts]
      split <;> rfl
    · rw [if_neg hstruct, if_neg hstruct]
      by_cases hunchecked : row.tagCode = 2 ∨ row.tagCode = 6
      · rw [if_pos hunchecked, if_pos hunchecked]
        rfl
      · rw [if_neg hunchecked, if_neg hunchecked]
        rfl

/-- The members of a struct are those of its standing fragments, by their places. -/
theorem members_ofTexts {id : Int64} {d : StructDecl}
    (h : (ofTexts t).schema.structs.get? id = some d) :
    d.members = (sortedBy FragmentRow.order
      ((Row.standing t.fragmentRows).filter (·.id = id))).map FragmentRow.member := by
  rw [get?_structs_ofTexts t h]
  exact sortedBy_map (fun _ => rfl) _

theorem structFindings_ofTexts {id : Int64} {d : StructDecl}
    (h : (ofTexts t).schema.structs.get? id = some d) :
    (ofTexts t).schema.structFindings d =
      (sortedBy FragmentRow.order ((Row.standing t.fragmentRows).filter (·.id = id))).filterMap
        t.fragmentFinding? := by
  have hid : d.id = id := by rw [get?_structs_ofTexts t h]
  rw [Schema.structFindings, members_ofTexts t h, List.flatMap_map, List.filterMap_eq_flatMap_toList]
  refine List.flatMap_congr fun row hrow => ?_
  have hrowId : row.id = id := of_decide_eq_true (List.mem_filter.mp (mem_sortedBy.mp hrow)).2
  rw [hid, ← hrowId, memberFindings_ofTexts]

theorem entityFindings_ofTexts (row : EntityRow) :
    (ofTexts t).schema.entityFindings row.decl = (t.entityFinding? row).toList := by
  unfold Schema.entityFindings TableTexts.entityFinding?
  simp only [EntityRow.decl, contains_structs_ofTexts]
  split <;> rfl

theorem validate_ofTexts : (ofTexts t).schema.validate =
    t.fragmentsByStruct.filterMap t.fragmentFinding? ++
      (Row.standing t.entityRows).filterMap t.entityFinding? := by
  have hstructs : (ofTexts t).schema.structs.values.flatMap (ofTexts t).schema.structFindings =
      t.fragmentsByStruct.filterMap t.fragmentFinding? := by
    rw [OrderedMap.flatMap_values fun id d h => structFindings_ofTexts t h, keys_structs_ofTexts,
      TableTexts.fragmentsByStruct, List.filterMap_flatMap]
  have hentities : (ofTexts t).schema.entities.values.flatMap (ofTexts t).schema.entityFindings =
      (Row.standing t.entityRows).filterMap t.entityFinding? := by
    rw [(describes_schema t).entities, List.flatMap_map, List.filterMap_eq_flatMap_toList]
    exact List.flatMap_congr fun row _ => entityFindings_ofTexts t row
  rw [Schema.validate, hstructs, hentities]

/-- **Checking finds exactly the references that lead nowhere.** The fragments come first, struct by
struct and place by place, and then the entities. Every finding comes as often as there are standing
rows that it is about, so none is reported twice and none is left out. -/
theorem validate_exact :
    (ofTexts t).schema.validate =
        t.fragmentsByStruct.filterMap t.fragmentFinding? ++
          (Row.standing t.entityRows).filterMap t.entityFinding? ∧
      ∀ f, (ofTexts t).schema.validate.count f =
        (Row.standing t.fragmentRows).countP (fun row => t.fragmentFinding? row = some f) +
          (Row.standing t.entityRows).countP fun row => t.entityFinding? row = some f := by
  refine ⟨validate_ofTexts t, fun f => ?_⟩
  rw [validate_ofTexts, List.count_append, List.count_filterMap, List.count_filterMap,
    t.fragmentsByStruct_perm.countP_eq]
  simp only [beq_eq_decide]

-- a fragment that was replaced refers to nothing any more, and a struct may hold itself
example : (ofTexts ⟨"", "", "", "",
    "1^0^0^9^a^0^0^none\n1^1^1^1^b^0^0^none\n1^0^4^3^c^0^0^none"⟩).schema.validate =
      [.surprisingMember 1 4 3] := by decide +kernel

end Dictionary

end WireDictionary
