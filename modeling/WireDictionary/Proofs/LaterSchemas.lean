import WireDictionary.Proofs.Previews
import WireDictionary.Proofs.Remarks

/-! # What later steps leave in place

No step takes an id or a member away: ids come behind those that are there, and
members between them. `Extends` says this of two schemas; every step extends the
schema that it is applied to (`extends_apply`), and so does a run. What is found
about a member is looked up in the ids alone, so a schema that extends another
finds no more about the members of both (`Extends.mem_memberFindings`), and what a
tag alone gives rise to stays (`Extends.sublist_filter_memberReports`).
-/
namespace WireDictionary

theorem prefix_ite_concat {α : Type} (c : Prop) [Decidable c] (l : List α) (a : α) :
    l <+: if c then l else l ++ [a] := by
  split
  · exact List.prefix_rfl
  · exact List.prefix_append _ _

namespace OrderedMap

variable {K V : Type} [DecidableEq K]

theorem keys_prefix_insert (m : OrderedMap K V) (k : K) (v : V) :
    m.keys <+: (m.insert k v).2.keys := by
  rw [keys_insert]
  exact prefix_ite_concat _ _ _

theorem contains_of_keys_prefix {m n : OrderedMap K V} (h : m.keys <+: n.keys) {k : K}
    (hk : m.contains k = true) : n.contains k = true :=
  contains_iff_mem_keys.mpr (h.subset (contains_iff_mem_keys.mp hk))

end OrderedMap

namespace Schema

/-- All ids of a schema come first in another, in the same order, and all members of its structs are
among those of the other, in the same order. -/
structure Extends (s s' : Schema) : Prop where
  enums : s.enums.keys <+: s'.enums.keys
  fields : s.fields.keys <+: s'.fields.keys
  structs : s.structs.keys <+: s'.structs.keys
  entities : s.entities.keys <+: s'.entities.keys
  members : ∀ id d, s.structs.get? id = some d →
    ∃ d', s'.structs.get? id = some d' ∧ d.members.Sublist d'.members

theorem Extends.refl (s : Schema) : s.Extends s where
  enums := List.prefix_rfl
  fields := List.prefix_rfl
  structs := List.prefix_rfl
  entities := List.prefix_rfl
  members _ d hd := ⟨d, hd, List.Sublist.refl _⟩

theorem Extends.trans {s t u : Schema} (h : s.Extends t) (h' : t.Extends u) : s.Extends u where
  enums := h.enums.trans h'.enums
  fields := h.fields.trans h'.fields
  structs := h.structs.trans h'.structs
  entities := h.entities.trans h'.entities
  members id d hd := by
    obtain ⟨d', hd', hsub⟩ := h.members id d hd
    obtain ⟨d'', hd'', hsub'⟩ := h'.members id d' hd'
    exact ⟨d'', hd'', hsub.trans hsub'⟩

/-! ## Steps -/

/-- A step only ever puts members between those that a struct has. -/
theorem exists_structAfter_of_members (id : Int64) (d : StructDecl) (step : Step) :
    ∃ d', structAfter id (some d) step = some d' ∧ d.members.Sublist d'.members := by
  cases step with
  | fragment row =>
    simp only [structAfter]
    split
    · exact ⟨_, rfl, sublist_insertAscending _ _ _⟩
    · exact ⟨d, rfl, List.Sublist.refl _⟩
  | entity row =>
    simp only [structAfter]
    split
    · exact ⟨_, rfl, List.Sublist.refl _⟩
    · exact ⟨d, rfl, List.Sublist.refl _⟩
  | enum row | strictEntry row | entry row | field row => exact ⟨d, rfl, List.Sublist.refl _⟩

theorem extends_apply (s : Schema) (step : Step) : s.Extends (s.apply step) where
  enums := by
    rw [keys_enums_apply]
    split
    · exact prefix_ite_concat _ _ _
    · exact List.prefix_rfl
  fields := by
    rw [fields_apply]
    split
    · exact OrderedMap.keys_prefix_insert _ _ _
    · exact List.prefix_rfl
  structs := by
    rw [keys_structs_apply]
    split
    · exact prefix_ite_concat _ _ _
    · exact List.prefix_rfl
  entities := by
    rw [entities_apply]
    split
    · exact OrderedMap.keys_prefix_insert _ _ _
    · exact List.prefix_rfl
  members id d hd := by
    rw [get?_structs_apply, hd]
    exact exists_structAfter_of_members id d step

theorem extends_applyAll (s : Schema) (steps : List Step) : s.Extends (s.applyAll steps) := by
  induction steps generalizing s with
  | nil => exact Extends.refl s
  | cons step steps ih =>
    rw [applyAll_cons]
    exact (extends_apply s step).trans (ih (s.apply step))

theorem extends_ofSteps_append (steps later : List Step) :
    (ofSteps steps).Extends (ofSteps (steps ++ later)) := by
  unfold ofSteps
  rw [applyAll_append]
  exact extends_applyAll _ later

/-! ## Members and what is found about them -/

/-- The members found under the id of a struct, with the id. -/
def membersAt (s : Schema) (id : Int64) : List (Int64 × Member) :=
  (s.structs.get? id).elim [] fun d => d.members.map fun m => (id, m)

theorem KeyedById.placedMembers_eq {s : Schema} (h : s.KeyedById) :
    s.placedMembers = s.structs.keys.flatMap s.membersAt := by
  refine OrderedMap.flatMap_values fun id d hd => ?_
  rw [membersAt, hd, h.structs id d hd]
  rfl

theorem Extends.sublist_membersAt {s s' : Schema} (h : s.Extends s') (id : Int64) :
    (s.membersAt id).Sublist (s'.membersAt id) := by
  unfold membersAt
  cases hd : s.structs.get? id with
  | none => exact List.nil_sublist _
  | some d =>
    obtain ⟨d', hd', hsub⟩ := h.members id d hd
    rw [hd']
    exact hsub.map _

theorem Extends.sublist_placedMembers {s s' : Schema} (h : s.Extends s') (hs : s.KeyedById)
    (hs' : s'.KeyedById) : s.placedMembers.Sublist s'.placedMembers := by
  -- later ids only add members behind those of the earlier ids
  obtain ⟨ids, hids⟩ := h.structs
  rw [hs.placedMembers_eq, hs'.placedMembers_eq, ← hids, List.flatMap_append]
  exact (List.Sublist.flatMap_right _ fun id _ => h.sublist_membersAt id).trans
    (List.sublist_append_left _ _)

/-- Every finding about a member, in the order of the checks, with the member that it is about. -/
def memberReports (s : Schema) : List ((Int64 × Member) × Finding) :=
  s.placedMembers.flatMap fun p => (s.memberFindings p.1 p.2).map fun f => (p, f)

theorem map_snd_memberReports (s : Schema) :
    s.memberReports.map Prod.snd = s.validate.filter (·.kind ∈ memberKinds) := by
  rw [filter_kind_validate, memberReports, List.map_flatMap]
  simp only [List.map_map, Function.comp_def, List.map_id']

theorem mem_memberReports {s : Schema} {p : Int64 × Member} {f : Finding} :
    (p, f) ∈ s.memberReports ↔ p ∈ s.placedMembers ∧ f ∈ s.memberFindings p.1 p.2 := by
  simp [memberReports]

/-- What is found with more ids is found with fewer. -/
theorem Extends.mem_memberFindings {s s' : Schema} (h : s.Extends s') {structId : Int64}
    {m : Member} {f : Finding} (hf : f ∈ s'.memberFindings structId m) : f ∈ s.memberFindings structId m := by
  -- an id that is there is still there later, and then nothing is found in either schema
  unfold memberFindings at *
  cases htag : m.tag with
  | field =>
    simp only [htag] at hf ⊢
    split
    · rename_i hc
      rwa [if_pos (OrderedMap.contains_of_keys_prefix h.fields hc)] at hf
    · split at hf
      · cases hf
      · exact hf
  | struct =>
    simp only [htag] at hf ⊢
    split
    · rename_i hc
      rwa [if_pos (OrderedMap.contains_of_keys_prefix h.structs hc)] at hf
    · split at hf
      · cases hf
      · exact hf
  | unchecked code | surprising code => simpa only [htag] using hf

/-- What a tag alone gives rise to. -/
def surprises (p : Int64 × Member) : List ((Int64 × Member) × Finding) :=
  match p.2.tag with
  | .surprising code => [(p, .surprisingMember p.1 code p.2.value)]
  | .field | .struct | .unchecked _ => []

theorem filter_memberReports (s : Schema) :
    s.memberReports.filter (·.2.kind = .surprisingMember) = s.placedMembers.flatMap surprises := by
  rw [memberReports, List.filter_flatMap]
  refine List.flatMap_congr fun p _ => ?_
  unfold memberFindings surprises
  cases p.2.tag with
  | field => cases s.fields.contains p.2.value <;> rfl
  | struct => cases s.structs.contains p.2.value <;> rfl
  | unchecked code | surprising code => rfl

theorem Extends.sublist_filter_memberReports {s s' : Schema} (h : s.Extends s') (hs : s.KeyedById)
    (hs' : s'.KeyedById) :
    (s.memberReports.filter (·.2.kind = .surprisingMember)).Sublist
      (s'.memberReports.filter (·.2.kind = .surprisingMember)) := by
  rw [filter_memberReports, filter_memberReports]
  exact (h.sublist_placedMembers hs hs').flatMap _

/-- **What is resolved stays resolved.** Take any run of steps and any steps behind it. The ids of
the enums, fields, structs and entities of the earlier schema come first in the later one, and the
members of each earlier struct are among its later members in the same order. Whatever is found in
the later schema about a member that was there before had been found about it before, and what was
found because of its tag is found again. Put together, these are all findings of the checks but
those about entities. -/
theorem resolved_stays_resolved (steps later : List Step) :
    let s := ofSteps steps
    let s' := ofSteps (steps ++ later)
    (∀ id d, s.structs.get? id = some d →
      ∃ d', s'.structs.get? id = some d' ∧ d.members.Sublist d'.members) ∧
    (s.enums.values.map EnumDecl.id <+: s'.enums.values.map EnumDecl.id) ∧
    (s.fields.values.map FieldRow.id <+: s'.fields.values.map FieldRow.id) ∧
    (s.structs.values.map StructDecl.id <+: s'.structs.values.map StructDecl.id) ∧
    (s.entities.values.map EntityDecl.uniqueId <+: s'.entities.values.map EntityDecl.uniqueId) ∧
    s.memberReports.map Prod.snd = s.validate.filter (·.kind ∈ memberKinds) ∧
    s'.memberReports.map Prod.snd = s'.validate.filter (·.kind ∈ memberKinds) ∧
    (∀ r ∈ s'.memberReports, r.1 ∈ s.placedMembers → r ∈ s.memberReports) ∧
    (s.memberReports.filter (·.2.kind = .surprisingMember)).Sublist
      (s'.memberReports.filter (·.2.kind = .surprisingMember)) := by
  intro s s'
  have h : s.Extends s' := extends_ofSteps_append steps later
  have hs : s.KeyedById := keyedById_ofSteps steps
  have hs' : s'.KeyedById := keyedById_ofSteps (steps ++ later)
  rw [OrderedMap.map_values hs.enums, OrderedMap.map_values hs'.enums,
    OrderedMap.map_values hs.fields, OrderedMap.map_values hs'.fields,
    OrderedMap.map_values hs.structs, OrderedMap.map_values hs'.structs,
    OrderedMap.map_values hs.entities, OrderedMap.map_values hs'.entities]
  refine ⟨h.members, h.enums, h.fields, h.structs, h.entities, map_snd_memberReports s,
    map_snd_memberReports s', ?_, h.sublist_filter_memberReports hs hs'⟩
  rintro ⟨p, f⟩ hr hp
  exact mem_memberReports.mpr ⟨hp, h.mem_memberFindings (mem_memberReports.mp hr).2⟩

/-- Three members of a struct, one of an unknown kind and two of missing fields; then one of the
fields comes, and a member of a third missing field between the others. -/
theorem late_field_resolved :
    let member (order tag value : Int64) : Step :=
      .fragment ⟨5, order, tag, value, "a", 0, 0, "none"⟩
    let steps := [member 4 0 12, member 3 0 10, member 1 4 7]
    let later := [.field ⟨10, "speed", 8, 2, 0, false, none, false⟩, member 2 0 11]
    let s := ofSteps steps
    let s' := ofSteps (steps ++ later)
    (∃ d', s'.structs.get? 5 = some d' ∧
      [⟨1, .surprising 4, 7⟩, ⟨3, .field, 10⟩, ⟨4, .field, 12⟩].Sublist d'.members) ∧
    ((5, ⟨4, .field, 12⟩), .danglingField 5 12) ∈ s.memberReports ∧
    s.validate = [.surprisingMember 5 4 7, .danglingField 5 10, .danglingField 5 12] ∧
    s'.validate = [.surprisingMember 5 4 7, .danglingField 5 11, .danglingField 5 12] := by
  intro member steps later s s'
  have hd : s.structs.get? 5 = some
      ⟨5, none, [⟨1, .surprising 4, 7⟩, ⟨3, .field, 10⟩, ⟨4, .field, 12⟩]⟩ := by decide +kernel
  obtain ⟨hmembers, -, -, -, -, -, -, hreports, -⟩ := resolved_stays_resolved steps later
  have hreport := hreports ((5, ⟨4, .field, 12⟩), .danglingField 5 12) (by decide +kernel)
    (by decide +kernel)
  exact ⟨hmembers 5 _ hd, hreport, by decide +kernel, by decide +kernel⟩

end Schema

end WireDictionary
