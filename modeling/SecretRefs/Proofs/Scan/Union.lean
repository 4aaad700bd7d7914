import SecretRefs.Proofs.Scan
import SecretRefs.Proofs.StoreKey.Reference

/-! Scans as sets. A report holds what some parameter of the list contributes, so it forgets the order of the list and
how often a parameter stands in it, and the report of two lists together is the union of their reports. The keys of
one namespace differ in their names, and come in the order of their texts. -/

namespace SecretRefs

namespace ReferenceReport

/-- What one report or the other holds. -/
def union (r s : ReferenceReport) : ReferenceReport where
  references := r.references.union s.references
  parameters := r.parameters.union s.parameters

/-- A report is determined by what belongs to it. -/
theorem ext_members {r s : ReferenceReport} (hreferences : ∀ k, k ∈ r.references.members ↔ k ∈ s.references.members)
    (hparameters : ∀ name, name ∈ r.parameters.members ↔ name ∈ s.parameters.members) : r = s := by
  cases r
  cases s
  exact congrArg₂ ReferenceReport.mk (KeySet.ext_members hreferences) (KeySet.ext_members hparameters)

end ReferenceReport

variable {ns : Namespace} {parameters : List (String × String)}

theorem scan_append (ns : Namespace) (parameters others : List (String × String)) :
    (scan ns (parameters ++ others)).value = (scan ns parameters).value.union (scan ns others).value := by
  apply ReferenceReport.ext_members
  · intro k
    rw [ReferenceReport.union, KeySet.mem_members_union, mem_references_scan, mem_references_scan,
      mem_references_scan]
    simp [or_and_right, exists_or]
  · intro name
    rw [ReferenceReport.union, KeySet.mem_members_union, mem_parameters_scan, mem_parameters_scan,
      mem_parameters_scan]
    simp [or_and_right, exists_or]

/-- The order of the parameters and their repetition do not matter. -/
theorem scan_congr_of_mem_iff {others : List (String × String)} (h : ∀ p, p ∈ others ↔ p ∈ parameters) :
    (scan ns others).value = (scan ns parameters).value := by
  apply ReferenceReport.ext_members
  · intro k
    rw [mem_references_scan, mem_references_scan]
    simp only [h]
  · intro name
    rw [mem_parameters_scan, mem_parameters_scan]
    simp only [h]

theorem exists_keyOf_of_mem_references {k : StoreKey} (h : k ∈ (scan ns parameters).value.references.members) :
    ∃ name, ns.keyOf name = k := by
  obtain ⟨p, -, hk⟩ := mem_references_scan.1 h
  obtain ⟨name, -, hname⟩ := exists_keyOf_of_mem_extract hk
  exact ⟨name, hname⟩

theorem compare_keyOf (ns : Namespace) (name other : String) :
    compare (ns.keyOf name) (ns.keyOf other) = compare (ns.keyOf name).key (ns.keyOf other).key := by
  change (compare (ns.keyOf name).key (ns.keyOf other).key).then (compare ns.text.length ns.text.length) = _
  rw [show compare ns.text.length ns.text.length = .eq by simp, Ordering.then_eq]

theorem references_scan_increasing (ns : Namespace) (parameters : List (String × String)) :
    ((scan ns parameters).value.references.members.map StoreKey.key).Pairwise fun a b => compare a b = .lt := by
  rw [List.pairwise_map]
  refine (scan ns parameters).value.references.members_increasing.imp_of_mem fun ha hb hlt => ?_
  obtain ⟨name, rfl⟩ := exists_keyOf_of_mem_references ha
  obtain ⟨other, rfl⟩ := exists_keyOf_of_mem_references hb
  rwa [← compare_keyOf]

theorem nodup_names_references (ns : Namespace) (parameters : List (String × String)) :
    ((scan ns parameters).value.references.members.map StoreKey.name).Nodup := by
  refine List.Nodup.map_on (fun k hk l hl heq => ?_) (scan ns parameters).value.references.nodup_keys
  obtain ⟨name, rfl⟩ := exists_keyOf_of_mem_references hk
  obtain ⟨other, rfl⟩ := exists_keyOf_of_mem_references hl
  rw [StoreKey.name_keyOf, StoreKey.name_keyOf] at heq
  rw [heq]

theorem length_secretNames_scan (ns : Namespace) (parameters : List (String × String)) :
    (scan ns parameters).value.secretNames.length = (scan ns parameters).value.references.size := by
  calc
    (scan ns parameters).value.secretNames.length
        = (KeySet.ofMembers ((scan ns parameters).value.references.members.map StoreKey.name)).size := by
          rw [ReferenceReport.secretNames, secretNames, distinctNames]
          exact List.length_map _
    _ = ((scan ns parameters).value.references.members.map StoreKey.name).length :=
          KeySet.size_ofMembers (nodup_names_references ns parameters)
    _ = (scan ns parameters).value.references.size := by
          rw [List.length_map]
          exact List.length_map _

theorem isEmpty_scan (ns : Namespace) (parameters : List (String × String)) :
    (scan ns parameters).value.isEmpty = (scan ns parameters).value.parameters.isEmpty := by
  rw [Bool.eq_iff_iff, ReferenceReport.isEmpty, KeySet.isEmpty_iff, KeySet.isEmpty_iff]
  simp only [mem_references_scan, mem_parameters_scan]
  constructor
  · rintro hnone name ⟨value, hp, hne⟩
    obtain ⟨k, hk⟩ := List.exists_mem_of_ne_nil _ hne
    exact hnone k ⟨(name, value), hp, hk⟩
  · rintro hnone k ⟨p, hp, hk⟩
    exact hnone p.1 ⟨p.2, hp, List.ne_nil_of_mem hk⟩

/-- The report on some parameters: what belongs to it, and how it depends on the list. -/
structure ReportsAsSets (ns : Namespace) (parameters : List (String × String)) : Prop where
  union (others : List (String × String)) :
    (scan ns (parameters ++ others)).value = (scan ns parameters).value.union (scan ns others).value
  /-- Neither the order of the parameters nor their repetition matters. -/
  sameMembers (others : List (String × String)) : (∀ p, p ∈ others ↔ p ∈ parameters) →
    (scan ns others).value = (scan ns parameters).value
  /-- A name is listed if one of the parameters that have it holds a reference. -/
  inParameters (name : String) : name ∈ (scan ns parameters).value.parameters.members ↔
    ∃ value, (name, value) ∈ parameters ∧ extract ns value ≠ []
  inReferences (k : StoreKey) : k ∈ (scan ns parameters).value.references.members ↔
    ∃ p ∈ parameters, k ∈ extract ns p.2
  increasing : ((scan ns parameters).value.references.members.map StoreKey.key).Pairwise fun a b => compare a b = .lt
  isEmpty : (scan ns parameters).value.isEmpty = (scan ns parameters).value.parameters.isEmpty
  /-- No two keys share a name. -/
  length_names : (scan ns parameters).value.secretNames.length = (scan ns parameters).value.references.size

/-- **A scan takes lists to sets.** -/
theorem reportsAsSets (ns : Namespace) (parameters : List (String × String)) : ReportsAsSets ns parameters where
  union others := scan_append ns parameters others
  sameMembers _ h := scan_congr_of_mem_iff h
  inParameters _ := mem_parameters_scan
  inReferences _ := mem_references_scan
  increasing := references_scan_increasing ns parameters
  isEmpty := isEmpty_scan ns parameters
  length_names := length_secretNames_scan ns parameters

end SecretRefs
