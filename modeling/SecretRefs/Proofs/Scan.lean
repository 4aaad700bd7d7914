import SecretRefs.Scan
import SecretRefs.Proofs.Dict

/-! What a scan collects: the keys of all values with their names, and the parameters that hold one. -/

namespace SecretRefs

instance : Std.LawfulEqOrd StoreKey where
  eq_of_compare {a b} h := by
    obtain ⟨hkey, hlength⟩ := Ordering.then_eq_eq.1 h
    cases a
    cases b
    cases Std.LawfulEqOrd.eq_of_compare hkey
    cases Std.LawfulEqOrd.eq_of_compare hlength
    rfl

theorem mem_secretNames {keys : List StoreKey} {name : String} :
    name ∈ secretNames keys ↔ ∃ k ∈ keys, k.name = name := by
  rw [secretNames, mem_distinctNames, List.mem_map]

theorem secretNames_increasing (keys : List StoreKey) :
    (secretNames keys).Pairwise fun a b => compare a b = .lt := distinctNames_increasing _

theorem nodup_secretNames (keys : List StoreKey) : (secretNames keys).Nodup := nodup_distinctNames _

theorem secretNames_eq_nil_iff {keys : List StoreKey} : secretNames keys = [] ↔ keys = [] := by
  rw [List.eq_nil_iff_forall_not_mem, List.eq_nil_iff_forall_not_mem]
  simp only [mem_secretNames]
  constructor
  · intro hnone k hk
    exact hnone k.name ⟨k, hk, rfl⟩
  · rintro hnone name ⟨k, hk, -⟩
    exact hnone k hk

theorem mem_findings_iff {ns : Namespace} {parameters : List (String × String)} {f : Finding} :
    f ∈ findings ns parameters ↔ ∃ p ∈ parameters, extract ns p.2 ≠ [] ∧ f = ⟨p.1, extract ns p.2⟩ := by
  rw [findings, List.mem_filterMap]
  refine exists_congr fun p => and_congr_right fun _ => ?_
  rw [Finding.ofParameter?]
  split
  · next hnil => simp [hnil]
  · next hne =>
    rw [Option.some.injEq, eq_comm]
    exact (and_iff_right hne).symm

theorem mem_references_scan {ns : Namespace} {parameters : List (String × String)} {k : StoreKey} :
    k ∈ (scan ns parameters).value.references.members ↔ ∃ p ∈ parameters, k ∈ extract ns p.2 := by
  refine KeySet.mem_members_ofMembers.trans (List.mem_flatMap.trans ?_)
  constructor
  · rintro ⟨f, hf, hk⟩
    obtain ⟨p, hp, -, rfl⟩ := mem_findings_iff.1 hf
    exact ⟨p, hp, hk⟩
  · rintro ⟨p, hp, hk⟩
    exact ⟨_, mem_findings_iff.2 ⟨p, hp, List.ne_nil_of_mem hk, rfl⟩, hk⟩

theorem mem_parameters_scan {ns : Namespace} {parameters : List (String × String)} {name : String} :
    name ∈ (scan ns parameters).value.parameters.members ↔
      ∃ value, (name, value) ∈ parameters ∧ extract ns value ≠ [] := by
  refine KeySet.mem_members_ofMembers.trans (List.mem_map.trans ?_)
  constructor
  · rintro ⟨f, hf, rfl⟩
    obtain ⟨p, hp, hne, rfl⟩ := mem_findings_iff.1 hf
    exact ⟨p.2, hp, hne⟩
  · rintro ⟨value, hp, hne⟩
    exact ⟨_, mem_findings_iff.2 ⟨(name, value), hp, hne, rfl⟩, rfl⟩

theorem mem_secretNames_scan {ns : Namespace} {parameters : List (String × String)} {name : String} :
    name ∈ (scan ns parameters).value.secretNames ↔
      ∃ p ∈ parameters, ∃ k ∈ extract ns p.2, k.name = name := by
  rw [ReferenceReport.secretNames, mem_secretNames]
  constructor
  · rintro ⟨k, hk, hname⟩
    obtain ⟨p, hp, hkp⟩ := mem_references_scan.1 hk
    exact ⟨p, hp, k, hkp, hname⟩
  · rintro ⟨p, hp, k, hk, hname⟩
    exact ⟨k, mem_references_scan.2 ⟨p, hp, hk⟩, hname⟩

end SecretRefs
