import Mathlib.Tactic.TFAE
import SecretRefs.Proofs.Scan.Union

/-! Keys of two namespaces. A key knows how much of it is the namespace, and both equality and order look at that as well:
one text read in two namespaces gives two keys. So keys are compared as their texts are within one namespace, and between
two as long as no text begins with both. -/

namespace SecretRefs

/-- One of the two begins with the other, so that there are keys in the scope of both. -/
def Namespace.Overlaps (ns other : Namespace) : Prop :=
  ns.text.toList <+: other.text.toList ∨ other.text.toList <+: ns.text.toList

instance (ns other : Namespace) : Decidable (ns.Overlaps other) :=
  inferInstanceAs (Decidable (ns.text.toList <+: other.text.toList ∨ other.text.toList <+: ns.text.toList))

/-- The keys that the two namespaces give are equal just when their texts are. -/
def EqualByText (ns other : Namespace) : Prop :=
  ∀ (text text' : String) (k l : StoreKey), StoreKey.parse? ns text = some k → StoreKey.parse? other text' = some l →
    (k = l ↔ text = text')

/-- The keys that the two namespaces give are ordered as their texts are. -/
def OrderedByText (ns other : Namespace) : Prop :=
  ∀ (text text' : String) (k l : StoreKey), StoreKey.parse? ns text = some k → StoreKey.parse? other text' = some l →
    compare k l = compare text text'

/-- Two scans, one in each namespace, give no text twice when their references are put together. -/
def MergedByText (ns other : Namespace) : Prop :=
  ∀ parameters parameters' : List (String × String),
    (((scan ns parameters).value.references.union (scan other parameters').value.references).members.map
      StoreKey.key).Nodup

variable {ns other : Namespace} {name name' : String}

theorem Namespace.ext_text (h : ns.text = other.text) : ns = other := by
  cases ns
  cases other
  cases h
  rfl

/-! ### Texts in the scope of both -/

theorem Namespace.overlaps_of_append_eq (h : ns.text ++ name = other.text ++ name') : ns.Overlaps other := by
  have hlists : ns.text.toList ++ name.toList = other.text.toList ++ name'.toList := by
    rw [← String.toList_append, h, String.toList_append]
  exact List.prefix_or_prefix_of_prefix ⟨name.toList, rfl⟩ ⟨name'.toList, hlists.symm⟩

/-- The longer one of two namespaces that overlap is a key of both. -/
theorem Namespace.Overlaps.exists_append_eq (h : ns.Overlaps other) :
    ∃ name name', IsRun name.toList ∧ IsRun name'.toList ∧ ns.text ++ name = other.text ++ name' := by
  -- what the longer text has behind the shorter one
  have hrest {short long : Namespace} (h : short.text.toList <+: long.text.toList) :
      ∃ name, IsRun name.toList ∧ short.text ++ name = long.text ++ "" := by
    obtain ⟨rest, hrest⟩ := h
    have htext : short.text ++ String.ofList rest = long.text := by
      apply String.toList_injective
      rw [String.toList_append, String.toList_ofList, hrest]
    have hrun : IsRun (short.text ++ String.ofList rest).toList := by
      rw [htext]
      exact long.isRun_text
    exact ⟨String.ofList rest, Namespace.isRun_text_append.1 hrun, by rw [htext, String.append_empty]⟩
  rcases h with h | h
  · obtain ⟨name, hname, heq⟩ := hrest h
    exact ⟨name, "", hname, isRun_nil, heq⟩
  · obtain ⟨name, hname, heq⟩ := hrest h
    exact ⟨"", name, isRun_nil, hname, heq.symm⟩

/-! ### Equality and order -/

/-- Of a key both the namespace and the name can be told. -/
theorem StoreKey.keyOf_inj : ns.keyOf name = other.keyOf name' ↔ ns = other ∧ name = name' := by
  constructor
  · intro h
    obtain ⟨htext, hlength⟩ := StoreKey.mk.inj h
    have hlists : ns.text.toList ++ name.toList = other.text.toList ++ name'.toList := by
      rw [← String.toList_append, htext, String.toList_append]
    have hlengths : ns.text.toList.length = other.text.toList.length := by
      rw [String.length_toList, String.length_toList, hlength]
    obtain ⟨hns, hname⟩ := List.append_inj hlists hlengths
    exact ⟨Namespace.ext_text (String.toList_injective hns), String.toList_injective hname⟩
  · rintro ⟨rfl, rfl⟩
    rfl

theorem StoreKey.compare_eq (k l : StoreKey) :
    compare k l = (compare k.key l.key).then (compare k.leadLength l.leadLength) := rfl

theorem orderedByText_of_not_overlaps (h : ¬ ns.Overlaps other) : OrderedByText ns other := by
  intro text text' k l hk hl
  obtain ⟨name, rfl, rfl⟩ := StoreKey.parse?_eq_some_iff.1 hk
  obtain ⟨name', rfl, rfl⟩ := StoreKey.parse?_eq_some_iff.1 hl
  have hne : compare (ns.text ++ name) (other.text ++ name') ≠ .eq := fun heq =>
    h (Namespace.overlaps_of_append_eq (Std.LawfulEqOrd.eq_of_compare heq))
  rw [StoreKey.compare_eq]
  cases hcompare : compare (ns.text ++ name) (other.text ++ name') with
  | eq => exact absurd hcompare hne
  | lt | gt => rw [show compare (ns.keyOf name).key (other.keyOf name').key = _ from hcompare]; rfl

theorem orderedByText_self (ns : Namespace) : OrderedByText ns ns := by
  intro text text' k l hk hl
  obtain ⟨name, rfl, rfl⟩ := StoreKey.parse?_eq_some_iff.1 hk
  obtain ⟨name', rfl, rfl⟩ := StoreKey.parse?_eq_some_iff.1 hl
  exact compare_keyOf ns name name'

theorem OrderedByText.equalByText (h : OrderedByText ns other) : EqualByText ns other := by
  intro text text' k l hk hl
  rw [← Std.LawfulEqOrd.compare_eq_iff_eq, h text text' k l hk hl, Std.LawfulEqOrd.compare_eq_iff_eq]

/-! ### Scans put together -/

theorem EqualByText.mergedByText (h : EqualByText ns other) : MergedByText ns other := by
  intro parameters parameters'
  refine List.Nodup.map_on (fun k hk l hl htext => ?_) (Dict.nodup_keys _)
  -- members of one scan are keys of one namespace, which their texts tell; else the hypothesis applies
  rcases KeySet.mem_members_union.1 hk with hk | hk <;> rcases KeySet.mem_members_union.1 hl with hl | hl <;>
    obtain ⟨name, rfl⟩ := exists_keyOf_of_mem_references hk <;>
    obtain ⟨name', rfl⟩ := exists_keyOf_of_mem_references hl
  · exact ((orderedByText_self ns).equalByText _ _ _ _ (StoreKey.parse?_append _ _) (StoreKey.parse?_append _ _)).2 htext
  · exact (h _ _ _ _ (StoreKey.parse?_append _ _) (StoreKey.parse?_append _ _)).2 htext
  · exact ((h _ _ _ _ (StoreKey.parse?_append _ _) (StoreKey.parse?_append _ _)).2 htext.symm).symm
  · exact ((orderedByText_self other).equalByText _ _ _ _ (StoreKey.parse?_append _ _)
      (StoreKey.parse?_append _ _)).2 htext

theorem keyOf_mem_references (parameter : String) (hname : IsRun name.toList) :
    ns.keyOf name ∈ (scan ns [(parameter, (ns.keyOf name).reference)]).value.references.members := by
  refine mem_references_scan.2 ⟨_, List.mem_singleton_self _, ?_⟩
  rw [extract_reference_keyOf hname]
  exact List.mem_singleton_self _

theorem MergedByText.eq_of_overlaps (h : MergedByText ns other) (hoverlaps : ns.Overlaps other) : ns = other := by
  obtain ⟨name, name', hname, hname', htext⟩ := hoverlaps.exists_append_eq
  have hnodup := h [("p", (ns.keyOf name).reference)] [("p", (other.keyOf name').reference)]
  have heq : ns.keyOf name = other.keyOf name' := List.inj_on_of_nodup_map hnodup
    (KeySet.mem_members_union.2 (.inl (keyOf_mem_references "p" hname)))
    (KeySet.mem_members_union.2 (.inr (keyOf_mem_references "p" hname'))) htext
  exact (StoreKey.keyOf_inj.1 heq).1

/-- **Keys of two namespaces are compared by their texts** just when the namespaces are the same or do not overlap, and
their equality, their order and the union of their scans fail together. -/
theorem comparedByText_tfae (ns other : Namespace) :
    [EqualByText ns other, OrderedByText ns other, MergedByText ns other, ns = other ∨ ¬ ns.Overlaps other].TFAE := by
  tfae_have 2 → 1 := OrderedByText.equalByText
  tfae_have 1 → 3 := EqualByText.mergedByText
  tfae_have 3 → 4 := fun h => or_iff_not_imp_right.2 fun hoverlaps => h.eq_of_overlaps (not_not.1 hoverlaps)
  tfae_have 4 → 2 := by
    rintro (rfl | h)
    · exact orderedByText_self ns
    · exact orderedByText_of_not_overlaps h
  tfae_finish

/-- The text `vault:a` gives two keys in the namespaces `vault:` and `v`. -/
theorem not_equalByText_vault : ∃ v : Namespace, Namespace.ofText "v" = .ok v ∧
    (∃ k l, StoreKey.parse? .standard "vault:a" = some k ∧ StoreKey.parse? v "vault:a" = some l ∧
      k ≠ l ∧ compare k l = .gt) ∧
    ((scan .standard [("p", "%vault:a%")]).value.references.union
      (scan v [("p", "%vault:a%")]).value.references).members.map StoreKey.key = ["vault:a", "vault:a"] ∧
    ¬ EqualByText .standard v ∧ ¬ OrderedByText .standard v ∧ ¬ MergedByText .standard v := by
  have hkeys : StoreKey.parse? .standard "vault:a" = some ⟨"vault:a", 6⟩ ∧
      StoreKey.parse? ⟨"v", by decide⟩ "vault:a" = some ⟨"vault:a", 1⟩ := by decide
  have hmerged : ((scan .standard [("p", "%vault:a%")]).value.references.union
      (scan ⟨"v", by decide⟩ [("p", "%vault:a%")]).value.references).members.map StoreKey.key =
        ["vault:a", "vault:a"] := by decide +kernel
  refine ⟨⟨"v", by decide⟩, rfl, ⟨_, _, hkeys.1, hkeys.2, by decide, by decide⟩, hmerged, ?_, ?_, ?_⟩
  · intro h
    exact absurd ((h _ _ _ _ hkeys.1 hkeys.2).2 rfl) (by decide)
  · intro h
    have hcompare := h _ _ _ _ hkeys.1 hkeys.2
    rw [Std.ReflOrd.compare_self] at hcompare
    exact absurd hcompare (by decide)
  · intro h
    have hnodup := h [("p", "%vault:a%")] [("p", "%vault:a%")]
    rw [hmerged] at hnodup
    exact absurd hnodup (by decide)

end SecretRefs
