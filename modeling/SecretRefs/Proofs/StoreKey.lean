import SecretRefs.Secret
import SecretRefs.StoreKey
import SecretRefs.Proofs.Namespace

/-! Keys in the scope of a namespace. They are the texts that begin with it, and the name is what follows. -/

namespace SecretRefs

theorem stripLead_eq_some_iff {lead cs rest : List Char} : stripLead lead cs = some rest ↔ cs = lead ++ rest := by
  induction lead generalizing cs with
  | nil => simp [stripLead]
  | cons l lead ih =>
      cases cs with
      | nil => simp [stripLead]
      | cons c cs =>
          rw [stripLead]
          split
          · next heq =>
            rw [ih, heq, List.cons_append, List.cons.injEq]
            simp
          · next hne =>
            rw [List.cons_append, List.cons.injEq]
            simp [Ne.symm hne]

theorem Namespace.strip_eq_some_iff {ns : Namespace} {key name : String} :
    ns.strip key = some name ↔ key = ns.text ++ name := by
  rw [strip, Option.map_eq_some_iff]
  constructor
  · rintro ⟨rest, hrest, rfl⟩
    apply String.toList_injective
    rw [stripLead_eq_some_iff.1 hrest]
    simp
  · rintro rfl
    exact ⟨name.toList, stripLead_eq_some_iff.2 (by simp), String.ofList_toList⟩

/-- The key of a name. -/
def Namespace.keyOf (ns : Namespace) (name : String) : StoreKey := ⟨ns.text ++ name, ns.text.length⟩

namespace StoreKey

theorem name_keyOf (ns : Namespace) (name : String) : (ns.keyOf name).name = name := by
  rw [StoreKey.name, Namespace.keyOf, String.toList_append, List.drop_left' String.length_toList,
    String.ofList_toList]

/-- In bytes, too, the name stands right behind the namespace. -/
theorem nameStart_keyOf (ns : Namespace) (name : String) :
    (ns.keyOf name).nameStart = ns.text.utf8ByteSize := by
  rw [nameStart, Namespace.keyOf, String.toList_append, List.take_left' String.length_toList, String.ofList_toList]

theorem parse?_append (ns : Namespace) (name : String) : parse? ns (ns.text ++ name) = some (ns.keyOf name) := by
  rw [parse?, Namespace.strip_eq_some_iff.2 rfl]
  rfl

theorem parse?_eq_some_iff {ns : Namespace} {key : String} {k : StoreKey} :
    parse? ns key = some k ↔ ∃ name, ns.text ++ name = key ∧ ns.keyOf name = k := by
  constructor
  · intro h
    obtain ⟨name, hname, rfl⟩ := Option.map_eq_some_iff.1 h
    obtain rfl := Namespace.strip_eq_some_iff.1 hname
    exact ⟨name, rfl, rfl⟩
  · rintro ⟨name, rfl, rfl⟩
    exact parse?_append ns name

theorem parse?_eq_some {ns : Namespace} {key : String} {k : StoreKey} (h : parse? ns key = some k) :
    ns.strip key = some k.name ∧ k.key = key := by
  obtain ⟨name, rfl, rfl⟩ := parse?_eq_some_iff.1 h
  rw [name_keyOf]
  exact ⟨Namespace.strip_eq_some_iff.2 rfl, rfl⟩

theorem strip_eq_none_of_parse? {ns : Namespace} {key : String} (h : parse? ns key = none) :
    ns.strip key = none := Option.map_eq_none_iff.1 h

end StoreKey

end SecretRefs
