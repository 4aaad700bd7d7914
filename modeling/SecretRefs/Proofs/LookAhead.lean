import SecretRefs.Proofs.Resolution

/-! Looking ahead. Extraction and resolution first count the percent signs of a value, and extraction looks for the
namespace in it. Taken apart span by span without such a look, the value gives the same keys and the same
text. -/

namespace SecretRefs

open SecretRefs.Span (keys rawText)

variable {ns : Namespace} {secrets : Secrets}

/-- What takes the place of a span: of a reference whose key begins with the namespace the secret that is named
behind it, if there is one, and in all other cases the span as it stands. -/
def Span.resolved (ns : Namespace) (secrets : Secrets) : Span → String
  | literal text => text
  | reference key =>
    if ns.text.toList.isPrefixOf key.toList then
      (secrets.lookup? (String.ofList (key.toList.drop ns.text.length))).getD (referenceText key)
    else referenceText key

/-- A value with what takes the place of each of its spans. -/
def resolvedSpans (ns : Namespace) (secrets : Secrets) (value : String) : String :=
  String.join ((spans value).map (Span.resolved ns secrets))

theorem Span.resolved_reference (key : String) :
    Span.resolved ns secrets (.reference key) = (answer? ns secrets key).getD (referenceText key) := by
  rw [Span.resolved]
  split
  · next hprefix =>
    obtain ⟨name, hname⟩ := List.isPrefixOf_iff_prefix.1 hprefix
    have hkey : key = ns.text ++ String.ofList name := by
      apply String.toList_injective
      rw [← hname, String.toList_append, String.toList_ofList]
    rw [hkey, answer?_append, String.toList_append, List.drop_left' String.length_toList, String.ofList_toList]
  · next hprefix =>
    have hstrip : ns.strip key = none := by
      rw [Option.eq_none_iff_forall_ne_some]
      rintro name hname
      obtain rfl := Namespace.strip_eq_some_iff.1 hname
      exact hprefix (List.isPrefixOf_iff_prefix.2 ⟨name.toList, String.toList_append.symm⟩)
    rw [answer?, hstrip]
    rfl

theorem join_map_resolved (ss : List Span) :
    String.join (ss.map (Span.resolved ns secrets)) =
      rawText (Span.answered (fun r => [.literal r]) ss ((keys ss).map (answer? ns secrets))) := by
  induction ss with
  | nil => rfl
  | cons s ss ih =>
      rw [List.map_cons, String.join_cons, ih]
      cases s with
      | literal text => rw [Span.answered_literal, Span.rawText_cons, Span.keys_literal]; rfl
      | reference key =>
          rw [Span.resolved_reference, Span.keys_reference, List.map_cons]
          cases answer? ns secrets key with
          | none => rw [Span.answered, Span.rawText_cons]; rfl
          | some r => rw [Span.answered, List.singleton_append, Span.rawText_cons]; rfl

theorem resolvedSpans_eq_filled (ns : Namespace) (secrets : Secrets) (value : String) :
    resolvedSpans ns secrets value = filled value (answers ns secrets value) := join_map_resolved (spans value)

/-- The answers for a value, span by span. -/
structure PlainAnswers (ns : Namespace) (secrets : Secrets) (value : String) : Prop where
  extracted : extract ns value = (referenceKeys value).filterMap (StoreKey.parse? ns)
  unchanged : resolve ns secrets value = .unchanged ↔ resolvedSpans ns secrets value = value
  resolved (text : String) : resolve ns secrets value = .resolved text ↔
    resolvedSpans ns secrets value = text ∧ text ≠ value
  /-- Without a secret for any of its keys a value stays. -/
  unmapped : (∀ name, ns.text ++ name ∈ referenceKeys value → secrets.contains name = false) →
    resolve ns secrets value = .unchanged

/-- **Looking ahead changes no answer.** -/
theorem plainAnswers (ns : Namespace) (secrets : Secrets) (value : String) : PlainAnswers ns secrets value where
  extracted := extract_eq ns value
  unchanged := by
    rw [resolve_eq, resolvedSpans_eq_filled]
    split
    · next h => exact iff_of_true rfl h
    · next h => exact iff_of_false Resolution.noConfusion h
  resolved text := by
    rw [resolve_eq, resolvedSpans_eq_filled]
    split
    · next h =>
      refine iff_of_false Resolution.noConfusion ?_
      rintro ⟨rfl, hne⟩
      exact hne h
    · next h =>
      rw [Resolution.resolved.injEq]
      constructor
      · rintro rfl
        exact ⟨rfl, h⟩
      · exact And.left
  unmapped hmissing := by
    apply resolve_eq_unchanged
    intro k hk
    obtain ⟨key, hkey, hparse⟩ := mem_extract_iff.1 hk
    obtain rfl := Namespace.strip_eq_some_iff.1 (StoreKey.parse?_eq_some hparse).1
    exact hmissing k.name hkey

end SecretRefs
