import SecretRefs.StoreKey
import SecretRefs.Secret

/-! References in a single value: which secrets it asks for, and the value with the secrets in place.
A secret is put in as it is and not searched for references. Both operations look first whether the
value can hold a reference at all. -/

namespace SecretRefs

/-- The keys of a value that address the secret store, in order, duplicates kept. -/
def extract (ns : Namespace) (value : String) : List StoreKey :=
  if couldHoldReference value && ns.standsIn value then
    (referenceKeys value).filterMap (StoreKey.parse? ns)
  else []

/-- What resolving makes of a value. -/
inductive Resolution
  /-- The result equals the value, so there is nothing to write back. -/
  | unchanged
  | resolved (text : String)
  deriving DecidableEq

namespace Resolution

def isUnchanged : Resolution → Bool
  | unchanged => true
  | resolved _ => false

/-- The new text, if there is one. -/
def text? : Resolution → Option String
  | unchanged => none
  | resolved text => some text

/-- The text after resolving a value. -/
def finalText (r : Resolution) (value : String) : String := r.text?.getD value

/-- The form shown in place of the resolution, without the text. -/
def diagnostic : Resolution → String
  | unchanged => "Unchanged"
  | resolved text => s!"Resolved({redacted text})"

end Resolution

/-- The text for a reference: the secret whose name the key gives. A key outside of the namespace, or
with an unknown name, has none. -/
def answer? (ns : Namespace) (secrets : Secrets) (key : String) : Option String :=
  (ns.strip key).bind secrets.lookup?

/-- Puts the secrets into a value. -/
def resolve (ns : Namespace) (secrets : Secrets) (value : String) : Resolution :=
  if couldHoldReference value then
    let text := Id.run (substitute value fun key => pure (answer? ns secrets key))
    if text = value then .unchanged else .resolved text
  else .unchanged

end SecretRefs
