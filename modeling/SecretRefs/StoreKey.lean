import SecretRefs.Dict
import SecretRefs.Namespace
import SecretRefs.Span

/-! Reference keys that address the secret store. Such a key begins with the namespace; it keeps the
full text between the percent signs and how much of it is the namespace. -/

namespace SecretRefs

structure StoreKey where
  /-- The full key, as it stands between the percent signs. -/
  key : String
  /-- The number of characters that the namespace takes up. -/
  leadLength : Nat
  deriving DecidableEq, Repr

namespace StoreKey

/-- Keys are ordered by their text, and those of one text by the length of the namespace. -/
instance : Ord StoreKey where
  compare := compareLex (compareOn key) (compareOn leadLength)

instance : Std.TransOrd StoreKey :=
  inferInstanceAs (Std.TransCmp (compareLex (compareOn key) (compareOn leadLength)))

/-- Reads a key that begins with the namespace. -/
def parse? (ns : Namespace) (key : String) : Option StoreKey :=
  (ns.strip key).map fun _ => ⟨key, ns.text.length⟩

/-- The name of the secret: what follows the namespace, possibly nothing. -/
def name (k : StoreKey) : String := String.ofList (k.key.toList.drop k.leadLength)

/-- The key as a reference. -/
def reference (k : StoreKey) : String := Span.referenceText k.key

/-- The offset of the name in the key, in bytes of UTF-8. -/
def nameStart (k : StoreKey) : Nat :=
  (String.ofList (k.key.toList.take k.leadLength)).utf8ByteSize

end StoreKey

/-- The distinct secret names of some keys, in increasing order. -/
def secretNames (keys : List StoreKey) : List String :=
  distinctNames (keys.map StoreKey.name)

end SecretRefs
