import SecretRefs.Text.Blank

/-! Secret namespaces. A namespace is the text with which a reference key must begin in order to
address the secret store; what follows it in the key is the name of the secret. Only a text that some
key can begin with is a namespace, so it is not empty and holds neither the delimiter `%` nor a
blank. -/

namespace SecretRefs

open Text (isBlank)

/-- Why a text is no namespace. -/
inductive NamespaceDefect
  | empty
  | delimiter
  | blank
  deriving DecidableEq, Repr

namespace NamespaceDefect

def reason : NamespaceDefect → String
  | empty => "prefix must not be empty"
  | delimiter => "prefix must not contain the '%' delimiter"
  | blank => "prefix must not contain whitespace"

/-- The first defect of a text, in the order of the constructors. -/
def find? (text : String) : Option NamespaceDefect :=
  if text.toList = [] then some empty
  else if '%' ∈ text.toList then some delimiter
  else if text.toList.any isBlank then some blank
  else none

end NamespaceDefect

structure Namespace where
  text : String
  sound : NamespaceDefect.find? text = none
  deriving DecidableEq

/-- What is left of `cs` after `lead`, when it begins so. -/
def stripLead : (lead cs : List Char) → Option (List Char)
  | [], cs => some cs
  | _ :: _, [] => none
  | l :: lead, c :: cs => if l = c then stripLead lead cs else none

/-- Whether `part` stands somewhere in `cs`. -/
def occursIn (part : List Char) : List Char → Bool
  | [] => part.isEmpty
  | c :: cs => part.isPrefixOf (c :: cs) || occursIn part cs

namespace Namespace

/-- The namespace of a text, unless the text is defective. -/
def ofText (text : String) : Except NamespaceDefect Namespace :=
  match h : NamespaceDefect.find? text with
  | none => .ok ⟨text, h⟩
  | some defect => .error defect

/-- The namespace `vault:`, used where none is configured. -/
def standard : Namespace := ⟨"vault:", by decide⟩

instance : Inhabited Namespace := ⟨standard⟩

/-- The secret name that a key addresses, when it begins with the namespace. -/
def strip (ns : Namespace) (key : String) : Option String :=
  (stripLead ns.text.toList key.toList).map String.ofList

/-- Whether the namespace occurs in a text at all. A text where it does not holds no key that begins
with it. -/
def standsIn (ns : Namespace) (text : String) : Bool :=
  occursIn ns.text.toList text.toList

end Namespace

end SecretRefs
