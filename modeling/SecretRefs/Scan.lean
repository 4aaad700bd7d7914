import SecretRefs.Event
import SecretRefs.Resolution

/-! References across a list of parameters: the keys in use and the parameters that use them. -/

namespace SecretRefs

/-- A parameter with the keys that its value holds. -/
structure Finding where
  parameter : String
  keys : List StoreKey
  deriving DecidableEq

namespace Finding

/-- What there is to report of a parameter, if it holds a reference. -/
def ofParameter? (ns : Namespace) (parameter : String × String) : Option Finding :=
  match extract ns parameter.2 with
  | [] => none
  | keys => some ⟨parameter.1, keys⟩

def event (f : Finding) : Event where
  level := .debug
  message := "Found secret references"
  fields := [("parameter", .text f.parameter), ("references", .count f.keys.length)]

end Finding

structure ReferenceReport where
  /-- The distinct keys. -/
  references : KeySet StoreKey := ∅
  /-- The names of the parameters that hold at least one of them. -/
  parameters : KeySet String := ∅
  deriving DecidableEq

namespace ReferenceReport

def ofFindings (findings : List Finding) : ReferenceReport where
  references := KeySet.ofMembers (findings.flatMap (·.keys))
  parameters := KeySet.ofMembers (findings.map (·.parameter))

/-- The distinct names of the secrets to fetch, in increasing order. -/
def secretNames (r : ReferenceReport) : List String := SecretRefs.secretNames r.references.members

def isEmpty (r : ReferenceReport) : Bool := r.references.isEmpty

end ReferenceReport

def findings (ns : Namespace) (parameters : List (String × String)) : List Finding :=
  parameters.filterMap (Finding.ofParameter? ns)

/-- The report on some parameters, which may repeat a name. -/
def scan (ns : Namespace) (parameters : List (String × String)) : Logged ReferenceReport :=
  let found := findings ns parameters
  { events := found.map Finding.event, value := .ofFindings found }

end SecretRefs
