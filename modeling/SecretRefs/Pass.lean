import SecretRefs.Scan

/-! A resolution pass over a list of parameters. Each parameter is resolved by itself; the result
keeps the values that changed, and for every parameter the keys that its final text still asks for.
The pass writes one audit record per parameter that holds a reference, and at its end one warning per
secret that is missing. -/

namespace SecretRefs

/-- What becomes of one parameter that holds a reference. -/
structure ParameterOutcome where
  parameter : String
  /-- The names of the secrets that it asked for and got, distinct and in increasing order. -/
  resolvedNames : List String
  resolution : Resolution
  /-- The keys in the final text, in order, duplicates kept. -/
  leftover : List StoreKey
  deriving DecidableEq

namespace ParameterOutcome

/-- The outcome for one parameter; a parameter without a reference has none. -/
def ofParameter? (ns : Namespace) (secrets : Secrets) (parameter : String × String) :
    Option ParameterOutcome :=
  match extract ns parameter.2 with
  | [] => none
  | references =>
    let resolution := resolve ns secrets parameter.2
    some
      { parameter := parameter.1
        resolvedNames := distinctNames ((references.map StoreKey.name).filter secrets.contains)
        resolution
        leftover := extract ns (resolution.finalText parameter.2) }

def audit (o : ParameterOutcome) : AuditRecord where
  operation := "resolve"
  parameter := o.parameter
  resolved := o.resolvedNames
  unresolved := secretNames o.leftover

/-- The audit record, and a further record if the parameter keeps its value. -/
def events (o : ParameterOutcome) : List Event :=
  o.audit.event ::
    if o.resolution.isUnchanged then
      [{ level := .debug, message := "Parameter unchanged", fields := [("parameter", .text o.parameter)] }]
    else []

/-- The new value, if there is one. -/
def update? (o : ParameterOutcome) : Option (String × String) :=
  o.resolution.text?.map fun text => (o.parameter, text)

/-- The keys that are left, if there are any. -/
def unresolved? (o : ParameterOutcome) : Option (String × List StoreKey) :=
  if o.leftover.isEmpty then none else some (o.parameter, o.leftover)

end ParameterOutcome

structure PassResult where
  /-- The new values of the parameters that changed. -/
  updates : Dict String String := ∅
  /-- The parameters whose final text still holds a reference, with its keys. -/
  unresolved : Dict String (List StoreKey) := ∅
  deriving DecidableEq

namespace PassResult

/-- Collects the outcomes; of two for one parameter the later one with something to keep stays. -/
def ofOutcomes (outcomes : List ParameterOutcome) : PassResult where
  updates := .ofList (outcomes.filterMap ParameterOutcome.update?)
  unresolved := .ofList (outcomes.filterMap ParameterOutcome.unresolved?)

def hasLeftovers (r : PassResult) : Bool := !r.unresolved.isEmpty

/-- The distinct names of the secrets that are missing, in increasing order. -/
def missingSecrets (r : PassResult) : List String := secretNames r.unresolved.values.flatten

/-- One warning per missing secret. -/
def warnings (r : PassResult) : List Event :=
  r.missingSecrets.map fun name =>
    { level := .warn, message := "Secret reference not resolved", fields := [("secret", .text name)] }

private def keyDiagnostic (k : StoreKey) : String :=
  "ReferenceKey \x7b key: " ++ Text.quoted k.key ++ ", name_offset: " ++ toString k.nameStart ++
    " \x7d"

private def unresolvedDiagnostic (entry : String × List StoreKey) : String :=
  Text.quoted entry.1 ++ ": [" ++ String.intercalate ", " (entry.2.map keyDiagnostic) ++ "]"

/-- The diagnostic form names the parameters that changed and does not show their values. -/
def diagnostic (r : PassResult) : String :=
  "ResolvedParameters \x7b updates: " ++ Text.quotedList r.updates.keys ++ ", unresolved: \x7b" ++
    String.intercalate ", " (r.unresolved.entries.map unresolvedDiagnostic) ++ "\x7d \x7d"

end PassResult

def outcomes (ns : Namespace) (secrets : Secrets) (parameters : List (String × String)) :
    List ParameterOutcome :=
  parameters.filterMap (ParameterOutcome.ofParameter? ns secrets)

/-- Resolves every parameter of a list, which may repeat a name. -/
def runPass (ns : Namespace) (secrets : Secrets) (parameters : List (String × String)) :
    Logged PassResult :=
  let done := outcomes ns secrets parameters
  let result := PassResult.ofOutcomes done
  { events := done.flatMap ParameterOutcome.events ++ result.warnings, value := result }

end SecretRefs
