import SecretRefs.Exposure
import SecretRefs.Pass
import SecretRefs.Scan
import SecretRefs.Source

/-! Sessions. A session keeps a namespace, the secrets at hand, a parameter set and the outcome of the
last pass over it, and is worked on step by step. A step that fails leaves the session as it was. -/

namespace SecretRefs

structure Session where
  ns : Namespace := .standard
  secrets : Secrets := ∅
  parameters : Dict String String := ∅
  /-- The outcome of the last pass that has not been applied yet. -/
  lastPass : PassResult := {}

namespace Session

inductive Step
  | useNamespace (text : String)
  | insertSecret (name value : String)
  | lookUpSecret (name : String)
  | setParameter (name value : String)
  | unsetParameter (name : String)
  | loadParameters (format : FileFormat) (content : String)
  | loadSecrets (format : FileFormat) (content : String)
  | scan
  | extract (value : String)
  | resolve (value : String)
  | resolveAll
  | applyUpdates
  /-- Plans where the updates of the last pass go. -/
  | plan (defaults : ExposureFlags)
  deriving Repr

inductive Answer
  | done
  | usesNamespace (ns : Namespace)
  | secret (text : Option String)
  /-- The value that a parameter had before. -/
  | previous (value : Option String)
  | parameters (parameters : Dict String String)
  | report (report : ReferenceReport)
  | keys (keys : List StoreKey)
  | resolution (value : String) (resolution : Resolution)
  | pass (result : PassResult)
  | plan (flags : ExposureFlags) (plan : ExposurePlan)

/-- The parameters with the updates of the last pass written into them. -/
def updatedParameters (s : Session) : Dict String String :=
  s.parameters.overriddenBy s.lastPass.updates

/-- The flags that the parameters set, over some defaults. -/
def flags (s : Session) (defaults : ExposureFlags) : ExposureFlags :=
  .ofParameters defaults s.parameters.entries

/-- The session after a step, and the answer to it. -/
def perform (s : Session) : Step → Logged (Except Error (Session × Answer))
  | .useNamespace text =>
    return (Namespace.parse text).map fun ns => ({ s with ns }, .usesNamespace ns)
  | .insertSecret name value =>
    return .ok ({ s with secrets := s.secrets.insert name ⟨value⟩ }, .done)
  | .lookUpSecret name => return .ok (s, .secret (s.secrets.lookup? name))
  | .setParameter name value =>
    return .ok
      ({ s with parameters := s.parameters.insert name value }, .previous (s.parameters.get? name))
  | .unsetParameter name =>
    return .ok ({ s with parameters := s.parameters.erase name }, .previous (s.parameters.get? name))
  | .loadParameters format content => do
    let loaded ← parseContent format content
    return loaded.map fun parameters => ({ s with parameters }, .parameters parameters)
  | .loadSecrets format content => do
    let loaded ← parseContent format content
    return loaded.map fun texts => ({ s with secrets := .ofDict texts }, .done)
  | .scan => do
    let report ← SecretRefs.scan s.ns s.parameters.entries
    return .ok (s, .report report)
  | .extract value => return .ok (s, .keys (SecretRefs.extract s.ns value))
  | .resolve value =>
    return .ok (s, .resolution value (SecretRefs.resolve s.ns s.secrets value))
  | .resolveAll => do
    let result ← runPass s.ns s.secrets s.parameters.entries
    return .ok ({ s with lastPass := result }, .pass result)
  | .applyUpdates =>
    let parameters := s.updatedParameters
    return .ok ({ s with parameters, lastPass := {} }, .parameters parameters)
  | .plan defaults => do
    let flags := s.flags defaults
    let plan ← ExposurePlan.build flags s.lastPass.updates
    return .ok (s, .plan flags plan)

/-- The session that a step leads to. -/
def next (s : Session) (step : Step) : Session :=
  match (s.perform step).value with
  | .ok (s, _) => s
  | .error _ => s

end Session

end SecretRefs
