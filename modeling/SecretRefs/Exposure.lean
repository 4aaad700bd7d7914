import SecretRefs.Dict
import SecretRefs.Event
import SecretRefs.Parameter

/-! The exposure plan: where each resolved parameter goes. A parameter whose kind the flags do not
allow is withheld, and so is the bare `env.`, which names no variable; of these the plan keeps the
names alone. -/

namespace SecretRefs

/-- Where one parameter goes. -/
inductive Destination
  | environment (name : String)
  | parameter
  | withheld
  deriving DecidableEq

namespace Destination

def ofName (flags : ExposureFlags) (name : String) : Destination :=
  let kind := ParameterKind.ofName name
  if flags.allows kind then
    match kind with
    | .environment =>
      match environmentVariable? name with
      | some target => environment target
      | none => withheld
    | .system | .config => parameter
  else withheld

end Destination

structure ExposurePlan where
  /-- The values by environment variable. -/
  environment : Dict String String := ∅
  /-- The values by name of the configuration or system parameter. -/
  parameters : Dict String String := ∅
  /-- The names of the parameters that are held back. -/
  withheld : KeySet String := ∅
  deriving DecidableEq

namespace ExposurePlan

/-- Adds one update to the plan. -/
def add (flags : ExposureFlags) (plan : ExposurePlan) (update : String × String) : ExposurePlan :=
  match Destination.ofName flags update.1 with
  | .environment target =>
    { plan with environment := plan.environment.insert target update.2 }
  | .parameter => { plan with parameters := plan.parameters.insert update.1 update.2 }
  | .withheld => { plan with withheld := plan.withheld.insert update.1 () }

def ofUpdates (flags : ExposureFlags) (updates : Dict String String) : ExposurePlan :=
  updates.entries.foldl (add flags) {}

/-- Nothing is exposed. -/
def isEmpty (plan : ExposurePlan) : Bool := plan.environment.isEmpty && plan.parameters.isEmpty

/-- The record of a plan that withholds something. -/
def events (flags : ExposureFlags) (plan : ExposurePlan) : List Event :=
  if plan.withheld.isEmpty then []
  else
    [{ level := .info
       message := "Resolved parameters withheld by behaviour flags"
       fields := [("withheld", .count plan.withheld.size), ("expose_env", .flag flags.exposeEnv),
         ("expose_config", .flag flags.exposeConfig)] }]

/-- Makes a plan and logs what it withholds. -/
def build (flags : ExposureFlags) (updates : Dict String String) : Logged ExposurePlan :=
  let plan := ofUpdates flags updates
  { events := plan.events flags, value := plan }

end ExposurePlan

end SecretRefs
