import SecretRefs.Command.Format

/-! Command line arguments. The switches of the program stand before the name of the command or behind
it, those of a command behind it. A switch has a long name and often a letter; letters may be run
together, and a value follows in the next argument, after `=`, or right after the letter. Behind `--`
there are no switches. Instead of a command there may be the word `help`, and behind it nothing but the
name of one. Arguments count from left to right, and the first one that is wrong, or that is a switch for
the version or for help, ends the reading. -/

namespace SecretRefs.Command

def programName : String := "vaultref"

/-- The name of a command. -/
inductive Verb
  | scan
  | extract
  | resolve
  | version
  deriving DecidableEq, Repr

inductive Switch
  | verbose
  | quiet
  | config
  | version
  | help
  | json
  | secrets
  | format
  | strict
  | all
  deriving DecidableEq, Repr

namespace Switch

def name : Switch → String
  | verbose => "verbose"
  | quiet => "quiet"
  | config => "config"
  | version => "version"
  | help => "help"
  | json => "json"
  | secrets => "secrets"
  | format => "format"
  | strict => "strict"
  | all => "all"

def letter? : Switch → Option Char
  | verbose => some 'v'
  | quiet => some 'q'
  | config => some 'c'
  | version => some 'V'
  | help => some 'h'
  | secrets => some 's'
  | format => some 'f'
  | json | strict | all => none

def takesValue : Switch → Bool
  | config | secrets | format => true
  | _ => false

/-- The switches that the program and each of its commands know. -/
def common : List Switch := [verbose, quiet, config, version, help]

end Switch

namespace Verb

def name : Verb → String
  | scan => "scan"
  | extract => "extract"
  | resolve => "resolve"
  | version => "version"

def ofName? (name : String) : Option Verb :=
  [scan, extract, resolve, version].find? fun verb => verb.name == name

/-- The switches that a command has besides the common ones. -/
def switches : Verb → List Switch
  | scan | extract | version => [.json]
  | resolve => [.secrets, .format, .strict, .all]

/-- Whether a command takes a text as its operand. The name of a file is not empty. -/
def accepts (operand : String) : Verb → Bool
  | scan | resolve => operand != ""
  | extract => true
  | version => false

end Verb

/-- How much is said on standard error. -/
structure Verbosity where
  /-- How often more was asked for. -/
  detail : Nat := 0
  quiet : Bool := false
  deriving DecidableEq, Repr

structure ResolveRequest where
  /-- The path of the parameters. -/
  parameters : String
  /-- The path of the secrets. -/
  secrets : String
  format : OutputFormat := .properties
  /-- Whether a leftover reference is a failure. -/
  strict : Bool := false
  /-- Whether everything is printed, whatever the behaviour flags. -/
  all : Bool := false
  deriving DecidableEq, Repr

inductive Task
  | scan (path : String) (json : Bool)
  | extract (value : String) (json : Bool)
  | resolve (request : ResolveRequest)
  | version (json : Bool)
  deriving DecidableEq, Repr

/-- What the user asks for. -/
structure Invocation where
  task : Task
  verbosity : Verbosity := {}
  /-- The path of the configuration. -/
  config : Option String := none
  deriving DecidableEq, Repr

/-- Why there is no invocation. -/
inductive Refusal
  | misuse
  /-- The version is asked for, of the program or one of its commands. -/
  | versionOf (name : String)
  | help
  deriving DecidableEq, Repr

/-- What the arguments of one level have set. -/
structure Selection where
  detail : Nat := 0
  quiet : Bool := false
  config : Option String := none
  json : Bool := false
  secrets : Option String := none
  format : Option OutputFormat := none
  strict : Bool := false
  all : Bool := false
  operand : Option String := none

namespace Selection

/-- Sets a switch. All but `verbose` can be set once; the value has to fit. -/
def set? (s : Selection) (value : String) : Switch → Option Selection
  | .verbose => some { s with detail := s.detail + 1 }
  | .quiet => if s.quiet then none else some { s with quiet := true }
  | .config => if s.config.isSome then none else some { s with config := some value }
  | .json => if s.json then none else some { s with json := true }
  | .secrets =>
    if s.secrets.isSome ∨ value = "" then none else some { s with secrets := some value }
  | .format =>
    if s.format.isSome then none
    else (OutputFormat.ofName? value).map fun format => { s with format := some format }
  | .strict => if s.strict then none else some { s with strict := true }
  | .all => if s.all then none else some { s with all := true }
  | .version | .help => none

/-- The task, if nothing is missing for it. -/
def task? (s : Selection) : Verb → Option Task
  | .scan => s.operand.map (.scan · s.json)
  | .extract => s.operand.map (.extract · s.json)
  | .version => some (.version s.json)
  | .resolve =>
    match s.operand, s.secrets with
    | some parameters, some secrets =>
      some (.resolve
        { parameters, secrets, format := s.format.getD .properties, strict := s.strict, all := s.all })
    | _, _ => none

end Selection

/-- Arguments that have been read up to some point. -/
structure Reading where
  verb : Option Verb := none
  /-- What was set before the command. -/
  outer : Selection := {}
  /-- What was set since then. -/
  inner : Selection := {}
  /-- A switch whose value comes next. -/
  pending : Option Switch := none
  /-- Whether there are no switches any more. -/
  literal : Bool := false
  /-- The names of commands behind the word `help`. -/
  helpOn : Option (List String) := none

namespace Reading

/-- The switches that count at this point. -/
def known (r : Reading) : List Switch :=
  Switch.common ++
    match r.verb with
    | none => []
    | some verb => verb.switches

/-- The program, or its command, by the name it has here. -/
def programName (r : Reading) : String :=
  match r.verb with
  | none => Command.programName
  | some verb => Command.programName ++ "-" ++ verb.name

def choose (r : Reading) (switch : Switch) (value : String) : Except Refusal Reading :=
  match switch with
  | .version => .error (.versionOf r.programName)
  | .help => .error .help
  | switch =>
    match r.inner.set? value switch with
    | some inner => .ok { r with inner, pending := none }
    | none => .error .misuse

/-- Reads letters that are run together. -/
def letters : List Char → Reading → Except Refusal Reading
  | [], r => .ok r
  | c :: rest, r =>
    match r.known.find? fun switch => switch.letter? == some c with
    | none => .error .misuse
    | some switch =>
      if switch.takesValue then
        match rest with
        | [] => .ok { r with pending := some switch }
        | '=' :: value | value => r.choose switch (String.ofList value)
      else
        match r.choose switch "" with
        | .ok r => letters rest r
        | .error refusal => .error refusal

/-- Reads a long name, with a value or without one. -/
def long (r : Reading) (cs : List Char) : Except Refusal Reading :=
  let name := cs.takeWhile (· ≠ '=')
  match r.known.find? fun switch => switch.name.toList == name with
  | none => .error .misuse
  | some switch =>
    match switch.takesValue, cs.drop name.length with
    | true, [] => .ok { r with pending := some switch }
    | true, _ :: value => r.choose switch (String.ofList value)
    | false, [] => r.choose switch ""
    | false, _ :: _ => .error .misuse

/-- Reads the name of the command, or its operand. -/
def operand (r : Reading) (text : String) : Except Refusal Reading :=
  match r.verb with
  | none =>
    if r.literal then .error .misuse
    else if text = Switch.help.name then .ok { r with helpOn := some [] }
    else
      match Verb.ofName? text with
      | some verb => .ok { r with verb := some verb, outer := r.inner, inner := {} }
      | none => .error .misuse
  | some verb =>
    if r.inner.operand.isNone && verb.accepts text then
      .ok { r with inner := { r.inner with operand := some text } }
    else .error .misuse

/-- Reads what stands behind the word `help`, which can ask for help on itself. -/
def helpName (r : Reading) (names : List String) (text : String) : Except Refusal Reading :=
  if names.isEmpty ∧ (text = Switch.help.name ∨ (Verb.ofName? text).isSome) then
    .ok { r with helpOn := some [text] }
  else .error .misuse

/-- Reads one argument. A lone minus sign is no switch. -/
def argument (r : Reading) (text : String) : Except Refusal Reading :=
  if let some names := r.helpOn then r.helpName names text
  else if r.literal then r.operand text
  else
    match r.pending, text.toList with
    | some _, '-' :: _ :: _ => .error .misuse
    | some switch, _ => r.choose switch text
    | none, ['-', '-'] => .ok { r with literal := true }
    | none, '-' :: '-' :: name => r.long name
    | none, '-' :: c :: cs => letters (c :: cs) r
    | none, _ => r.operand text

/-- The invocation that all the arguments make. Behind the command the switches of the program count for
more than before it. -/
def invocation (r : Reading) : Except Refusal Invocation :=
  if r.helpOn.isSome then .error .help
  else
    match r.pending, r.verb.bind r.inner.task? with
    | none, some task =>
      .ok
        { task
          verbosity :=
            { detail := if r.inner.detail = 0 then r.outer.detail else r.inner.detail
              quiet := r.outer.quiet || r.inner.quiet }
          config := r.inner.config.or r.outer.config }
    | _, _ => .error .misuse

end Reading

namespace Invocation

/-- Reads all arguments. -/
def ofArguments (arguments : List String) : Except Refusal Invocation := do
  (← arguments.foldlM Reading.argument {}).invocation

end Invocation

end SecretRefs.Command
