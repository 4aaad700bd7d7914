import SecretRefs.Yaml.Event

/-! YAML documents as trees of nodes. A document that breaks off has its tree as well: nodes are
missing where the text could not be read, and whoever needs one of them meets the fault.

An alias names a node by a number. An anchor gets the number of distinct names in use before it, so an
anchor that takes up a name again shares its number with the next new one, and the later of the two
is meant. -/

namespace SecretRefs.Yaml

inductive Node
  | alias (number : Nat)
  | scalar (tag : Option Tag) (style : ScalarStyle) (text : String)
  | sequence (tag : Option Tag) (items : List Node)
  | mapping (tag : Option Tag) (entries : List (Node × Node))
  | missing
  deriving Inhabited

structure Document where
  /-- The tree; a text without a document has none. -/
  root : Option Node
  /-- The nodes with an anchor, by number. -/
  anchored : List (Nat × Node)
  /-- The number of events. -/
  size : Nat
  fault : Option Fault
  trailingFault : Option Fault

namespace Document

/-- A collection that is being read. -/
structure Frame where
  isMapping : Bool
  tag : Option Tag
  /-- The number of its first event. -/
  position : Nat
  /-- The nodes read so far, the last one first; in a mapping keys and values take turns. -/
  nodes : List Node := []

def pairs : List Node → List (Node × Node)
  | k :: v :: rest => (k, v) :: pairs rest
  | _ => []

def Frame.close (f : Frame) : Node :=
  if f.isMapping then .mapping f.tag (pairs f.nodes.reverse) else .sequence f.tag f.nodes.reverse

/-- Closes a collection that breaks off. -/
def Frame.breakOff (f : Frame) : Node :=
  { f with nodes := .missing :: .missing :: f.nodes }.close

structure Builder where
  /-- The collections that are open, the innermost first. -/
  frames : List Frame := []
  root : Option Node := none
  /-- The complete nodes by the number of their first event. -/
  complete : List (Nat × Node) := []
  /-- The numbers of the anchors, by name. -/
  numbers : List (String × Nat) := []
  /-- The event with which the anchored node of a number begins. -/
  targets : List (Nat × Nat) := []
  /-- The number of events so far. -/
  size : Nat := 0

namespace Builder

/-- Adds a complete node to the collection around it. -/
def add (b : Builder) (position : Nat) (node : Node) : Builder :=
  let b := { b with complete := (position, node) :: b.complete }
  match b.frames with
  | [] => { b with root := some node }
  | f :: frames => { b with frames := { f with nodes := node :: f.nodes } :: frames }

/-- Gives the node that begins here the number of its anchor. -/
def anchor (b : Builder) (properties : Properties) : Builder :=
  match properties.anchor with
  | none => b
  | some name =>
    let number := b.numbers.length
    { b with
      numbers := (name, number) :: b.numbers.filter (·.1 != name)
      targets := (number, b.size) :: b.targets.filter (·.1 != number) }

def opened (b : Builder) (isMapping : Bool) (properties : Properties) : Builder :=
  let b := b.anchor properties
  { b with frames := { isMapping, tag := properties.tag, position := b.size } :: b.frames }

def closed (b : Builder) : Builder :=
  match b.frames with
  | [] => b
  | f :: frames => { b with frames }.add f.position f.close

/-- Adds one event; an alias without an anchor before it is a fault. -/
def step (b : Builder) (e : Event) : Except Fault Builder := do
  let next ←
    match e with
    | .alias name =>
      match b.numbers.lookup name with
      | some number => Except.ok (b.add b.size (.alias number))
      | none => .error .unknownAlias
    | .scalar properties style text =>
      let b := b.anchor properties
      .ok (b.add b.size (.scalar properties.tag style text))
    | .sequenceStart properties => .ok (b.opened false properties)
    | .mappingStart properties => .ok (b.opened true properties)
    | .sequenceEnd => .ok b.closed
    | .mappingEnd => .ok b.closed
  .ok { next with size := b.size + 1 }

/-- Adds events up to the first fault. -/
def steps (b : Builder) : List Event → Builder × Option Fault
  | [] => (b, none)
  | e :: events =>
    match b.step e with
    | .ok next => next.steps events
    | .error fault => (b, some fault)

/-- Closes what is open, as broken off. -/
def breakOff (b : Builder) : Builder :=
  b.frames.foldl
    (fun b _ =>
      match b.frames with
      | [] => b
      | f :: frames => { b with frames }.add f.position f.breakOff) b

def document (b : Builder) (fault trailingFault : Option Fault) : Document :=
  let b := b.breakOff
  { root := if fault.isSome then some (b.root.getD .missing) else b.root
    anchored := b.targets.filterMap fun (number, position) =>
      (b.complete.lookup position).map (number, ·)
    size := b.size
    fault
    trailingFault }

end Builder

def ofEvents (s : EventStream) : Document :=
  let (b, fault) := ({} : Builder).steps s.events
  b.document (fault.orElse fun _ => s.documentFault) s.trailingFault

def read (text : String) : Document := ofEvents (EventStream.read text)

end Document

end SecretRefs.Yaml
