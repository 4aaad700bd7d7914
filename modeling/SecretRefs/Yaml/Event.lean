import SecretRefs.Yaml.Token

/-! The events of a YAML document: its scalars and aliases in order, and the begin and end of its
collections. They come from the tokens by prediction. What is still to come is kept on a stack of
goals; the goal on top and the next token decide what the goal is replaced by. -/

namespace SecretRefs.Yaml

/-- The anchor and the tag of a node. -/
structure Properties where
  anchor : Option String := none
  tag : Option Tag := none
  deriving DecidableEq, Repr

inductive Event
  | alias (name : String)
  | scalar (properties : Properties) (style : ScalarStyle) (text : String)
  | sequenceStart (properties : Properties)
  | sequenceEnd
  | mappingStart (properties : Properties)
  | mappingEnd
  deriving DecidableEq, Repr

/-- What may be next in a document. -/
inductive Goal
  /-- A node, in block context or not; a sequence as the value of a key need not be indented. -/
  | node (block unindented : Bool)
  | blockItems
  | unindentedItems
  | blockKey
  | blockValue
  | flowItems (first : Bool)
  /-- The parts of a single pair inside of a flow sequence. -/
  | pairKey
  | pairValue
  | pairEnd
  | flowKey (first : Bool)
  | flowValue
  /-- The value of a key that stands alone. -/
  | noValue
  deriving DecidableEq, Repr

/-- What a goal turns into: at most one event, the goals in its place, and the tokens that are left. -/
structure Expansion where
  event : Option Event := none
  goals : List Goal := []
  tokens : List Token

/-- The tag handles of a document and what they stand for. -/
abbrev TagHandles := List (String × List UInt8)

namespace Goal

def emptyScalar : Event := .scalar {} .plain ""

/-- The full tag. -/
def resolveTag (handles : TagHandles) (handle : String) (suffix : List UInt8) :
    Except Fault Tag :=
  if handle.isEmpty then .ok ⟨suffix⟩
  else
    match handles.lookup handle with
    | some lead => .ok ⟨lead ++ suffix⟩
    | none => .error .malformed

/-- Reads the anchor and the tag in front of a node, in either order. -/
def readProperties (handles : TagHandles) (ts : List Token) : Except Fault (Properties × List Token) :=
  match ts with
  | .anchor anchor :: .tag handle suffix :: rest => do
    .ok ({ anchor, tag := ← resolveTag handles handle suffix }, rest)
  | .anchor anchor :: rest => .ok ({ anchor }, rest)
  | .tag handle suffix :: .anchor anchor :: rest => do
    .ok ({ anchor, tag := ← resolveTag handles handle suffix }, rest)
  | .tag handle suffix :: rest => do .ok ({ tag := ← resolveTag handles handle suffix }, rest)
  | ts => .ok ({}, ts)

def expandNode (handles : TagHandles) (block unindented : Bool) (ts : List Token) :
    Except Fault Expansion :=
  match ts with
  | .alias name :: rest => .ok { event := some (.alias name), tokens := rest }
  | ts => do
    let (properties, ts) ← readProperties handles ts
    let start (event : Properties → Event) (goals : List Goal) (tokens : List Token) :=
      Except.ok { event := some (event properties), goals, tokens }
    match ts with
    | [] => .error .malformed
    | .scalar style text :: rest => start (Event.scalar · style text) [] rest
    | .flowSequenceStart :: rest => start .sequenceStart [.flowItems true] rest
    | .flowMappingStart :: rest => start .mappingStart [.flowKey true] rest
    | t :: rest =>
      if unindented ∧ t = .blockEntry then start .sequenceStart [.unindentedItems] ts
      else if block ∧ t = .blockSequenceStart then start .sequenceStart [.blockItems] rest
      else if block ∧ t = .blockMappingStart then start .mappingStart [.blockKey] rest
      else if properties ≠ {} then start (Event.scalar · .plain "") [] ts
      else .error .malformed

/-- A node, or an empty scalar if the next token belongs to the collection around it. -/
def orEmpty (node next : Goal) (stops : List Token) (ts : List Token) : Except Fault Expansion :=
  match ts with
  | [] => .error .malformed
  | t :: _ =>
    if t ∈ stops then .ok { event := some emptyScalar, goals := [next], tokens := ts }
    else .ok { goals := [node, next], tokens := ts }

def expand (handles : TagHandles) (goal : Goal) (ts : List Token) : Except Fault Expansion :=
  match goal, ts with
  | .node block unindented, ts => expandNode handles block unindented ts
  | .blockItems, .blockEntry :: rest =>
    orEmpty (.node true false) .blockItems [.blockEntry, .blockEnd] rest
  | .blockItems, .blockEnd :: rest => .ok { event := some .sequenceEnd, tokens := rest }
  | .blockItems, _ => .error .malformed
  | .unindentedItems, .blockEntry :: rest =>
    orEmpty (.node true false) .unindentedItems [.blockEntry, .key, .value, .blockEnd] rest
  | .unindentedItems, [] => .error .malformed
  | .unindentedItems, ts => .ok { event := some .sequenceEnd, tokens := ts }
  | .blockKey, .key :: rest =>
    orEmpty (.node true true) .blockValue [.key, .value, .blockEnd] rest
  | .blockKey, .blockEnd :: rest => .ok { event := some .mappingEnd, tokens := rest }
  | .blockKey, _ => .error .malformed
  | .blockValue, .value :: rest =>
    orEmpty (.node true true) .blockKey [.key, .value, .blockEnd] rest
  | .blockValue, [] => .error .malformed
  | .blockValue, ts => .ok { event := some emptyScalar, goals := [.blockKey], tokens := ts }
  | .flowItems _, .flowSequenceEnd :: rest => .ok { event := some .sequenceEnd, tokens := rest }
  | .flowItems first, ts => do
    let ts ←
      match first, ts with
      | true, ts => Except.ok ts
      | false, .flowEntry :: rest => .ok rest
      | false, _ => .error .malformed
    match ts with
    | [] => .error .malformed
    | .key :: rest =>
      .ok { event := some (.mappingStart {}), goals := [.pairKey, .flowItems false], tokens := rest }
    | .flowSequenceEnd :: rest => .ok { event := some .sequenceEnd, tokens := rest }
    | ts => .ok { goals := [.node false false, .flowItems false], tokens := ts }
  -- A pair whose key is missing loses the token behind the key indicator.
  | .pairKey, t :: rest =>
    if t ∈ [.value, .flowEntry, .flowSequenceEnd] then
      .ok { event := some emptyScalar, goals := [.pairValue], tokens := rest }
    else .ok { goals := [.node false false, .pairValue], tokens := t :: rest }
  | .pairKey, [] => .error .malformed
  | .pairValue, .value :: rest =>
    orEmpty (.node false false) .pairEnd [.flowEntry, .flowSequenceEnd] rest
  | .pairValue, [] => .error .malformed
  | .pairValue, ts => .ok { event := some emptyScalar, goals := [.pairEnd], tokens := ts }
  | .pairEnd, ts => .ok { event := some .mappingEnd, tokens := ts }
  | .flowKey _, .flowMappingEnd :: rest => .ok { event := some .mappingEnd, tokens := rest }
  | .flowKey first, ts => do
    let ts ←
      match first, ts with
      | true, ts => Except.ok ts
      | false, .flowEntry :: rest => .ok rest
      | false, _ => .error .malformed
    match ts with
    | [] => .error .malformed
    | .key :: rest =>
      orEmpty (.node false false) .flowValue [.value, .flowEntry, .flowMappingEnd] rest
    | .flowMappingEnd :: rest => .ok { event := some .mappingEnd, tokens := rest }
    | ts => .ok { goals := [.node false false, .noValue], tokens := ts }
  | .flowValue, .value :: rest =>
    orEmpty (.node false false) (.flowKey false) [.flowEntry, .flowMappingEnd] rest
  | .flowValue, [] => .error .malformed
  | .flowValue, ts => .ok { event := some emptyScalar, goals := [.flowKey false], tokens := ts }
  | .noValue, ts => .ok { event := some emptyScalar, goals := [.flowKey false], tokens := ts }

/-- Meets all goals of a stack, and returns the events, the first one first, with the tokens behind or
with the fault that ended the work. -/
def run (handles : TagHandles) : (bound : Nat) → List Goal → List Token → List Event →
    List Event × Except Fault (List Token)
  | 0, _, _, events => (events.reverse, .error .malformed)
  | _, [], ts, events => (events.reverse, .ok ts)
  | bound + 1, goal :: goals, ts, events =>
    match expand handles goal ts with
    | .error fault => (events.reverse, .error fault)
    | .ok e => run handles bound (e.goals ++ goals) e.tokens (e.event.toList ++ events)

end Goal

/-- The events of the first document of a text. -/
structure EventStream where
  events : List Event
  /-- What is wrong with the document, if anything is. -/
  documentFault : Option Fault := none
  /-- What is wrong with the text behind it. -/
  trailingFault : Option Fault := none

namespace EventStream

def standardHandles : TagHandles := [("!", [0x21]), ("!!", Tag.coreLead)]

/-- Reads the directives of a document. A version must be given once at most, and be one that is
known; so must a tag handle. -/
def readDirectives :
    List Token → (version : Bool) → TagHandles → Except Fault (TagHandles × List Token)
  | .version major minor :: rest, version, handles =>
    if version ∨ major ≠ 1 ∨ (minor ≠ 1 ∧ minor ≠ 2) then .error .malformed
    else readDirectives rest true handles
  | .tagHandle handle lead :: rest, version, handles =>
    if (handles.lookup handle).isSome then .error .malformed
    else readDirectives rest version (handles ++ [(handle, lead)])
  | ts, _, handles => .ok (handles, ts)

/-- Whether a token cannot begin the content of a document. -/
def endsContent : Token → Bool
  | .version .. | .tagHandle .. | .documentStart | .documentEnd | .streamEnd => true
  | _ => false

/-- Reads the content of a document and looks at what follows it, which may be marks of its end. -/
def ofContent (handles : TagHandles) (goals : List Goal) (ts : List Token) (before : List Event) :
    EventStream :=
  match Goal.run (handles ++ standardHandles) (8 * ts.length + 16) goals ts before with
  | (events, .error fault) => { events, documentFault := some fault }
  | (events, .ok []) => { events, documentFault := some .malformed }
  | (events, .ok rest) =>
    match rest.dropWhile (· == .documentEnd) with
    | [.streamEnd] => { events }
    | [] => { events, trailingFault := some .malformed }
    | _ => { events, trailingFault := some .furtherDocument }

def ofTokens (ts : List Token) : EventStream :=
  match ts with
  | [] => { events := [], documentFault := some .malformed }
  | [.streamEnd] => { events := [] }
  | t :: _ =>
    if endsContent t ∧ t ≠ .documentEnd then
      match readDirectives ts false [] with
      | .error fault => { events := [], documentFault := some fault }
      | .ok (handles, .documentStart :: rest) =>
        match rest with
        | [] => { events := [], documentFault := some .malformed }
        | t :: _ =>
          if endsContent t then ofContent handles [] rest [Goal.emptyScalar]
          else ofContent handles [.node true false] rest []
      | .ok _ => { events := [], documentFault := some .malformed }
    else ofContent [] [.node true false] ts []

/-- The events of a text. The document is no better than its tokens. -/
def read (text : String) : EventStream := ofTokens (Token.scan text).1

end EventStream

end SecretRefs.Yaml
