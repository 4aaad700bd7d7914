import SecretRefs.Files

/-! Directory trees in memory, and what a POSIX system answers when a path in one is read. -/

namespace SecretRefs

inductive Entry
  | directory
  | file (bytes : List UInt8)
  deriving DecidableEq, Repr

structure FileTree where
  top : String
  /-- The entry at a place; the top directory is at the empty one. -/
  entry? : Place → Option Entry

namespace FileTree

/-- The tree of some files and directories. The directories around them are there as well; of two files
at one place the later one stays. -/
def ofEntries (top : String) (entries : List (Place × Entry)) : FileTree where
  top
  entry? place :=
    match entries.reverse.lookup place with
    | some entry => some entry
    | none =>
      if place.isEmpty || entries.any fun e => place.isPrefixOf e.1 then some .directory else none

/-- Where a walk along a path has come to. Above the top there are directories too, but nothing is known
to be in them. -/
inductive Position
  | inside (place : Place)
  | above
  deriving DecidableEq, Repr

/-- The parts of a path between its slashes. -/
def splitPath (path : String) : List String :=
  (path.toList.foldr
    (fun c parts =>
      if c = '/' then [] :: parts
      else
        match parts with
        | [] => [[c]]
        | part :: rest => (c :: part) :: rest)
    [[]]).map String.ofList

def entryAt? (tree : FileTree) : Position → Option Entry
  | .inside place => tree.entry? place
  | .above => some .directory

/-- The directory around a position. -/
def Position.outward : Position → Position
  | .inside place => if place.isEmpty then .above else .inside place.dropLast
  | .above => .above

/-- One step along a path. Empty parts and `.` stay in a directory, `..` leads out of it. -/
def step (tree : FileTree) (position : Position) (part : String) : Except ReadFault Position :=
  match tree.entryAt? position with
  | none => .error .notFound
  | some (.file _) => .error .notADirectory
  | some .directory =>
    if part = "" ∨ part = "." then .ok position
    else if part = ".." then .ok position.outward
    else if 255 < part.utf8ByteSize then .error .nameTooLong
    else
      match position with
      | .above => .error .notFound
      | .inside place =>
        if (tree.entry? (place ++ [part])).isSome then .ok (.inside (place ++ [part]))
        else .error .notFound

/-- The entry at a path, taken from a working directory. -/
def find (tree : FileTree) (workingDirectory : Place) (path : String) : Except ReadFault Entry :=
  if path.toList.contains '\x00' then .error .nulInName
  else if path = "" then .error .notFound
  else if 4095 < path.utf8ByteSize then .error .nameTooLong
  else do
    let start :=
      if path.toList.head? = some '/' then
        if tree.top = "" then Position.inside [] else .above
      else .inside workingDirectory
    let position ← (splitPath path).foldlM tree.step start
    match tree.entryAt? position with
    | some entry => .ok entry
    | none => .error .notFound

/-- The text of an entry. -/
def textOf : Entry → Except ReadFault String
  | .directory => .error .isADirectory
  | .file bytes =>
    match String.fromUTF8? ⟨bytes.toArray⟩ with
    | some text => .ok text
    | none => .error .notText

/-- The files of a tree, seen from a working directory. -/
def files (tree : FileTree) (workingDirectory : Place) : Files where
  top := tree.top
  workingDirectory
  read path := do textOf (← tree.find workingDirectory path)
  readAt place :=
    match tree.entry? place with
    | some entry => textOf entry
    | none => .error .notFound

end FileTree

end SecretRefs
