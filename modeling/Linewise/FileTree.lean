import Linewise.Fault
import Linewise.Path

/-! A tree of files and directories with a working directory. Operations that can fail for want of a file
or a directory say why in the system's words. -/
namespace Linewise

inductive Entry
  | file (bytes : List UInt8)
  | directory
  deriving DecidableEq, Repr

def Entry.isDirectory : Entry → Bool
  | directory => true
  | file _ => false

/-- Where an entry lies: the names from the root to it. -/
abbrev Location := List String

structure FileTree where
  entries : List (Location × Entry)
  working : Location
  deriving Repr

/-- Why the system does not do what it was asked. -/
inductive Refusal
  | missing
  | present
  | notDirectory
  | isDirectory
  | nameTooLong
  deriving DecidableEq, Repr

namespace Refusal

def number : Refusal → Int
  | missing => 2
  | present => 17
  | notDirectory => 20
  | isDirectory => 21
  | nameTooLong => 36

def message : Refusal → String
  | missing => "No such file or directory"
  | present => "File exists"
  | notDirectory => "Not a directory"
  | isDirectory => "Is a directory"
  | nameTooLong => "File name too long"

def toFault (refusal : Refusal) (path : String) : Fault :=
  .system [.int refusal.number, .text refusal.message, .text path]

end Refusal

namespace FileTree

/-- The entry at a location; the root is always there. -/
def find? (tree : FileTree) (location : Location) : Option Entry :=
  if location = [] then some .directory else tree.entries.lookup location

def putEntry (location : Location) (entry : Entry) : List (Location × Entry) → List (Location × Entry)
  | [] => [(location, entry)]
  | (other, kept) :: rest =>
    if other = location then (location, entry) :: rest else (other, kept) :: putEntry location entry rest

/-- Puts an entry in place, over the one that was there. -/
def put (tree : FileTree) (location : Location) (entry : Entry) : FileTree :=
  { tree with entries := putEntry location entry tree.entries }

@[simp] theorem lookup_putEntry_self (location : Location) (entry : Entry) (entries : List (Location × Entry)) :
    (putEntry location entry entries).lookup location = some entry := by
  induction entries with
  | nil => simp [putEntry]
  | cons first rest ih =>
    obtain ⟨other, kept⟩ := first
    by_cases same : other = location
    · simp [putEntry, same]
    · have differs : (location == other) = false := by simp [Ne.symm same]
      simp [putEntry, same, List.lookup_cons, differs, ih]

theorem lookup_putEntry_other (location other : Location) (entry : Entry) (entries : List (Location × Entry))
    (differs : other ≠ location) :
    (putEntry location entry entries).lookup other = entries.lookup other := by
  have unequal : (other == location) = false := by simp [differs]
  induction entries with
  | nil => simp [putEntry, List.lookup_cons, unequal]
  | cons first rest ih =>
    obtain ⟨place, kept⟩ := first
    by_cases same : place = location
    · simp [putEntry, same, List.lookup_cons, unequal]
    · by_cases here : other = place
      · simp [putEntry, same, here]
      · have elsewhere : (other == place) = false := by simp [here]
        simp [putEntry, same, List.lookup_cons, elsewhere, ih]

/-- What is put in place is found there, except at the root, which stays a directory. -/
theorem find?_put_self (tree : FileTree) (location : Location) (entry : Entry) (inside : location ≠ []) :
    (tree.put location entry).find? location = some entry := by
  simp [find?, put, inside]

/-- Nothing else changes. -/
theorem find?_put_other (tree : FileTree) (location other : Location) (entry : Entry)
    (differs : other ≠ location) : (tree.put location entry).find? other = tree.find? other := by
  simp [find?, put, lookup_putEntry_other _ _ _ _ differs]

def erase (tree : FileTree) (location : Location) : FileTree :=
  { tree with entries := tree.entries.filter (·.1 ≠ location) }

def isDirectory (tree : FileTree) (location : Location) : Bool :=
  (tree.find? location).any Entry.isDirectory

/-- What a path leads to: an entry, or a place in a directory where there is none yet. -/
inductive Target
  | entry (location : Location) (entry : Entry)
  | vacant (location : Location)

/-- Limits of one name and of a whole path, in bytes. -/
def nameLimit : Nat := 255
def pathLimit : Nat := 4096

def follow (tree : FileTree) (here : Location) : List String → Except Refusal Target
  | [] =>
    match tree.find? here with
    | some entry => .ok (.entry here entry)
    | none => .error .missing
  | name :: rest =>
    if !tree.isDirectory here then .error .notDirectory
    else if name = "." then follow tree here rest
    else if name = ".." then follow tree here.dropLast rest
    else if nameLimit < name.utf8ByteSize then .error .nameTooLong
    else if (tree.find? (here ++ [name])).isSome then follow tree (here ++ [name]) rest
    else if rest = [] then .ok (.vacant (here ++ [name]))
    else .error .missing

/-- Follows a path name by name, from the root or from the working directory. -/
def resolve (tree : FileTree) (path : String) : Except Refusal Target :=
  if path = "" then .error .missing
  else if pathLimit ≤ path.utf8ByteSize then .error .nameTooLong
  else follow tree (if Path.rootOf path = "" then tree.working else []) (Path.namesOf path)

/-- A path that ends in a slash can only mean a directory. -/
def endsInSlash (path : String) : Bool := path.toList.getLast? = some '/'

def nullByte : Fault := .value "embedded null byte"

/-- No path holds the null character. -/
def unlessNull (path : String) (action : Except Fault α) : Except Fault α :=
  if path.toList.contains '\x00' then .error nullByte else action

/-- The bytes of a file. -/
def read (tree : FileTree) (path : String) : Except Fault (List UInt8) :=
  unlessNull path <|
    match tree.resolve path with
    | .ok (.entry _ (.file bytes)) =>
      if endsInSlash path then .error (Refusal.toFault .notDirectory path) else .ok bytes
    | .ok (.entry _ .directory) => .error (Refusal.toFault .isDirectory path)
    | .ok (.vacant _) => .error (Refusal.toFault .missing path)
    | .error refusal => .error (refusal.toFault path)

/-- The location of a file that is to be written, new or not. -/
def writable (tree : FileTree) (path : String) : Except Fault Location :=
  unlessNull path <|
    match tree.resolve path with
    | .ok (.entry location (.file _)) =>
      if endsInSlash path then .error (Refusal.toFault .notDirectory path) else .ok location
    | .ok (.entry _ .directory) => .error (Refusal.toFault .isDirectory path)
    | .ok (.vacant location) =>
      if endsInSlash path then .error (Refusal.toFault .isDirectory path) else .ok location
    | .error refusal => .error (refusal.toFault path)

def bytesAt (tree : FileTree) (location : Location) : List UInt8 :=
  match tree.find? location with
  | some (.file bytes) => bytes
  | _ => []

/-- Makes sure that there is something at a location, if only an empty file. -/
def touch (tree : FileTree) (location : Location) : FileTree :=
  if (tree.find? location).isSome then tree else tree.put location (.file [])

/-- Adds bytes to a file. Where there is none, there is nothing to add to. -/
def append (tree : FileTree) (location : Location) (bytes : List UInt8) : FileTree :=
  match tree.find? location with
  | some (.file old) => tree.put location (.file (old ++ bytes))
  | _ => tree

/-- Makes one directory; its parent must be there. -/
def makeDirectory (tree : FileTree) (path : String) : Except Refusal FileTree :=
  match tree.resolve path with
  | .ok (.entry _ _) => .error .present
  | .ok (.vacant location) => .ok (tree.put location .directory)
  | .error refusal => .error refusal

/-- A directory that is already there will do; anything else in its place will not. -/
def tolerate (tree : FileTree) (path : String) (refusal : Refusal) : Option Fault :=
  match tree.resolve path with
  | .ok (.entry _ .directory) => none
  | _ => some (refusal.toFault path)

/-- Makes a directory and those above it, the names being given from the last to the first. What has been
made stays made when a later one is refused. -/
def makeDirectoriesFrom (root : String) (tree : FileTree) : List String → FileTree × Option Fault
  | [] =>
    let path := (Path.mk root []).render
    match tree.makeDirectory path with
    | .ok tree => (tree, none)
    | .error refusal => (tree, tree.tolerate path refusal)
  | name :: above =>
    let path := (Path.mk root (above.reverse ++ [name])).render
    match tree.makeDirectory path with
    | .ok tree => (tree, none)
    | .error .missing =>
      match makeDirectoriesFrom root tree above with
      | (tree, some fault) => (tree, some fault)
      | (tree, none) =>
        match tree.makeDirectory path with
        | .ok tree => (tree, none)
        | .error .missing => (tree, some (Refusal.toFault .missing path))
        | .error refusal => (tree, tree.tolerate path refusal)
    | .error refusal => (tree, tree.tolerate path refusal)

def makeDirectories (tree : FileTree) (path : Path) : FileTree × Option Fault :=
  if path.render.toList.contains '\x00' then (tree, some nullByte)
  else makeDirectoriesFrom path.root tree path.names.reverse

end FileTree

end Linewise
