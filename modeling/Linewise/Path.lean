/-! Paths of files as they are written: names between slashes. A tidy path has no empty name and no `.`; the
name `..` stays, since what it means depends on the files. -/
namespace Linewise

structure Path where
  root : String
  names : List String
  deriving DecidableEq, Repr

namespace Path

/-- The pieces of a text between slashes. -/
def segments : List Char → List (List Char)
  | [] => [[]]
  | c :: rest =>
    if c = '/' then [] :: segments rest
    else
      match segments rest with
      | [] => [[c]]
      | piece :: more => (c :: piece) :: more

/-- The names a path text goes through; an empty one means nothing. -/
def namesOf (path : String) : List String :=
  ((segments path.toList).filter (· ≠ [])).map String.ofList

/-- The leading slashes that count: exactly two are not the same as one. -/
def rootOf (path : String) : String :=
  match path.toList with
  | '/' :: '/' :: '/' :: _ => "/"
  | '/' :: '/' :: _ => "//"
  | '/' :: _ => "/"
  | _ => ""

def parse (path : String) : Path := ⟨rootOf path, (namesOf path).filter (· ≠ ".")⟩

def render (path : Path) : String :=
  if path.root = "" ∧ path.names = [] then "." else path.root ++ "/".intercalate path.names

/-- A path seen from another; one that starts at the root is not moved. -/
def join (path : Path) (inner : String) : Path :=
  let inner := parse inner
  if inner.root = "" then ⟨path.root, path.names ++ inner.names⟩ else inner

/-- Takes every `..` back together with the name before it. -/
def collapse (names : List String) : List String :=
  names.foldl (fun kept name => if name = ".." then kept.dropLast else kept ++ [name]) []

/-- The full path seen from a directory, with no `..` left. -/
def absolute (directory : List String) (path : Path) : Path :=
  if path.root = "" then ⟨"/", collapse (directory ++ path.names)⟩ else ⟨path.root, collapse path.names⟩

end Path

end Linewise
