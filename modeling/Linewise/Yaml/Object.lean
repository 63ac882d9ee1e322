import Linewise.Yaml.Node
import Linewise.Yaml.Scatter

/-! The values that a graph of nodes stands for. Nodes are valued in the order of their distance from the
root, the entries of one collection in their own order, so of several faults the one nearest to the root
is found. A merged mapping lends its entries to the one that merges it, which may override them. -/
namespace Linewise.Yaml

/-- A value; the parts of a collection are given by the numbers of their nodes. -/
inductive Object
  | scalar (value : Scalar)
  | list (items : List Nat)
  | mapping (entries : List (Nat × Nat))
  | set (members : List Nat)
  | pairs (entries : List (Nat × Nat))
  deriving DecidableEq, Repr

namespace Graph

def tagOf (graph : Graph) (id : Nat) : String := (graph[id]?.map Node.tag).getD ""

def contentOf (graph : Graph) (id : Nat) : Content := (graph[id]?.map Node.content).getD (.scalar [])

def pairsOf (graph : Graph) (id : Nat) : List (Nat × Nat) :=
  match graph.contentOf id with
  | .mapping pairs => pairs
  | _ => []

def setPairs (graph : Graph) (id : Nat) (pairs : List (Nat × Nat)) : Graph :=
  graph.modify id fun node => { node with content := .mapping pairs }

def setTag (graph : Graph) (id : Nat) (tag : String) : Graph := graph.modify id fun node => { node with tag }

def isMapping (graph : Graph) (id : Nat) : Bool := graph.contentOf id matches .mapping _

mutual

/-- Replaces the merge entries of a mapping by the entries of the mappings they name, put in front. -/
def flatten : (fuel : Nat) → Graph → (id : Nat) → Except Fault Graph
  | 0, _, _ => .error malformed
  | fuel + 1, graph, id => flattenFrom fuel graph id 0 []

def flattenFrom : (fuel : Nat) → Graph → (id place : Nat) → (merged : List (Nat × Nat)) → Except Fault Graph
  | 0, _, _, _, _ => .error malformed
  | fuel + 1, graph, id, place, merged =>
    let pairs := graph.pairsOf id
    match pairs[place]? with
    | none => .ok (if merged = [] then graph else graph.setPairs id (merged ++ pairs))
    | some (key, value) =>
      if graph.tagOf key = Tag.merge then
        let graph := graph.setPairs id (pairs.eraseIdx place)
        match graph.contentOf value with
        | .mapping _ => do
          let graph ← flatten fuel graph value
          flattenFrom fuel graph id place (merged ++ graph.pairsOf value)
        | .sequence items => do
          let (graph, lent) ← flattenAll fuel graph items
          flattenFrom fuel graph id place (merged ++ lent.reverse.flatten)
        | .scalar _ => .error malformed
      else if graph.tagOf key = Tag.value then
        flattenFrom fuel (graph.setTag key Tag.text) id (place + 1) merged
      else flattenFrom fuel graph id (place + 1) merged

def flattenAll : (fuel : Nat) → Graph → List Nat → Except Fault (Graph × List (List (Nat × Nat)))
  | 0, _, _ => .error malformed
  | _, graph, [] => .ok (graph, [])
  | fuel + 1, graph, id :: rest =>
    if !graph.isMapping id then .error malformed
    else do
      let graph ← flatten fuel graph id
      let lent := graph.pairsOf id
      let (graph, more) ← flattenAll fuel graph rest
      return (graph, lent :: more)

end

/-- The text of a scalar. A mapping with a key `=` has the text of that key's value; one that lies on its own
way has none. -/
def textOf : (fuel : Nat) → Graph → (id : Nat) → Except Fault (List Text.Letter)
  | 0, _, _ => .error tooDeep
  | fuel + 1, graph, id =>
    match graph.contentOf id with
    | .scalar text => .ok text
    | .sequence _ => .error malformed
    | .mapping pairs =>
      match pairs.find? fun (key, _) => graph.tagOf key = Tag.value with
      | some (_, value) => textOf fuel graph value
      | none => .error malformed

end Graph

/-- Values found so far, and the collections whose parts are still to be valued. -/
structure Valuation where
  graph : Graph
  objects : Array (Option Object)
  waiting : List Nat

namespace Valuation

def object? (valuation : Valuation) (id : Nat) : Option Object := valuation.objects[id]?.join

def put (valuation : Valuation) (id : Nat) (object : Object) : Valuation :=
  { valuation with objects := valuation.objects.setIfInBounds id (some object) }

/-- The collection a tag asks for, still empty. -/
def emptyOf? (tag : String) : Option Object :=
  if tag = Tag.sequence then some (.list [])
  else if tag = Tag.mapping then some (.mapping [])
  else if tag = Tag.set then some (.set [])
  else if tag = Tag.orderedMapping ∨ tag = Tag.pairs then some (.pairs [])
  else none

def noText : Fault := .plain .type [.text "expected string or bytes-like object, got 'list'"]

/-- Values a node: a scalar at once, a collection for the time being as an empty one. -/
def visit (valuation : Valuation) (id : Nat) : Except Fault Valuation :=
  if (valuation.object? id).isSome then .ok valuation
  else
    let graph := valuation.graph
    let tag := graph.tagOf id
    match emptyOf? tag with
    | some empty => .ok { valuation.put id empty with waiting := valuation.waiting ++ [id] }
    | none =>
      if (Scalar.read? tag []).isNone then .error malformed
      else do
        let text ← graph.textOf (graph.size + 1) id
        if tag = Tag.timestamp ∧ graph.isMapping id then throw noText
        match Scalar.read? tag text with
        | some read => return valuation.put id (.scalar (← read))
        | none => .error malformed

def visitAll (valuation : Valuation) (ids : List Nat) : Except Fault Valuation := ids.foldlM visit valuation

/-- Values a node that serves as a key; a collection cannot. -/
def visitKey (valuation : Valuation) (id : Nat) : Except Fault Valuation := do
  let valuation ← valuation.visit id
  match valuation.object? id with
  | some (.scalar _) => return valuation
  | _ => throw malformed

/-- Do two nodes count as one key? -/
def sameKey (valuation : Valuation) (a b : Nat) : Bool :=
  a == b ||
    match valuation.object? a, valuation.object? b with
    | some (.scalar a), some (.scalar b) => a.agrees b
    | _, _ => false

def setEntry (valuation : Valuation) (key value : Nat) : List (Nat × Nat) → List (Nat × Nat)
  | [] => [(key, value)]
  | (old, kept) :: rest =>
    if valuation.sameKey old key then (old, value) :: rest
    else (old, kept) :: valuation.setEntry key value rest

/-- Keys and values in turn; of equal keys the last value counts, in the place of the first. -/
def visitEntries (valuation : Valuation) (entries : List (Nat × Nat)) :
    List (Nat × Nat) → Except Fault (List (Nat × Nat) × Valuation)
  | [] => .ok (entries, valuation)
  | (key, value) :: rest => do
    let valuation ← valuation.visitKey key
    let valuation ← valuation.visit value
    visitEntries valuation (valuation.setEntry key value entries) rest

/-- Entries that keep their order: a list of mappings of one pair each. -/
def visitPairs (valuation : Valuation) : List Nat → Except Fault (List (Nat × Nat) × Valuation)
  | [] => .ok ([], valuation)
  | id :: rest =>
    match valuation.graph.contentOf id with
    | .mapping [(key, value)] => do
      let valuation ← valuation.visit key
      let valuation ← valuation.visit value
      let (more, valuation) ← visitPairs valuation rest
      return ((key, value) :: more, valuation)
    | _ => .error malformed

/-- Steps enough for all merges of a graph: each may double the entries. -/
def mergeFuel (graph : Graph) : Nat := Nat.pow 2 (graph.size + 8)

def entriesOf (valuation : Valuation) (id : Nat) : Except Fault (List (Nat × Nat) × Valuation) := do
  if !valuation.graph.isMapping id then throw malformed
  let graph ← valuation.graph.flatten (mergeFuel valuation.graph) id
  visitEntries { valuation with graph } [] (graph.pairsOf id)

/-- The members of a set in the order in which it lists them. Only numbers have an order of their own. -/
def arranged (valuation : Valuation) (members : List Nat) : List Nat :=
  let residue? (id : Nat) : Option (Int × Nat) :=
    match valuation.object? id with
    | some (.scalar value) => (Scatter.residue? value).map (·, id)
    | _ => none
  match members.mapM residue? with
  | some numbers => Scatter.arrange numbers
  | none => members

/-- Values the parts of a collection. -/
def fill (valuation : Valuation) (id : Nat) : Except Fault Valuation := do
  match valuation.object? id with
  | some (.list _) =>
    match valuation.graph.contentOf id with
    | .sequence items => return (← valuation.visitAll items).put id (.list items)
    | _ => throw malformed
  | some (.mapping _) =>
    let (entries, valuation) ← valuation.entriesOf id
    return valuation.put id (.mapping entries)
  | some (.set _) =>
    let (entries, valuation) ← valuation.entriesOf id
    return valuation.put id (.set (valuation.arranged (entries.map Prod.fst)))
  | some (.pairs _) =>
    match valuation.graph.contentOf id with
    | .sequence items =>
      let (pairs, valuation) ← valuation.visitPairs items
      return valuation.put id (.pairs pairs)
    | _ => throw malformed
  | _ => return valuation

/-- Values what is waiting, first come first served. Every node waits at most once. -/
def complete : (fuel : Nat) → Valuation → Except Fault Valuation
  | 0, valuation => .ok valuation
  | fuel + 1, valuation =>
    match valuation.waiting with
    | [] => .ok valuation
    | id :: rest => do complete fuel (← { valuation with waiting := rest }.fill id)

def of (graph : Graph) (root : Nat) : Except Fault Valuation := do
  let start : Valuation := ⟨graph, Array.replicate graph.size none, []⟩
  complete (graph.size + 1) (← start.visit root)

/-- The depth to which values are written. -/
def depthLimit : Nat := 980

def tooDeepToWrite : Fault :=
  .plain .recursion [.text "maximum recursion depth exceeded while getting the repr of an object"]

/-- A node's value as it stands inside another. A list or mapping inside itself is not written again. -/
def quoted (valuation : Valuation) : (depth : Nat) → (within : List Nat) → (id : Nat) → Except Fault String
  | 0, _, _ => .error tooDeepToWrite
  | depth + 1, within, id => do
    let inner := quoted valuation depth (id :: within)
    let inside := within.contains id
    match valuation.object? id with
    | none => return ""
    | some (.scalar value) => value.quoted
    | some (.list items) =>
      if inside then return "[...]"
      return "[" ++ ", ".intercalate (← items.mapM inner) ++ "]"
    | some (.mapping entries) =>
      if inside then return "\x7b...\x7d"
      let texts ← entries.mapM fun (key, value) => do return (← inner key) ++ ": " ++ (← inner value)
      return "\x7b" ++ ", ".intercalate texts ++ "\x7d"
    | some (.set []) => return "set()"
    | some (.set members) => return "\x7b" ++ ", ".intercalate (← members.mapM inner) ++ "\x7d"
    | some (.pairs entries) =>
      if inside then return "[...]"
      let texts ← entries.mapM fun (key, value) => do return "(" ++ (← inner key) ++ ", " ++ (← inner value) ++ ")"
      return "[" ++ ", ".intercalate texts ++ "]"

/-- A node's value as it stands for itself. -/
def render (valuation : Valuation) (id : Nat) : Except Fault (List Text.Letter) :=
  match valuation.object? id with
  | some (.scalar value) => value.render
  | _ => Text.Letter.ofString <$> valuation.quoted depthLimit [] id

end Valuation

/-- The value of a text, as a valuation and its root; an empty text has none. -/
def load (text : List Char) : Except Fault (Option (Valuation × Nat)) := do
  match ← Graph.read text with
  | (_, none) => return none
  | (graph, some root) => return some (← Valuation.of graph root, root)

end Linewise.Yaml
