import SourceAtlas.Yaml.Graph
import SourceAtlas.Yaml.Value

/-!
The value of a YAML document. Nodes are taken up in the order in which they are met, collections
after all that stands beside them, so of several faults the outermost is found first. Merged
mappings come before the entries of their own mapping, which replace theirs.
-/
namespace SourceAtlas.Yaml

open Text Decimal

/-- What has been built of a graph: the scalars so far, the nodes met, and the collections still to
be gone through. -/
structure Assembly where
  nodes : Array Node
  scalars : Array (Option Value)
  met : Array Bool
  queue : List Nat := []

namespace Assembly

def node (a : Assembly) (n : Nat) : Node := a.nodes.getD n default

def textOf (nodes : Array Node) (fuel n : Nat) : Reading String :=
  match fuel with
  | 0 => refuse
  | fuel + 1 =>
      match nodes.getD n default with
      | .scalar _ text => .ok text
      | .mapping _ entries =>
          match entries.find? fun (k, _) => (nodes.getD k default).kind == .defaultValue with
          | some (_, v) => textOf nodes fuel v
          | none => refuse
      | .sequence .. => refuse

def momentOf (text : String) : Reading Value :=
  let cs := match text.toList.reverse with
    | '\n' :: rest => rest.reverse
    | _ => text.toList
  match timestampOf? cs with
  | none => .error .noMoment
  | some (year, month, day, none) => do
      checkDate year month day
      .ok (.date year month day)
  | some (year, month, day, some (hour, minute, second, micro, offset)) => do
      match offset with
      | some minutes => checkOffset minutes
      | none => .ok ()
      checkDate year month day
      checkClock hour minute second
      .ok (.moment ⟨year, month, day, hour, minute, second, micro, offset⟩)

def truthOf (text : String) : Reading Bool :=
  let name := lower text
  if ["yes", "true", "on"].contains name then .ok true
  else if ["no", "false", "off"].contains name then .ok false
  else .error (.noTruthValue name)

def scalarOf (kind : Kind) (text : Reading String) : Reading (Option Value) := do
  match kind with
  | .null =>
      let _ ← text
      .ok (some .null)
  | .bool => .ok (some (.bool (← truthOf (← text))))
  | .int => .ok (some (.int (← integerOf (← text))))
  | .float => .ok (some (.float (← doubleOf (← text))))
  | .binary =>
      match Base64.decodeLenient (← text) with
      | .ok bytes => .ok (some (.bytes bytes))
      | .error _ => refuse
  | .timestamp => .ok (some (← momentOf (← text)))
  | .text => .ok (some (.text (← text)))
  | .sequence | .mapping | .set | .orderedMapping | .pairs => .ok none
  | .merge | .defaultValue | .unknown => refuse

def meet (a : Assembly) (n : Nat) : Reading Assembly := do
  if a.met.getD n true then .ok a
  else
    let a := { a with met := a.met.setIfInBounds n true }
    match ← scalarOf (a.node n).kind (textOf a.nodes (a.nodes.size + 1) n) with
    | some v => .ok { a with scalars := a.scalars.setIfInBounds n (some v) }
    | none => .ok { a with queue := n :: a.queue }

def isMerge (nodes : Array Node) (entry : Nat × Nat) : Bool :=
  (nodes.getD entry.1 default).kind == .merge

def plainKey (nodes : Array Node) (entry : Nat × Nat) : Array Node :=
  match nodes.getD entry.1 default with
  | .scalar .defaultValue text => nodes.setIfInBounds entry.1 (.scalar .text text)
  | _ => nodes

mutual

def flatten (fuel : Nat) (nodes : Array Node) (n : Nat) : Reading (Array Node) :=
  match fuel, nodes.getD n default with
  | fuel + 1, .mapping kind entries => do
      let merges := entries.filter (isMerge nodes)
      let own := entries.filter (!isMerge nodes ·)
      let nodes := own.foldl plainKey nodes
      if merges.isEmpty then .ok nodes
      else
        let nodes := nodes.setIfInBounds n (.mapping kind own)
        let (merged, nodes) ← gather fuel nodes [] (merges.map Prod.snd)
        .ok (nodes.setIfInBounds n (.mapping kind (merged ++ own)))
  | _, _ => .ok nodes

/-- The entries of the mappings to be merged, `merged` before them. Of a list of mappings the first
counts most, so it comes last. -/
def gather (fuel : Nat) (nodes : Array Node) (merged : List (Nat × Nat)) :
    List Nat → Reading (List (Nat × Nat) × Array Node)
  | [] => .ok (merged, nodes)
  | n :: rest =>
      match fuel with
      | 0 => refuse
      | fuel + 1 =>
          match nodes.getD n default with
          | .mapping .. => do
              let nodes ← flatten fuel nodes n
              match nodes.getD n default with
              | .mapping _ entries => gather fuel nodes (merged ++ entries) rest
              | _ => refuse
          | .sequence _ items => do
              let (more, nodes) ← gatherEach fuel nodes [] items
              gather fuel nodes (merged ++ more) rest
          | .scalar .. => refuse

/-- The entries of mappings in a list, the last mapping first. -/
def gatherEach (fuel : Nat) (nodes : Array Node) (merged : List (Nat × Nat)) :
    List Nat → Reading (List (Nat × Nat) × Array Node)
  | [] => .ok (merged, nodes)
  | n :: rest =>
      match fuel with
      | 0 => refuse
      | fuel + 1 =>
          match nodes.getD n default with
          | .mapping .. => do
              let nodes ← flatten fuel nodes n
              match nodes.getD n default with
              | .mapping _ entries => gatherEach fuel nodes (entries ++ merged) rest
              | _ => refuse
          | _ => refuse

end

/-- The entries of a mapping: every key is met before its value, and must be a scalar. -/
def meetEntries (a : Assembly) : List (Nat × Nat) → Reading Assembly
  | [] => .ok a
  | (k, v) :: rest => do
      let a ← a.meet k
      require (a.scalars.getD k none).isSome
      meetEntries (← a.meet v) rest

def meetPairs (a : Assembly) : List Nat → Reading Assembly
  | [] => .ok a
  | n :: rest =>
      match a.node n with
      | .mapping _ [(k, v)] => do
          let a ← a.meet k
          meetPairs (← a.meet v) rest
      | _ => refuse

def mergeBound (nodes : Array Node) : Nat :=
  nodes.foldl (fun n node => match node with
    | .sequence _ items => n + items.length + 2
    | .mapping _ entries => n + entries.length + 2
    | .scalar .. => n + 1) 2

def go (a : Assembly) (n : Nat) : Reading Assembly := do
  match a.node n with
  | .sequence .sequence items => items.foldlM meet a
  | .sequence .orderedMapping items => a.meetPairs items
  | .sequence .pairs items => a.meetPairs items
  | .mapping kind _ =>
      require (kind == .mapping || kind == .set)
      let nodes ← flatten (mergeBound a.nodes) a.nodes n
      let a := { a with nodes := nodes }
      match a.node n with
      | .mapping _ entries => a.meetEntries entries
      | _ => refuse
  | _ => refuse

/-- Goes through the queued collections, those queued last stand first in `queue`. -/
def run (fuel : Nat) (front : List Nat) (a : Assembly) : Reading Assembly :=
  match fuel with
  | 0 => .ok a
  | fuel + 1 =>
      match front with
      | n :: rest => do run fuel rest (← a.go n)
      | [] =>
          match a.queue.reverse with
          | [] => .ok a
          | n :: rest => do run fuel rest (← { a with queue := [] }.go n)

def valueOf (a : Assembly) (values : Array Value) (n : Nat) : Value :=
  let value := fun k => values.getD k .null
  match a.scalars.getD n none with
  | some v => v
  | none =>
      match a.node n with
      | .sequence .sequence items => .list (items.map value)
      | .sequence _ items => .pairs (items.filterMap fun m => match a.node m with
          | .mapping _ [(k, v)] => some (value k, value v)
          | _ => none)
      | .mapping .set entries =>
          .set ((entries.foldl
            (fun acc (k, _) => Value.insert (value k) .null acc) []).map Prod.fst)
      | .mapping _ entries =>
          .mapping (entries.foldl (fun acc (k, v) => Value.insert (value k) (value v) acc) [])
      | .scalar .. => .null

def children (a : Assembly) (n : Nat) : List Nat :=
  match a.node n with
  | .sequence _ items => items.flatMap fun m => match a.node m with
      | .mapping _ [(k, v)] => [m, k, v]
      | _ => [m]
  | .mapping _ entries => entries.flatMap fun (k, v) => [k, v]
  | .scalar .. => []

def hasLoop (a : Assembly) (completed : Array Nat) : Bool :=
  (completed.foldl (fun (seen, loop) n =>
    (seen.setIfInBounds n true,
      loop || (a.children n).any fun k => !seen.getD k false))
    (Array.replicate a.nodes.size false, false)).2

/-- How often a node that holds itself is unrolled; nothing looks deeper. -/
def unrolling : Nat := 6

/-- The values of all nodes. A node is completed after those below it, so that one round is enough
where no node holds itself. -/
def values (a : Assembly) (completed : Array Nat) : Array Value :=
  let round := fun (values : Array Value) =>
    completed.foldl (fun values n => values.setIfInBounds n (a.valueOf values n)) values
  let start := Array.replicate a.nodes.size Value.null
  (List.range (if a.hasLoop completed then unrolling else 1)).foldl (fun values _ => round values)
    start

end Assembly

def load (text : String) : Reading Value := do
  match ← Graph.ofText text.toList with
  | none => .ok .null
  | some (graph, root) => do
      let size := graph.nodes.size
      let start : Assembly :=
        { nodes := graph.nodes, scalars := .replicate size none, met := .replicate size false }
      let a ← (← start.meet root).run (2 * size + 2) []
      .ok ((a.values graph.completed).getD root .null)

end SourceAtlas.Yaml
