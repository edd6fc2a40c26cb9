import SourceAtlas.Parsing.Automaton

/-!
Reading a source by a table in all ways at once. The ways that are open at a place share what they
have in common: they are paths in a graph whose nodes are states, and a link of the graph keeps all
readings of the stretch of source that it spans. In the end the reading with the most points is
taken.
-/
namespace SourceAtlas.Parsing

/-- A token read at a place: where it starts and stops, and what remains after it. -/
structure Lexeme (α : Type) where
  token : Nat
  start : Nat
  stop : Nat
  rest : List α

/-- What a source offers at a place, in order of preference. A state takes the first that is valid
for it. -/
abbrev Scan (α : Type) := Nat → List α → List (Lexeme α)

inductive Reading
  | token (id : Nat)
  | phrase (production : Nat) (parts : List Nat)
  deriving BEq, Repr

/-- All readings of a stretch of source in its surroundings; the parts of a reading are stretches
too. -/
structure Stretch where
  start : Nat
  stop : Nat
  readings : List Reading

structure Link where
  below : Nat
  stretch : Nat

structure Node where
  state : Nat
  links : List Link

structure Graph where
  machine : Machine
  nodes : Array Node
  stretches : Array Stretch

/-- A place that has been reached, with the nodes there by their states. -/
structure Front (α : Type) where
  place : Nat
  rest : List α
  nodes : List (Nat × Nat)

/-- The closing of a production along a path: the node it goes down to, and the stretches on the
way. -/
structure Closing where
  production : Nat
  base : Nat
  parts : List Nat

structure Work (α : Type) where
  graph : Graph
  nodes : List (Nat × Nat)
  waiting : List Nat
  /-- nodes that were looked at, with the productions they close -/
  seen : List (Nat × List Nat)
  closings : List Closing
  taken : List (Nat × Lexeme α)
  accepted : Option Nat

namespace Graph

def node (graph : Graph) (id : Nat) : Node := graph.nodes.getD id ⟨0, []⟩

def addStretch (graph : Graph) (stretch : Stretch) : Nat × Graph :=
  (graph.stretches.size, { graph with stretches := graph.stretches.push stretch })

def addNode (graph : Graph) (node : Node) : Nat × Graph :=
  (graph.nodes.size, { graph with nodes := graph.nodes.push node })

def addLink (graph : Graph) (id : Nat) (link : Link) : Graph :=
  { graph with nodes := graph.nodes.modify id fun node =>
      { node with links := link :: node.links } }

def addReading (graph : Graph) (id : Nat) (reading : Reading) : Graph :=
  { graph with stretches := graph.stretches.modify id fun stretch =>
      if stretch.readings.contains reading then stretch
      else { stretch with readings := stretch.readings ++ [reading] } }

/-- The paths of a length down from a node: where they lead, and the stretches on them from the
bottom up, before those of the way to the node. -/
def paths (graph : Graph) : Nat → Nat → List Nat → List (Nat × List Nat)
  | 0, id, parts => [(id, parts)]
  | n + 1, id, parts => (graph.node id).links.flatMap fun link =>
      graph.paths n link.below (link.stretch :: parts)

def spanOf (graph : Graph) (parts : List Nat) : Nat × Nat :=
  (((parts.head?.bind fun id => graph.stretches[id]?).map (·.start)).getD 0,
    ((parts.getLast?.bind fun id => graph.stretches[id]?).map (·.stop)).getD 0)

end Graph

namespace Work

variable {α : Type}

def closingsOver (table : Table) (graph : Graph) (productions : List Nat) (link : Link) :
    List Closing :=
  productions.flatMap fun production =>
    let size := ((table.productions[production]?).map (·.steps.size)).getD 0
    (graph.paths (size - 1) link.below [link.stretch]).map fun (base, parts) =>
      ⟨production, base, parts⟩

/-- Looks at a node: the first lexeme that is valid there decides what it closes and takes. -/
def look (table : Table) (offers : List (Lexeme α)) (work : Work α) (id : Nat) : Work α :=
  let state := (work.graph.node id).state
  let valid := work.graph.machine.valid state
  match offers.find? fun lexeme => valid.testBit lexeme.token with
  | none => work
  | some lexeme =>
      let (action, machine) := work.graph.machine.act table state lexeme.token
      let graph := { work.graph with machine := machine }
      { work with
        graph := graph
        seen := (id, action.closes) :: work.seen
        closings := (graph.node id).links.flatMap (closingsOver table graph action.closes) ++
          work.closings
        taken := if action.takes then (id, lexeme) :: work.taken else work.taken }

/-- Puts a phrase that was closed on the node below it. A link that is there gets one reading more;
a new link of a node that was looked at is a new way for what that node closes. No other node is
concerned, for a phrase is not empty, and so no link leads to a node of the same place. -/
def put (table : Table) (work : Work α) (closing : Closing) (state : Nat) : Work α :=
  let reading := Reading.phrase closing.production closing.parts
  let span := work.graph.spanOf closing.parts
  match work.nodes.lookup state with
  | none =>
      let (stretch, graph) := work.graph.addStretch ⟨span.1, span.2, [reading]⟩
      let (id, graph) := graph.addNode ⟨state, [⟨closing.base, stretch⟩]⟩
      { work with
        graph := graph
        nodes := (state, id) :: work.nodes
        waiting := id :: work.waiting }
  | some id =>
      match (work.graph.node id).links.find? fun link => link.below == closing.base with
      | some link => { work with graph := work.graph.addReading link.stretch reading }
      | none =>
          let (stretch, graph) := work.graph.addStretch ⟨span.1, span.2, [reading]⟩
          let link : Link := ⟨closing.base, stretch⟩
          let graph := graph.addLink id link
          let more := closingsOver table graph ((work.seen.lookup id).getD []) link
          { work with graph := graph, closings := more ++ work.closings }

/-- Closes a production. The first one of the table closes the whole source. -/
def close (table : Table) (work : Work α) (closing : Closing) : Work α :=
  if closing.production == 0 then { work with accepted := closing.parts.head? }
  else
    let head := ((table.productions[closing.production]?).map (·.head)).getD 0
    let base := (work.graph.node closing.base).state
    let (state, machine) := work.graph.machine.move table base (.phrase head)
    put table { work with graph := { work.graph with machine := machine } } closing state

def settle (table : Table) (offers : List (Lexeme α)) : Nat → Work α → Work α
  | 0, work => work
  | n + 1, work =>
      match work.closings, work.waiting with
      | closing :: rest, _ =>
          settle table offers n (close table { work with closings := rest } closing)
      | [], id :: rest =>
          settle table offers n (look table offers { work with waiting := rest } id)
      | [], [] => work

end Work

namespace Front

variable {α : Type}

def insert (front : Front α) : List (Front α) → List (Front α)
  | [] => [front]
  | other :: rest =>
      if front.place < other.place then front :: other :: rest
      else if front.place == other.place then front :: rest
      else other :: insert front rest

def take (table : Table) (graph : Graph) (ahead : List (Front α)) (id : Nat) (lexeme : Lexeme α) :
    Graph × List (Front α) :=
  let (state, machine) := graph.machine.move table (graph.node id).state (.token lexeme.token)
  let (stretch, graph) := { graph with machine := machine }.addStretch
    ⟨lexeme.start, lexeme.stop, [.token lexeme.token]⟩
  let front := (ahead.find? fun front => front.place == lexeme.stop).getD
    ⟨lexeme.stop, lexeme.rest, []⟩
  match front.nodes.lookup state with
  | some known => (graph.addLink known ⟨id, stretch⟩, ahead)
  | none =>
      let (new, graph) := graph.addNode ⟨state, [⟨id, stretch⟩]⟩
      (graph, insert { front with nodes := (state, new) :: front.nodes } ahead)

end Front

def settleLimit : Nat := 1000000

/-- Goes from front to front. Each is further on than the one before. The last thing that closes the
whole source is found at its end. -/
def runFrom {α : Type} (table : Table) (scan : Scan α) :
    Nat → Graph → List (Front α) → Option (Nat × Graph)
  | 0, _, _ => none
  | _, _, [] => none
  | n + 1, graph, front :: ahead =>
      let work := Work.settle table (scan front.place front.rest) settleLimit
        ⟨graph, front.nodes, front.nodes.map Prod.snd, [], [], [], none⟩
      match work.accepted with
      | some stretch => some (stretch, work.graph)
      | none =>
          let (graph, ahead) := work.taken.foldl
            (fun (graph, ahead) (id, lexeme) => Front.take table graph ahead id lexeme)
            (work.graph, ahead)
          runFrom table scan n graph ahead

def Reading.points (table : Table) (scores : Array Int) : Reading → Int
  | .token _ => 0
  | .phrase production parts =>
      parts.foldl (fun sum part => sum + scores.getD part 0)
        (((table.productions[production]?).map (·.points)).getD 0)

def Stretch.points (table : Table) (scores : Array Int) (stretch : Stretch) : Int :=
  match stretch.readings.map (Reading.points table scores) with
  | [] => 0
  | first :: rest => rest.foldl max first

def scoreRound (table : Table) (stretches : Array Stretch) (scores : Array Int) : Array Int :=
  (List.range stretches.size).foldl (fun scores id =>
    match stretches[id]? with
    | some stretch => scores.setIfInBounds id (stretch.points table scores)
    | none => scores) scores

def scoresFrom (table : Table) (stretches : Array Stretch) : Nat → Array Int → Array Int
  | 0, scores => scores
  | n + 1, scores =>
      let next := scoreRound table stretches scores
      if next == scores then scores else scoresFrom table stretches n next

structure Forest where
  table : Table
  stretches : Array Stretch
  scores : Array Int
  root : Nat

def read? {α : Type} (table : Table) (scan : Scan α) (place : Nat) (source : List α) :
    Option Forest := do
  let graph : Graph := ⟨Machine.start table, #[⟨0, []⟩], #[]⟩
  let (root, graph) ← runFrom table scan (source.length + 2) graph [⟨place, source, [(0, 0)]⟩]
  return {
    table := table
    stretches := graph.stretches
    scores := scoresFrom table graph.stretches (graph.stretches.size + 1)
      (Array.replicate graph.stretches.size 0)
    root := root }

namespace Forest

/-- The reading of a stretch that counts: one with the most points, of several the one with the
fewest parts, and of these the first. -/
def best? (forest : Forest) (id : Nat) : Option Reading :=
  (forest.stretches[id]?).bind fun stretch =>
    let rank := fun (reading : Reading) =>
      let parts := match reading with
        | .token _ => 0
        | .phrase _ parts => parts.length
      (reading.points forest.table forest.scores, parts)
    match stretch.readings with
    | [] => none
    | first :: rest => some (rest.foldl (fun best reading =>
        let (a, m) := rank best
        let (b, n) := rank reading
        if b > a || (b == a && n < m) then reading else best) first)

structure Part where
  name : Option String
  stretch : Nat

def directParts (forest : Forest) (id : Nat) : List Part :=
  match forest.best? id with
  | some (.phrase production parts) =>
      match forest.table.productions[production]? with
      | none => []
      | some p => (p.steps.toList.zip parts).map fun (step, part) => ⟨step.name, part⟩
  | _ => []

def head? (forest : Forest) (id : Nat) : Option Nat :=
  match forest.best? id with
  | some (.phrase production _) => (forest.table.productions[production]?).map (·.head)
  | _ => none

def isList (forest : Forest) (id : Nat) : Bool :=
  ((forest.head? id).map fun head => forest.table.isList.getD head false).getD false

def isHidden (forest : Forest) (id : Nat) : Bool :=
  ((forest.head? id).map fun head => forest.table.isHidden.getD head false).getD false

def nameOf (forest : Forest) (part : Part) : String :=
  match part.name, forest.best? part.stretch with
  | some name, _ => name
  | none, some (.token id) => forest.table.tokens.getD id ""
  | none, _ => ((forest.head? part.stretch).map fun head => forest.table.heads.getD head "").getD ""

def listParts (forest : Forest) : Nat → Nat → List Part → List Part
  | 0, _, known => known
  | n + 1, id, known =>
      match forest.directParts id with
      | [] => known
      | first :: rest =>
          if forest.isList first.stretch then forest.listParts n first.stretch (rest ++ known)
          else first :: rest ++ known

/-- A part, or what stands in its place if it does not show. The number bounds how deep what does
not show is nested. -/
def shownParts (forest : Forest) : Nat → Part → List Part
  | 0, part => [part]
  | n + 1, part =>
      if part.name.isSome then [part]
      else if forest.isList part.stretch then
        (forest.listParts forest.stretches.size part.stretch []).flatMap (forest.shownParts n)
      else if forest.isHidden part.stretch then
        (forest.directParts part.stretch).flatMap (forest.shownParts n)
      else [part]

def parts (forest : Forest) (id : Nat) : List Part :=
  (forest.directParts id).flatMap (forest.shownParts forest.table.heads.size)

/-- The first part of a name inside a stretch, outer ones and those further left first. -/
def find? (forest : Forest) (name : String) : Nat → Nat → Option Nat
  | 0, _ => none
  | n + 1, id => (forest.parts id).findSome? fun part =>
      if forest.nameOf part == name then some part.stretch else forest.find? name n part.stretch

end Forest

end SourceAtlas.Parsing
