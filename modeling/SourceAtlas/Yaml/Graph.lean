import SourceAtlas.Yaml.Scalar

/-!
A YAML document as a graph of numbered nodes. An alias is the number of the node that its anchor
names, which may be a node around it.
-/
namespace SourceAtlas.Yaml

inductive Node
  | scalar (kind : Kind) (text : String)
  | sequence (kind : Kind) (items : List Nat)
  | mapping (kind : Kind) (entries : List (Nat × Nat))

instance : Inhabited Node := ⟨.scalar .null ""⟩

def Node.kind : Node → Kind
  | .scalar kind _ => kind
  | .sequence kind _ => kind
  | .mapping kind _ => kind

/-- The nodes by number, and their numbers in the order in which they were completed. -/
structure Graph where
  nodes : Array Node := #[]
  completed : Array Nat := #[]

namespace Graph

def node (g : Graph) (n : Nat) : Node := g.nodes.getD n default

/-- The state of a reader of tokens: those ahead, the fault after them, the graph so far, the
anchors, and the handles of tags. -/
structure Progress where
  ahead : List Token
  fault : Fault
  graph : Graph := {}
  anchors : List (String × Nat) := []
  handles : List (String × String) := []

abbrev Builder := StateT Progress (Except Fault)

def fail {α : Type} (fault : Fault) : Builder α := fun _ => .error fault

def peek : Builder Token := do
  match (← get).ahead with
  | t :: _ => pure t
  | [] => fail (← get).fault

def take : Builder Token := do
  let t ← peek
  modify fun s => { s with ahead := s.ahead.tail }
  pure t

def skip : Builder Unit := do
  let _ ← take

/-- A new node whose content is still open, under the name of its anchor if it has one. -/
def reserve (anchor : Option String) : Builder Nat := do
  let s ← get
  let n := s.graph.nodes.size
  match anchor with
  | none => pure ()
  | some name =>
      if (s.anchors.lookup name).isSome then fail .malformed
      modify fun s => { s with anchors := (name, n) :: s.anchors }
  modify fun s => { s with graph := { s.graph with nodes := s.graph.nodes.push default } }
  pure n

def complete (n : Nat) (node : Node) : Builder Nat := do
  modify fun s => { s with graph :=
    { nodes := s.graph.nodes.setIfInBounds n node, completed := s.graph.completed.push n } }
  pure n

def emptyScalar : Builder Nat := do
  complete (← reserve none) (.scalar .null "")

def fullTag (handle : Option String) (suffix : String) : Builder String := do
  match handle with
  | none => pure suffix
  | some h =>
      match (← get).handles.lookup h with
      | some start => pure (start ++ suffix)
      | none => fail .malformed

def properties : Builder (Option String × Option String) := do
  match ← peek with
  | .anchor name =>
      skip
      match ← peek with
      | .tag handle suffix =>
          skip
          pure (some name, some (← fullTag handle suffix))
      | _ => pure (some name, none)
  | .tag handle suffix =>
      skip
      match ← peek with
      | .anchor name =>
          skip
          pure (some name, some (← fullTag handle suffix))
      | _ => pure (none, some (← fullTag handle suffix))
  | _ => pure (none, none)

/-- The kind of a collection: its own, unless a tag says otherwise. -/
def kindOr (own : Kind) : Option String → Kind
  | none => own
  | some "!" => own
  | some tag => .ofTag tag

/-- The kind of a scalar: a plain text without a tag, or any text with the tag `!`, is what it
spells. -/
def scalarKind (tag : Option String) (text : String) (plain : Bool) : Kind :=
  match tag with
  | none => if plain then .ofPlain text else .text
  | some "!" => .ofPlain text
  | some tag => .ofTag tag

/-- Where a node stands, which decides which collections it may be. -/
inductive Position
  | flow
  | block
  | blockOrIndentless
  deriving BEq, DecidableEq

mutual

def readNode (fuel : Nat) (position : Position) : Builder Nat := do
  match fuel with
  | 0 => fail .malformed
  | fuel + 1 =>
      match ← peek with
      | .alias name =>
          skip
          match (← get).anchors.lookup name with
          | some n => pure n
          | none => fail .malformed
      | _ =>
          let (anchor, tag) ← properties
          match ← peek, position with
          | .dash, .blockOrIndentless =>
              let n ← reserve anchor
              let items ← readIndentless fuel []
              complete n (.sequence (kindOr .sequence tag) items)
          | .scalar text plain, _ =>
              skip
              complete (← reserve anchor) (.scalar (scalarKind tag text plain) text)
          | .sequenceOpen, _ =>
              skip
              let n ← reserve anchor
              let items ← readFlowItems fuel true []
              complete n (.sequence (kindOr .sequence tag) items)
          | .mappingOpen, _ =>
              skip
              let n ← reserve anchor
              let entries ← readFlowEntries fuel true []
              complete n (.mapping (kindOr .mapping tag) entries)
          | next, position =>
              if position ≠ .flow && next == .blockSequence then
                skip
                let n ← reserve anchor
                let items ← readBlockItems fuel []
                complete n (.sequence (kindOr .sequence tag) items)
              else if position ≠ .flow && next == .blockMapping then
                skip
                let n ← reserve anchor
                let entries ← readBlockEntries fuel []
                complete n (.mapping (kindOr .mapping tag) entries)
              else if anchor.isSome || tag.isSome then
                complete (← reserve anchor) (.scalar (scalarKind tag "" true) "")
              else fail .malformed

def readOptional (fuel : Nat) (position : Position) (stops : List Token) : Builder Nat := do
  match fuel with
  | 0 => fail .malformed
  | fuel + 1 => if stops.contains (← peek) then emptyScalar else readNode fuel position

/-- The items of a block sequence up to its end; those read so far stand latest first. -/
def readBlockItems (fuel : Nat) (items : List Nat) : Builder (List Nat) := do
  match fuel with
  | 0 => fail .malformed
  | fuel + 1 =>
      match ← take with
      | .dash =>
          let item ← readOptional fuel .block [.dash, .blockEnd]
          readBlockItems fuel (item :: items)
      | .blockEnd => pure items.reverse
      | _ => fail .malformed

def readIndentless (fuel : Nat) (items : List Nat) : Builder (List Nat) := do
  match fuel with
  | 0 => fail .malformed
  | fuel + 1 =>
      match ← peek with
      | .dash =>
          skip
          let item ← readOptional fuel .block [.dash, .key, .value, .blockEnd]
          readIndentless fuel (item :: items)
      | _ => pure items.reverse

def readBlockEntries (fuel : Nat) (entries : List (Nat × Nat)) : Builder (List (Nat × Nat)) := do
  match fuel with
  | 0 => fail .malformed
  | fuel + 1 =>
      match ← take with
      | .key =>
          let key ← readOptional fuel .blockOrIndentless [.key, .value, .blockEnd]
          match ← peek with
          | .value =>
              skip
              let value ← readOptional fuel .blockOrIndentless [.key, .value, .blockEnd]
              readBlockEntries fuel ((key, value) :: entries)
          | _ => readBlockEntries fuel ((key, ← emptyScalar) :: entries)
      | .blockEnd => pure entries.reverse
      | _ => fail .malformed

/-- The value of an entry inside brackets: nothing, where no colon comes. -/
def readFlowValue (fuel : Nat) (stops : List Token) : Builder Nat := do
  match fuel with
  | 0 => fail .malformed
  | fuel + 1 =>
      match ← peek with
      | .value =>
          skip
          readOptional fuel .flow stops
      | _ => emptyScalar

/-- The items between square brackets. A key without braces around it is a mapping of one entry. -/
def readFlowItems (fuel : Nat) (first : Bool) (items : List Nat) : Builder (List Nat) := do
  match fuel with
  | 0 => fail .malformed
  | fuel + 1 =>
      if (← peek) ≠ .sequenceClose && !first then
        if (← take) ≠ .comma then fail .malformed
      match ← peek with
      | .sequenceClose =>
          skip
          pure items.reverse
      | .key =>
          skip
          let n ← reserve none
          let key ← readOptional fuel .flow [.value, .comma, .sequenceClose]
          let value ← readFlowValue fuel [.comma, .sequenceClose]
          let n ← complete n (.mapping .mapping [(key, value)])
          readFlowItems fuel false (n :: items)
      | _ => readFlowItems fuel false ((← readNode fuel .flow) :: items)

def readFlowEntries (fuel : Nat) (first : Bool) (entries : List (Nat × Nat)) :
    Builder (List (Nat × Nat)) := do
  match fuel with
  | 0 => fail .malformed
  | fuel + 1 =>
      if (← peek) ≠ .mappingClose && !first then
        if (← take) ≠ .comma then fail .malformed
      match ← peek with
      | .mappingClose =>
          skip
          pure entries.reverse
      | .key =>
          skip
          let key ← readOptional fuel .flow [.value, .comma, .mappingClose]
          let value ← readFlowValue fuel [.comma, .mappingClose]
          readFlowEntries fuel false ((key, value) :: entries)
      | _ =>
          let key ← readNode fuel .flow
          readFlowEntries fuel false ((key, ← emptyScalar) :: entries)

end

def standardHandles : List (String × String) := [("!", "!"), ("!!", standardTag)]

/-- The directives before a document: one version at most, and each handle once. -/
def readDirectives (fuel : Nat) (versioned : Bool) (handles : List (String × String)) :
    Builder Unit := do
  match fuel with
  | 0 => fail .malformed
  | fuel + 1 =>
      match ← peek with
      | .version major =>
          if versioned || major ≠ 1 then fail .malformed
          skip
          readDirectives fuel true handles
      | .tagHandle handle start =>
          if (handles.lookup handle).isSome then fail .malformed
          skip
          readDirectives fuel versioned ((handle, start) :: handles)
      | .directive =>
          skip
          readDirectives fuel versioned handles
      | _ => modify fun s => { s with handles := handles ++ standardHandles }

def skipDocumentEnds (fuel : Nat) : Builder Unit := do
  match fuel with
  | 0 => pure ()
  | fuel + 1 =>
      if (← peek) == .documentEnd then
        skip
        skipDocumentEnds fuel

def readDocument (fuel : Nat) : Builder (Option Nat) := do
  let first ← peek
  let explicit := match first with
    | .version _ | .tagHandle .. | .directive | .documentStart => true
    | _ => false
  if first == .streamEnd then pure none
  else
    if explicit then
      readDirectives fuel false []
      if (← take) ≠ .documentStart then fail .malformed
    else modify fun s => { s with handles := standardHandles }
    let root ← (match explicit, ← peek with
      | true, .version _ | true, .tagHandle .. | true, .directive | true, .documentStart
      | true, .documentEnd | true, .streamEnd => emptyScalar
      | _, _ => readNode fuel .block)
    if (← peek) == .documentEnd then skip
    skipDocumentEnds fuel
    if (← peek) == .streamEnd then pure (some root) else fail .malformed

def ofText (text : List Char) : Except Fault (Option (Graph × Nat)) := do
  let (tokens, fault) := tokens text
  let start : Progress := { ahead := tokens, fault := fault.getD .malformed }
  let (root, s) ← (readDocument (4 * tokens.length + 8)).run start
  pure (root.map fun n => (s.graph, n))

end Graph

end SourceAtlas.Yaml
