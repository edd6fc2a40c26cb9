import SourceAtlas.Adapter
import SourceAtlas.Source.PythonDepth
import SourceAtlas.Source.PythonGrammar
import SourceAtlas.Source.PythonLines
import SourceAtlas.Source.PythonText

/-!
Symbols of Python sources by grammar. A source that is no program is read by line patterns instead.
-/
namespace SourceAtlas.Source.Python

open Text

/-- The last name of a dotted expression, indices aside. -/
def terminalName : Expr → String
  | .name id => id
  | .attribute _ name => name
  | .subscript value _ => terminalName value
  | _ => ""

def decoratorName : Expr → String
  | .call function _ _ => terminalName function
  | e => terminalName e

def classKind (bases decorators : List Expr) : String :=
  match kindOfBases (bases.map terminalName) with
  | "class" => if (decorators.map decoratorName).contains "dataclass" then "dataclass" else "class"
  | kind => kind

/-- The names that one target of an assignment binds: its own, or those of a tuple. -/
def targetNames : Expr → List String
  | .name id => [id]
  | .tuple items => items.filterMap fun item =>
      match item with
      | .name id => some id
      | _ => none
  | _ => []

def assignedNames : Stmt → List String
  | .assign targets _ => targets.flatMap targetNames
  | .annotated target _ _ => targetNames target
  | _ => []

def functionSymbol (room : Nat) (receiver : Option String) (isAsync : Bool) (name : String)
    (params : Params) (returns : Option Expr) : Except Unwritable FunctionSymbol := do
  if (params.steps ++ returns.toList.map Step.into).any
      (Step.exceeds Step.calls (callLimit room)) then
    throw .tooDeep
  let params ← params.write false
  let returns ← writeOption false " -> " returns
  return {
    name := name
    exported := isPublic name
    method := receiver.isSome
    receiver := receiver
    signature := some ((if isAsync then "async def " else "def ") ++ name ++ "(" ++
      pointsText params ++ ")" ++ pointsText returns) }

/-- The functions that statements define, directly or as methods of a class. -/
def definedFunctions (room : Nat) (receiver : Option String) :
    List Stmt → Except Unwritable (List FunctionSymbol)
  | [] => .ok []
  | .function isAsync name params returns _ _ :: rest => do
      let first ← functionSymbol room receiver isAsync name params returns
      let rest ← definedFunctions room receiver rest
      return first :: rest
  | _ :: rest => definedFunctions room receiver rest

def moduleFunctions (room : Nat) : List Stmt → Except Unwritable (List FunctionSymbol)
  | [] => .ok []
  | .classDef name _ _ _ body :: rest => do
      let methods ← definedFunctions room (some name) body
      let rest ← moduleFunctions room rest
      return methods ++ rest
  | stmt :: rest => do
      let here ← definedFunctions room none [stmt]
      let rest ← moduleFunctions room rest
      return here ++ rest

def methodName : Stmt → Option String
  | .function _ name _ _ _ _ => some name
  | _ => none

def classSymbol : Stmt → Option TypeSymbol
  | .classDef name bases _ decorators body => some {
      name := name
      kind := classKind bases decorators
      exported := isPublic name
      fields := body.flatMap assignedNames
      methods := body.filterMap methodName }
  | _ => none

/-- A node of a program for the search for imports: a statement or a block with a head. -/
inductive Node
  | stmt (s : Stmt)
  | handler (h : Handler)

def Node.children : Node → List Node
  | .stmt (.function _ _ _ _ _ body) | .stmt (.classDef _ _ _ _ body)
  | .stmt (.withBlock _ body) => body.map .stmt
  | .stmt (.branch _ body orelse) | .stmt (.loop _ body orelse) => (body ++ orelse).map .stmt
  | .stmt (.tryBlock body handlers orelse final) =>
      body.map .stmt ++ handlers.map .handler ++ (orelse ++ final).map .stmt
  | .stmt (.matchBlock _ cases) => cases.map .handler
  | .handler (.mk _ body) => body.map .stmt
  | .stmt _ => []

def Origin.text (origin : Origin) : String :=
  String.ofList (List.replicate origin.level '.') ++ (origin.module.map Name.text).getD ""

def Stmt.modules : Stmt → List String
  | .importModules names => names.map Name.text
  | .importFrom origin => [origin.text]
  | _ => []

def Node.modules : Node → List String
  | .stmt s => s.modules
  | .handler _ => []

/-- How much of a program a node takes; it only tells that a walk ends. -/
noncomputable def Node.size : Node → Nat
  | .stmt s => sizeOf s
  | .handler h => sizeOf h

noncomputable def levelSize : List Node → Nat
  | [] => 0
  | node :: rest => node.size + levelSize rest

theorem levelSize_append (level later : List Node) :
    levelSize (level ++ later) = levelSize level + levelSize later := by
  induction level with
  | nil => exact (Nat.zero_add _).symm
  | cons node rest ih => rw [List.cons_append, levelSize, levelSize, ih, Nat.add_assoc]

theorem levelSize_statements_le (body : List Stmt) : levelSize (body.map .stmt) ≤ sizeOf body := by
  induction body with
  | nil => exact Nat.zero_le _
  | cons s rest ih =>
      rw [List.map_cons, levelSize, Node.size, List.cons.sizeOf_spec]
      omega

theorem levelSize_handlers_le (handlers : List Handler) :
    levelSize (handlers.map .handler) ≤ sizeOf handlers := by
  induction handlers with
  | nil => exact Nat.zero_le _
  | cons h rest ih =>
      rw [List.map_cons, levelSize, Node.size, List.cons.sizeOf_spec]
      omega

theorem Node.children_size_lt (node : Node) : levelSize node.children < node.size := by
  cases node with
  | handler h =>
      obtain ⟨_, body⟩ := h
      have := levelSize_statements_le body
      simp only [children, size, Handler.mk.sizeOf_spec]
      omega
  | stmt s =>
      cases s with
      | function _ _ _ _ _ body | classDef _ _ _ _ body | withBlock _ body =>
          have := levelSize_statements_le body
          simp only [children, size, Stmt.function.sizeOf_spec, Stmt.classDef.sizeOf_spec,
            Stmt.withBlock.sizeOf_spec]
          omega
      | branch _ body orelse | loop _ body orelse =>
          have := levelSize_statements_le body
          have := levelSize_statements_le orelse
          simp only [children, size, List.map_append, levelSize_append, Stmt.branch.sizeOf_spec,
            Stmt.loop.sizeOf_spec]
          omega
      | tryBlock body handlers orelse final =>
          have := levelSize_statements_le body
          have := levelSize_handlers_le handlers
          have := levelSize_statements_le orelse
          have := levelSize_statements_le final
          simp only [children, size, List.map_append, levelSize_append, Stmt.tryBlock.sizeOf_spec]
          omega
      | matchBlock _ cases =>
          have := levelSize_handlers_le cases
          simp only [children, size, Stmt.matchBlock.sizeOf_spec]
          omega
      | _ =>
          simp only [children, size, levelSize, Stmt.assign.sizeOf_spec,
            Stmt.annotated.sizeOf_spec, Stmt.importModules.sizeOf_spec,
            Stmt.importFrom.sizeOf_spec, Stmt.simple.sizeOf_spec]
          omega

def nextLevel (level : List Node) : List Node := level.flatMap Node.children

theorem levelSize_nextLevel_le (level : List Node) :
    levelSize (nextLevel level) ≤ levelSize level := by
  induction level with
  | nil => exact Nat.le_refl _
  | cons node rest ih =>
      have := node.children_size_lt
      rw [nextLevel] at ih ⊢
      rw [List.flatMap_cons, levelSize_append, levelSize]
      omega

theorem levelSize_nextLevel_lt (node : Node) (rest : List Node) :
    levelSize (nextLevel (node :: rest)) < levelSize (node :: rest) := by
  have := node.children_size_lt
  have := levelSize_nextLevel_le rest
  rw [nextLevel] at this ⊢
  rw [List.flatMap_cons, levelSize_append, levelSize]
  omega

/-- The nodes of a level and of all levels below it, those of an outer level first. -/
def walk : List Node → List Node
  | [] => []
  | node :: rest => node :: rest ++ walk (nextLevel (node :: rest))
termination_by level => levelSize level
decreasing_by exact levelSize_nextLevel_lt node rest

def importedModules (program : List Stmt) : List String :=
  moduleNames ((walk (program.map .stmt)).flatMap Node.modules)

def programSymbols (room : Nat) (path : String) (text : List Char) (program : List Stmt) :
    Except Unwritable SymbolTable := do
  let functions ← moduleFunctions room program
  let table : SymbolTable :=
    { package := some (moduleName path)
      imports := importedModules program
      functions := functions
      types := program.filterMap classSymbol }
  return tagged (withAssigned table (program.flatMap assignedNames)) text

/-- The symbols of a source. A source that is no program is read by lines, which is noted; where a
signature cannot be written, or the program goes too deep for the calls that are left, there are
none. -/
def extraction (room : Nat) (path : String) (content : Bytes) : Except String Extraction :=
  let text := (Utf8.decodeReplacing content).toList
  match parse text with
  | .error fault =>
      if fault.cause.isTooDeep then .error (fault.cause.message fault.line)
      else .ok
        { table := symbolsByLines path content
          notes := [.debug "extract.python"
            s!"Could not parse {path} ({fault.message path}); using regex extraction"] }
  | .ok program =>
      if isTooDeep room program then
        .error "maximum recursion depth exceeded during ast construction"
      else match programSymbols room path text program with
        | .ok table => .ok { table := table }
        | .error cause => .error cause.message

end SourceAtlas.Source.Python
