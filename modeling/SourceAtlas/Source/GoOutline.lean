import SourceAtlas.Source.GoToken

/-!
Outlines of Go programs: the declarations at the top level with their names.
-/
namespace SourceAtlas.Source.Go

open Parsing

/-- The forms of a type that an outline tells apart. -/
inductive Form
  | plain
  | struct (fields : List String)
  | interface (methods : List String)
  deriving Repr

structure TypeOutline where
  name : String
  form : Form

/-- A function of an outline, with the stretch of source before its body. -/
structure FunctionOutline where
  name : String
  isMethod : Bool
  receiver : Option String
  start : Nat
  stop : Nat

/-- A declaration at the top level. -/
inductive Decl
  | package (name : String)
  | imports (paths : List String)
  | function (outline : FunctionOutline)
  | types (outlines : List TypeOutline)
  | constants (names : List String)
  | variableNames (names : List String)

/-- A program that was read, with its source. -/
structure Program where
  source : Array Mark
  forest : Forest

namespace Program

def partsOf (program : Program) (id : Nat) : List (String × Nat) :=
  (program.forest.parts id).map fun part => (program.forest.nameOf part, part.stretch)

def named (program : Program) (name : String) (id : Nat) : List Nat :=
  (program.partsOf id).filterMap fun (found, stretch) =>
    if found == name then some stretch else none

def stretch (program : Program) (id : Nat) : Stretch :=
  program.forest.stretches.getD id ⟨0, 0, []⟩

def slice (program : Program) (start stop : Nat) : String :=
  marksText (program.source.extract start stop).toList

def textOf (program : Program) (id : Nat) : String :=
  let stretch := program.stretch id
  program.slice stretch.start stretch.stop

def texts (program : Program) (name : String) (id : Nat) : List String :=
  (program.named name id).map program.textOf

def firstType? (program : Program) (id : Nat) : Option String :=
  (program.forest.find? "type name" program.source.size id).map program.textOf

def importPaths (program : Program) (id : Nat) : List String :=
  let specs := program.named "import spec" id ++
    (program.named "import spec list" id).flatMap (program.named "import spec")
  specs.flatMap (program.texts "string")

def function (program : Program) (id : Nat) : FunctionOutline :=
  let stretch := program.stretch id
  let receiver := (program.named "receiver" id).head?
  { name := (program.texts "function name" id).headD ""
    isMethod := receiver.isSome
    receiver := receiver.bind program.firstType?
    start := stretch.start
    stop := match program.named "block" id with
      | body :: _ => (program.stretch body).start
      | [] => stretch.stop }

def form (program : Program) (name : String) (id : Nat) : Form :=
  match name with
  | "struct type" => .struct ((program.named "field list" id).flatMap fun list =>
      (program.named "field declaration" list).flatMap (program.texts "field name"))
  | "interface type" => .interface ((program.named "method elem" id).flatMap
      (program.texts "method name"))
  | _ => .plain

/-- A type with its name, which comes first, and what it stands for, which comes last. -/
def typeOutline (program : Program) (id : Nat) : TypeOutline where
  name := (program.texts "type name" id).headD ""
  form := match (program.partsOf id).getLast? with
    | some (name, type) => program.form name type
    | none => .plain

def decl? (program : Program) (name : String) (id : Nat) : Option Decl :=
  match name with
  | "package clause" => some (.package ((program.texts "package name" id).headD ""))
  | "import declaration" => some (.imports (program.importPaths id))
  | "function declaration" | "method declaration" => some (.function (program.function id))
  | "type declaration" => some (.types ((program.partsOf id).filterMap fun (name, spec) =>
      if name == "type spec" || name == "type alias" then some (program.typeOutline spec)
      else none))
  | "constant declaration" => some (.constants ((program.named "constant spec" id).flatMap
      (program.texts "constant name")))
  | "variable declaration" => some (.variableNames ((program.named "variable spec" id).flatMap
      (program.texts "variable name")))
  | _ => none

def outline (program : Program) : List Decl :=
  (program.partsOf program.forest.root).filterMap fun (name, id) => program.decl? name id

end Program

def isBlankSource (bound place : Nat) (source : List Mark) : Bool :=
  (pastLayout bound none ⟨place, source⟩).2.rest.isEmpty

/-- The outline of a program; none for a source that is no program. A byte order mark at its start
is skipped. -/
def parse? (source : List Mark) : Option (List Decl) :=
  let lead := if source.head? == some (some (Char.ofNat 0xfeff)) then 1 else 0
  let bound := source.length + 1
  let rest := source.drop lead
  if isBlankSource bound lead rest then some []
  else (read? table (offers bound) lead rest).map fun forest =>
    Program.outline ⟨source.toArray, forest⟩

end SourceAtlas.Source.Go
