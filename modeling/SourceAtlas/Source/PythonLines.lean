import SourceAtlas.Symbols
import SourceAtlas.Tags
import SourceAtlas.Text.Utf8

/-!
Symbols of Python sources by line patterns, for files that the grammar does not accept, and the
rules that both ways of reading share: module names, visibility, and what an assigned name counts
as.
-/
namespace SourceAtlas.Source.Python

open Text Pattern

def moduleName (path : String) : String :=
  let slashed := path.toList.map fun c => if c = '\\' then '/' else c
  let parts := ((splitChars '/' slashed).filter (!·.isEmpty)).map String.ofList
  match parts.reverse with
  | [] => ""
  | last :: before =>
      let stem := if endsWith last ".py" then
          String.ofList (last.toList.take (last.length - 3)) else last
      let parts := if stem = "__init__" && !before.isEmpty then before.reverse
        else before.reverse ++ [stem]
      join "." (match parts with
        | "src" :: rest => if rest.isEmpty then parts else rest
        | _ => parts)

def isPublic (name : String) : Bool := !startsWith name "_"

def enumBases : List String := ["Enum", "IntEnum", "StrEnum", "Flag", "IntFlag"]

/-- The kind of a class by the last names of its bases. -/
def kindOfBases (bases : List String) : String :=
  if bases.any enumBases.contains then "enum"
  else if bases.contains "Protocol" then "protocol"
  else "class"

/-- A name between double underscores belongs to the language, not to the module's interface. -/
def isReserved (name : String) : Bool := startsWith name "__" && endsWith name "__"

/-- A constant is written in capitals, leading underscores aside. -/
def isConstant (name : String) : Bool :=
  let stem := name.toList.dropWhile (· = '_')
  !stem.isEmpty && upperChars stem = stem && stem.any isLetter

/-- Module names in order of first mention, the empty one left out. -/
def moduleNames (names : List String) : List String := distinct (names.filter (!·.isEmpty))

/-- Adds the names that a module assigns, in order, as constants and variables. -/
def withAssigned (table : SymbolTable) (names : List String) : SymbolTable :=
  let kept := names.filter (!isReserved ·)
  { table with
    constants := table.constants ++ kept.filter isConstant
    variableNames := table.variableNames ++ kept.filter (!isConstant ·) }

def tagged (table : SymbolTable) (text : List Char) : SymbolTable :=
  { table with
    frameworks := Tags.frameworksByFragment Tags.pythonFrameworks table.imports
    risks := Tags.pythonRiskTags text table.imports }

def importLine : Pattern :=
  .lineStart ++
    maybe (literal "from" ++ someBlanks ++ .group 1 (plus (!isBlank ·)) ++ someBlanks) ++
    "import" ++ someBlanks ++ .group 2 (plus (· != '\n')) ++ .lineEnd

def classLine : Pattern :=
  .lineStart ++ "class" ++ someBlanks ++ .group 1 word ++ blanks ++
    maybe (literal "(" ++ .group 2 (.many (· != ')')) ++ ")") ++ blanks ++ ":"

def functionLine : Pattern :=
  .lineStart ++ maybe (literal "async" ++ someBlanks) ++ "def" ++ someBlanks ++ .group 1 word ++
    blanks ++ "("

def assignmentLine : Pattern :=
  .lineStart ++ .group 1 (.one (fun c => c.isAlpha || c == '_') ++ .many isWord) ++ blanks ++
    maybe (literal ":" ++ plus (· != '=')) ++ "=" ++ .notAhead (· == '=')

def lineModules (m : Cursor) : List String :=
  if m.hasGroup 1 then [m.group 1]
  else
    let names := (m.group 2).toList.takeWhile (· ≠ '#')
    ((splitChars ',' names).map fun part =>
      let module := match cutAt? " as ".toList part with
        | some (before, _) => before
        | none => part
      String.ofList (trimChars isBlank module)).filter (!·.isEmpty)

def writtenBases (bases : String) : List String :=
  (split ',' bases).map fun part => afterLast '.' (strip part)

def symbolsByLines (path : String) (content : Bytes) : SymbolTable :=
  let text := (Utf8.decodeReplacing content).toList
  let names := fun (p : Pattern) => (p.all text).map (·.group 1)
  let table : SymbolTable :=
    { package := some (moduleName path)
      imports := moduleNames ((importLine.all text).flatMap lineModules)
      types := (classLine.all text).map fun m =>
        { name := m.group 1
          kind := kindOfBases (writtenBases (m.group 2))
          exported := isPublic (m.group 1) }
      functions := (names functionLine).map fun name =>
        { name := name, exported := isPublic name } }
  tagged (withAssigned table (names assignmentLine)) text

end SourceAtlas.Source.Python
