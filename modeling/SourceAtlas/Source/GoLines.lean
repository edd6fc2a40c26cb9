import SourceAtlas.Symbols
import SourceAtlas.Tags
import SourceAtlas.Text.Utf8

/-!
Symbols of Go sources by line patterns, for files that the grammar does not accept. No signatures,
fields or methods are read here.
-/
namespace SourceAtlas.Source.Go

open Text Pattern

/-- Names with a capital first letter are visible outside their package. -/
def isExported (name : String) : Bool := (name.toList.head?.map isCapital).getD false

/-- The framework and risk tags of a file. -/
def tagged (table : SymbolTable) (text : List Char) : SymbolTable :=
  { table with
    frameworks := Tags.frameworksByFront Tags.goFrameworks table.imports
    risks := Tags.goRiskTags text table.imports }

def packageLine : Pattern := literal "package" ++ someBlanks ++ .group 1 word

def isNotQuote (c : Char) : Bool := c != '"'

def quoted : Pattern := literal "\"" ++ .group 1 (plus isNotQuote) ++ "\""

def importLine : Pattern :=
  literal "import" ++ someBlanks ++
    maybe (anyOf [word ++ someBlanks, literal "_" ++ someBlanks, literal "." ++ someBlanks]) ++
    quoted

def importBlock : Pattern :=
  literal "import" ++ blanks ++ "(" ++ .group 1 (.fewest fun _ => true) ++ ")"

def functionLine : Pattern :=
  .lineStart ++ "func" ++ someBlanks ++
    maybe (literal "(" ++ blanks ++ maybe (word ++ someBlanks) ++ maybe "*" ++ blanks ++
      .group 1 word ++ .many (· != ')') ++ ")" ++ blanks) ++
    .group 2 word ++ blanks ++ .one fun c => c == '[' || c == '('

def typeLine : Pattern :=
  literal "type" ++ someBlanks ++ .group 1 word ++ someBlanks ++
    maybe (.group 2 (anyOf ["struct", "interface"]))

def constantLine : Pattern := .lineStart ++ "const" ++ someBlanks ++ .group 1 word

def variableLine : Pattern := .lineStart ++ "var" ++ someBlanks ++ .group 1 word

def symbolsByLines (content : Bytes) : SymbolTable :=
  let text := (Utf8.decodeReplacing content).toList
  let names := fun (found : List Cursor) => found.map (·.group 1)
  let blockPaths := (importBlock.allIndented text).flatMap fun m =>
    (quoted.all (m.group 1).toList).map (·.group 1)
  tagged
    { package := (packageLine.allIndented text).head?.map (·.group 1)
      imports := distinct (names (importLine.allIndented text) ++ blockPaths)
      functions := (functionLine.all text).map fun m =>
        { name := m.group 2
          exported := isExported (m.group 2)
          method := m.hasGroup 1
          receiver := if m.hasGroup 1 then some (m.group 1) else none }
      types := (typeLine.allIndented text).map fun m =>
        { name := m.group 1
          kind := if m.hasGroup 2 then m.group 2 else "type"
          exported := isExported (m.group 1) }
      constants := names (constantLine.all text)
      variableNames := names (variableLine.all text) }
    text

end SourceAtlas.Source.Go
