import SourceAtlas.Symbols
import SourceAtlas.Tags
import SourceAtlas.Text.Utf8

/-!
Symbols of TypeScript and JavaScript sources, found by line patterns. Only declarations at the start
of a line count; imports may be indented and span lines.
-/
namespace SourceAtlas.Source.TypeScript

open Text Pattern

def isQuote (c : Char) : Bool := c == '\'' || c == '"'

/-- A quoted text as group one. -/
def quoted : Pattern := .one isQuote ++ .group 1 (plus (!isQuote ·)) ++ .one isQuote

def importFrom : Pattern :=
  anyOf ["import", "export"] ++ someBlanks ++ .fewest (· != ';') ++
    .wordEdge ++ "from" ++ someBlanks ++ quoted

def bareImport : Pattern := literal "import" ++ someBlanks ++ quoted

def requireCall : Pattern := literal "require(" ++ blanks ++ quoted ++ blanks ++ ")"

/-- The export mark as group one. -/
def exportMark : Pattern := maybe (.group 1 (literal "export" ++ someBlanks))

/-- A word that may stand before a declaration. -/
def modifier (word : String) : Pattern := maybe (literal word ++ someBlanks)

def classLine : Pattern :=
  .lineStart ++ exportMark ++ modifier "default" ++ modifier "abstract" ++ "class" ++ someBlanks ++
    .group 2 word

def interfaceLine : Pattern :=
  .lineStart ++ exportMark ++ "interface" ++ someBlanks ++ .group 2 word

def aliasLine : Pattern :=
  .lineStart ++ exportMark ++ "type" ++ someBlanks ++ .group 2 word ++ blanks ++
    maybe (literal "<" ++ .many (· != '>') ++ ">") ++ blanks ++ "="

def enumLine : Pattern :=
  .lineStart ++ exportMark ++ modifier "const" ++ "enum" ++ someBlanks ++ .group 2 word

def functionLine : Pattern :=
  .lineStart ++ exportMark ++ modifier "default" ++ modifier "async" ++ "function" ++ blanks ++
    maybe "*" ++ blanks ++ .group 2 word

/-- A type annotation up to the next equals sign. -/
def typeMark : Pattern := maybe (literal ":" ++ plus (· != '='))

def arrowLine : Pattern :=
  .lineStart ++ "export" ++ someBlanks ++ anyOf ["const", "let"] ++ someBlanks ++ .group 1 word ++
    blanks ++ typeMark ++ "=" ++ blanks ++ modifier "async" ++
    anyOf [literal "(" ++ .many (· != ')') ++ ")", word] ++ blanks ++ typeMark ++ "=>"

/-- The kinds of type definitions in the order in which they are listed. -/
def typeLines : List (Pattern × String) :=
  [(classLine, "class"), (interfaceLine, "interface"), (aliasLine, "type"), (enumLine, "enum")]

def symbols (content : Bytes) : SymbolTable :=
  let text := (Utf8.decodeReplacing content).toList
  let paths := fun (found : List Cursor) => found.map (·.group 1)
  let imports := distinct (paths (importFrom.allIndented text) ++
    paths (bareImport.allIndented text) ++
    paths (requireCall.all text))
  { imports := imports
    types := typeLines.flatMap fun (line, kind) =>
      (line.all text).map fun m =>
        { name := m.group 2, kind := kind, exported := m.hasGroup 1 }
    functions :=
      ((functionLine.all text).map fun m => { name := m.group 2, exported := m.hasGroup 1 }) ++
        (arrowLine.all text).map fun m => { name := m.group 1, exported := true }
    frameworks := Tags.frameworksByFragment Tags.typeScriptFrameworks imports
    risks := Tags.typeScriptRiskTags text imports }

end SourceAtlas.Source.TypeScript
