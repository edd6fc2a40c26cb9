import SourceAtlas.Symbols
import SourceAtlas.Tags
import SourceAtlas.Text.Utf8

/-!
Symbols of Dart sources, found by line patterns. Class members are indented, so what starts a line
is at the top level.
-/
namespace SourceAtlas.Source.Dart

open Text Pattern

def isQuote (c : Char) : Bool := c == '\'' || c == '"'

def libraryLine : Pattern :=
  .lineStart ++ "library" ++ someBlanks ++ .group 1 (plus fun c => isWord c || c == '.') ++
    blanks ++
    ";"

def importLine : Pattern :=
  .lineStart ++ "import" ++ someBlanks ++ .one isQuote ++ .group 1 (plus (!isQuote ·)) ++
    .one isQuote

/-- A word that may stand before a declaration. -/
def modifier (word : String) : Pattern := literal word ++ someBlanks

def classLine : Pattern :=
  .lineStart ++ maybe (modifier "abstract") ++
    maybe (anyOf [modifier "base", modifier "final", modifier "sealed", modifier "interface"]) ++
    "class" ++ someBlanks ++ .group 1 word ++
    maybe (literal "<" ++ .many (fun c => c != '>' && c != '{') ++ ">") ++
    maybe (someBlanks ++ "extends" ++ someBlanks ++ .group 2 word)

def mixinLine : Pattern :=
  .lineStart ++ maybe (modifier "base") ++ "mixin" ++ someBlanks ++ .group 1 word

def enumLine : Pattern := .lineStart ++ "enum" ++ someBlanks ++ .group 1 word

def isGap (c : Char) : Bool := c == ' ' || c == '\t'

/-- A character of a result type. -/
def isTypePart (c : Char) : Bool :=
  isWord c || c == '<' || c == '>' || c == '?' || c == ',' || isGap c

def functionLine : Pattern :=
  .lineStart ++
    maybe (.one (fun c => c.isAlpha || c == '_') ++ .fewest isTypePart ++ plus isGap) ++
    .group 1 word ++ .many isGap ++ "(" ++ .many (· != ')') ++ ")" ++ blanks ++
    maybe (literal "async" ++ blanks ++ maybe "*" ++ blanks) ++ anyOf ["\x7b", "=>"]

/-- The base classes of widgets and of widget states. -/
def widgetBases : List String :=
  ["StatelessWidget", "StatefulWidget", "Widget", "HookWidget", "ConsumerWidget"]

def stateBases : List String := ["State", "ConsumerState"]

/-- Words before a parenthesis that name no function. -/
def keywords : List String :=
  ["if", "for", "while", "switch", "catch", "return", "class", "mixin", "enum"]

def kindOf (base : String) : String :=
  if widgetBases.contains base then "widget"
  else if stateBases.contains base then "state"
  else "class"

def isPublic (name : String) : Bool := !startsWith name "_"

def symbols (content : Bytes) : SymbolTable :=
  let text := (Utf8.decodeReplacing content).toList
  let imports := distinct ((importLine.all text).map (·.group 1))
  let named := fun (line : Pattern) (kind : Cursor → String) =>
    (line.all text).map fun m =>
      ({ name := m.group 1, kind := kind m, exported := isPublic (m.group 1) } : TypeSymbol)
  { package := (libraryLine.find? text).map (·.group 1)
    imports := imports
    types := named classLine (fun m => kindOf (m.group 2)) ++ named mixinLine (fun _ => "mixin") ++
      named enumLine fun _ => "enum"
    functions := ((functionLine.all text).map (·.group 1)).filterMap fun name =>
      if keywords.contains name then none
      else some { name := name, exported := isPublic name }
    frameworks := Tags.frameworksByFragment Tags.dartFrameworks imports
    risks := Tags.dartRiskTags imports }

end SourceAtlas.Source.Dart
