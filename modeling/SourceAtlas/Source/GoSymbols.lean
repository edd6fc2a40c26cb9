import SourceAtlas.Adapter
import SourceAtlas.Source.GoLines
import SourceAtlas.Source.GoOutline

/-!
Symbols of Go sources by grammar. A source that is no program is read by line patterns instead.
-/
namespace SourceAtlas.Source.Go

open Text

def typeSymbol (type : TypeOutline) : TypeSymbol :=
  let plain : TypeSymbol := { name := type.name, kind := "type", exported := isExported type.name }
  match type.form with
  | .plain => plain
  | .struct fields => { plain with kind := "struct", fields := fields }
  | .interface methods => { plain with kind := "interface", methods := methods }

def unquoted (path : String) : String :=
  .ofList (trimChars (fun c => c == '"' || c == backQuote) path.toList)

def collapsed (source : Array Mark) (start stop : Nat) : String :=
  join " " (words (marksText (source.extract start stop).toList))

def functionSymbol (source : Array Mark) (outline : FunctionOutline) : FunctionSymbol where
  name := outline.name
  exported := isExported outline.name
  method := outline.isMethod
  receiver := outline.receiver
  signature := some (collapsed source outline.start outline.stop)

def withDecl (source : Array Mark) (table : SymbolTable) : Decl → SymbolTable
  | .package name => { table with package := some name }
  | .imports paths => { table with imports := table.imports ++ paths.map unquoted }
  | .function outline =>
      { table with functions := table.functions ++ [functionSymbol source outline] }
  | .types outlines => { table with types := table.types ++ outlines.map typeSymbol }
  | .constants names => { table with constants := table.constants ++ names }
  | .variableNames names => { table with variableNames := table.variableNames ++ names }

/-- The symbols of a source by grammar; none for a source that is no program. -/
def programSymbols? (content : Bytes) : Option SymbolTable := do
  let source := marks content
  let outline ← parse? source
  return tagged (outline.foldl (withDecl source.toArray) {}) (Utf8.decodeReplacing content).toList

/-- The symbols of a source; that a source was read by lines is noted. -/
def extraction (path : String) (content : Bytes) : Extraction :=
  match programSymbols? content with
  | some table => { table := table }
  | none =>
      { table := symbolsByLines content
        notes := [.debug "extract.go" s!"Syntax errors in {path}; using regex extraction"] }

/-- Whether the grammar can be used. That it cannot be loaded is told once. -/
inductive Availability
  | ready
  | failing (reason : String)
  | givenUp

def extractionWith (path : String) (content : Bytes) : Availability → Extraction × Availability
  | .ready => (extraction path content, .ready)
  | .failing reason =>
      ({ table := symbolsByLines content
         notes := [.warning "extract.go"
          s!"Go grammar unavailable, using regex extraction: {reason}"] }, .givenUp)
  | .givenUp => ({ table := symbolsByLines content }, .givenUp)

end SourceAtlas.Source.Go
