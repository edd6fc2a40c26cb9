import SourceAtlas.Decimal.Binary64
import SourceAtlas.Symbols
import SourceAtlas.Text.Lines

/-!
Scanned files and directories, and the result of a scan.
-/
namespace SourceAtlas

/-- How a file fits into one reading. -/
inductive Budget
  | safe
  | large
  | oversized
  deriving BEq, DecidableEq, Repr

def Budget.label : Budget → String
  | .safe => "safe"
  | .large => "large"
  | .oversized => "oversized"

/-- The budget of a number of tokens: large from ten thousand, oversized from twenty-five
thousand. -/
def Budget.ofTokens (tokens : Int) : Budget :=
  if tokens < 10000 then .safe
  else if tokens < 25000 then .large
  else .oversized

def bytesPerToken : Nat := 4

/-- A scanned file. Symbols are attached later, and only to candidates. -/
structure Entry where
  path : String
  size : Int := 0
  hash : String := ""
  depth : Int := 0
  tokens : Int := 0
  language : Option String := none
  isEntrypoint : Bool := false
  isConfig : Bool := false
  isGenerated : Bool := false
  score : Int := 0
  symbols : Option SymbolTable := none
  deriving BEq, DecidableEq, Repr

def Entry.name (entry : Entry) : String := Text.afterLast '/' entry.path

def Entry.budget (entry : Entry) : Budget := .ofTokens entry.tokens

/-- A directory with the names of its files and the directories below it. -/
inductive DirNode
  | mk (name path : String) (depth : Nat) (files : List String) (children : List DirNode)

namespace DirNode

def name : DirNode → String
  | .mk name _ _ _ _ => name

def path : DirNode → String
  | .mk _ path _ _ _ => path

def depth : DirNode → Nat
  | .mk _ _ depth _ _ => depth

def files : DirNode → List String
  | .mk _ _ _ files _ => files

def children : DirNode → List DirNode
  | .mk _ _ _ _ children => children

def root : DirNode := .mk "." "" 0 [] []

instance : Inhabited DirNode := ⟨.root⟩

end DirNode

/-- What a scan has found. -/
structure ScanResult where
  files : List Entry := []
  candidates : List Entry := []
  tree : DirNode := .root
  otherFiles : List String := []
  totalFiles : Int := 0
  totalDirs : Nat := 0
  ignoredFiles : Nat := 0
  ignoredDirs : Nat := 0
  totalBytes : Int := 0
  elapsed : Decimal.Binary64 := .number false (.finite 0 0)

end SourceAtlas
