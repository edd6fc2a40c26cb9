import SourceAtlas.Classification
import SourceAtlas.Collection
import SourceAtlas.Site
import SourceAtlas.Yaml.Document

/-!
The settings of a run, as a file in the directory to be indexed gives them. Every value is coerced
to what its key takes, and one that cannot be coerced counts as absent, so a document of any shape
gives settings as long as its root is a mapping or nothing.
-/
namespace SourceAtlas

open Text

def settingsName : String := ".codeindex.yml"

def tierNames : List String := ["summary", "structured", "full"]

def storeNames : List String := ["repo", "config", "both"]

def hashNames : List String := ["xxhash", "sha256"]

structure Settings where
  root : Path
  tier : String := "structured"
  outputPath : Option String := none
  store : String := "repo"
  encrypt : Bool := false
  encryptionKey : Option Points := none
  hashAlgorithm : String := "xxhash"
  maxCandidates : Int := 100
  maxOutputKb : Int := 100
  languages : List String := []
  overrides : Overrides := []
  collection : Option CollectionSettings := none
  verbose : Bool := false

/-- Why there are no settings. -/
inductive SettingsFault
  | path (fault : PathFault)
  | os (error : OsError)
  | encoding (fault : Utf8.Fault)
  | notAMapping
  | document (fault : Yaml.Fault)
  | numeral (fault : Decimal.NumeralFault)

namespace Settings

open Yaml (Value)

/-- A coercion can fail only on an integer too long to be written. -/
abbrev Coercion := Except Decimal.NumeralFault

def entriesOf : Option Value → List (Value × Value)
  | some (.mapping entries) => entries
  | _ => []

def hasText : Value → Bool
  | .bool _ | .int _ | .float _ | .text _ => true
  | _ => false

def textOf : Option Value → Coercion (Option String)
  | some v => if hasText v then v.scalarText.map some else .ok none
  | none => .ok none

/-- One of several names, white space and case aside. -/
def choiceOf (names : List String) (v : Option Value) : Coercion (Option String) := do
  return ((← textOf v).map fun text => lower (strip text)).filter names.contains

def integerOf : Option Value → Option Int
  | some (.int n) => some n
  | some (.text s) => (Decimal.readInteger 10 s).toOption
  | _ => none

def positiveOf (v : Option Value) : Option Int := (integerOf v).filter (· > 0)

def truthOf : Option Value → Bool
  | some (.bool b) => b
  | some (.text s) => ["true", "yes", "1"].contains (lower (strip s))
  | _ => false

/-- A list of texts: the parts of a text between commas, or the members of a list that have a
text. -/
def textsOf : Option Value → Coercion (List String)
  | some (.text s) => .ok (((split ',' s).map strip).filter (!·.isEmpty))
  | some (.list items) => (items.filter hasText).mapM (·.scalarText)
  | some (.bytes bytes) => .ok (bytes.map fun b => toString b.toNat)
  | _ => .ok []

def overrideOf (entries : List (Value × Value)) : Coercion Override := do
  return {
    ignoreDirs := ← textsOf (Value.get? "ignore_dirs" entries)
    ignoreGlobs := ← textsOf (Value.get? "ignore_globs" entries)
    priorityFiles := ← textsOf (Value.get? "priority_files" entries)
    replaceDefaults := truthOf (Value.get? "replace_defaults" entries) }

/-- The overrides with one more; a name that is there keeps its place. -/
def insertOverride (name : String) (override : Override) : Overrides → Overrides
  | [] => [(name, override)]
  | (n, o) :: rest =>
      if n == name then (n, override) :: rest else (n, o) :: insertOverride name override rest

def overridesOf (entries : List (Value × Value)) : Coercion Overrides :=
  entries.foldlM (fun overrides (name, raw) => do
    let fields := entriesOf (some raw)
    if fields.isEmpty then return overrides
    let override ← overrideOf fields
    return insertOverride (lower (← name.scalarText)) override overrides) []

def collectionOf (entries : List (Value × Value)) : Coercion (Option CollectionSettings) := do
  if entries.isEmpty then return none
  let settings : CollectionSettings :=
    { collection := ← textOf (Value.get? "collection" entries)
      embed := truthOf (Value.get? "embed" entries)
      context := ← textOf (Value.get? "context" entries)
      mask := ← textOf (Value.get? "mask" entries) }
  return if (settings.collection.getD "").isEmpty then none else some settings

def ofEntries (root : Path) (entries : List (Value × Value)) : Coercion Settings := do
  let output := entriesOf (Value.get? "output" entries)
  let standard : Settings := { root := root }
  return {
    root := root
    tier := (← choiceOf tierNames (Value.get? "format" output)).getD standard.tier
    outputPath := ← textOf (Value.get? "path" output)
    store := (← choiceOf storeNames (Value.get? "store" output)).getD standard.store
    maxOutputKb := (positiveOf (Value.get? "max_kb" output)).getD standard.maxOutputKb
    hashAlgorithm := (← choiceOf hashNames (Value.get? "hash" entries)).getD standard.hashAlgorithm
    maxCandidates := (positiveOf (Value.get? "max_candidates" entries)).getD standard.maxCandidates
    languages := (← textsOf (Value.get? "languages" entries)).map lower
    overrides := ← overridesOf (entriesOf (Value.get? "adapters" entries))
    encrypt := truthOf (Value.get? "encrypt" entries)
    collection := ← collectionOf (entriesOf (Value.get? "qmd" entries))
    verbose := truthOf (Value.get? "verbose" entries) }

/-- The settings that a document gives. Nothing at all is an empty mapping. -/
def ofValue (root : Path) (v : Value) : Except SettingsFault Settings :=
  if !v.isSomething then .ok { root := root }
  else match v with
    | .mapping entries =>
        match ofEntries root entries with
        | .ok settings => .ok settings
        | .error fault => .error (.numeral fault)
    | _ => .error .notAMapping

def ofBytes (root : Path) (content : Bytes) : Except SettingsFault Settings :=
  match Utf8.decode content with
  | .error fault => .error (.encoding fault)
  | .ok text =>
      let text := universalLines text
      if (strip text).isEmpty then .ok { root := root }
      else match Yaml.load text with
        | .ok v => ofValue root v
        | .error fault => .error (.document fault)

def liftPath {α : Type} : Except PathFault α → Except SettingsFault α
  | .ok a => .ok a
  | .error fault => .error (.path fault)

def liftOs {α : Type} : Except OsError α → Except SettingsFault α
  | .ok a => .ok a
  | .error e => .error (.os e)

/-- Where the settings for a path stand: in the directory, or beside the file. -/
def fileFor (site : Site) (path : Path) : Except SettingsFault Path := do
  let path ← liftPath (site.expandHome path)
  if ← liftOs (site.isDirectory? path) then liftPath (site.resolve (path.child settingsName))
  else if path.name ≠ settingsName then
    liftPath (site.resolve (path.parent.child settingsName))
  else liftPath (site.resolve path)

/-- The settings for a path; a file that is not there gives the standard ones. -/
def load (site : Site) (path : Path) : Except SettingsFault Settings := do
  let file ← fileFor site path
  let root ← liftPath (site.resolve file.parent)
  if ← liftOs (site.exists? file) then ofBytes root (← liftOs (site.read file))
  else return { root := root }

end Settings

end SourceAtlas
