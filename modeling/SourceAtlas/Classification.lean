import SourceAtlas.Adapter
import SourceAtlas.Pattern
import SourceAtlas.Rule

/-!
What the name, the path and the first bytes of a file tell about it.
-/
namespace SourceAtlas

open Text

def generatedNames : List String :=
  ["*.pb.go", "*_gen.go", "zz_generated*", "*.generated.*", "*_pb2.py", "*.g.dart",
    "*.freezed.dart", "*.min.js"]

/-- How many bytes from the start are searched for a mark of generated files. -/
def markerWindow : Nat := 1024

/-- The mark of generated files: a phrase with other words of one line between its ends, or a tag.
It is looked for in bytes, so each stands for the character of its number. -/
def generatedMark : Pattern :=
  .either (.literal "Code generated " ++ .many (· != '\n') ++ " DO NOT EDIT") "@generated"

/-- Whether the first bytes carry a mark of generated files. -/
def hasGeneratedMark (head : Bytes) : Bool :=
  (generatedMark.find? ((head.take markerWindow).map Char.ofUInt8)).isSome

def isGenerated (name : String) (head : Bytes) : Bool :=
  generatedNames.any (globMatches · name) || hasGeneratedMark head

def matchesAny (path : String) (patterns : List String) : Bool :=
  patterns.any fun pattern => globMatches pattern (baseName path) || globMatches pattern path

/-- What the settings change for one adapter. -/
structure Override where
  ignoreDirs : List String := []
  ignoreGlobs : List String := []
  priorityFiles : List String := []
  replaceDefaults : Bool := false
  deriving BEq, DecidableEq, Repr

abbrev Overrides := List (String × Override)

def neverEntered : List String := [".git", ".svn", ".hg", ".idea", ".vscode"]

structure ScanRules where
  ignoreFile : List Rule := []
  directories : List Rule := []
  files : List Rule := []
  extensions : List String := []
  configs : List String := []

namespace ScanRules

def ignoresDirectory (rules : ScanRules) (name path : String) : Bool :=
  neverEntered.contains name || rules.directories.any (·.holds path true) ||
    Rule.ignores rules.ignoreFile path true

def ignoresFile (rules : ScanRules) (path : String) : Bool :=
  Rule.ignores rules.ignoreFile path false || rules.files.any (·.holds path false)

/-- Whether files of a name are indexed: by their ending or as manifests. -/
def isEligible (rules : ScanRules) (name : String) : Bool :=
  let ending := endingKey name
  (!ending.isEmpty && rules.extensions.contains ending) ||
    rules.configs.any (globMatches · name)

def directoryRule? (pattern : String) : Option Rule :=
  Rule.build? (.ofList (trimEnd Rule.isSlash pattern.toList) ++ "/") false

/-- The lists of adapters and overrides together. An adapter whose override replaces its defaults
brings none of its own, and overrides of adapters that are not active have no effect. -/
def patterns (own : Adapter → List String) (added : Override → List String)
    (adapters : List Adapter) (overrides : Overrides) : List String :=
  let defaults := adapters.filter fun adapter =>
    !((overrides.lookup adapter.name).map (·.replaceDefaults)).getD false
  distinct (unionOf own defaults ++ adapters.flatMap fun adapter =>
    ((overrides.lookup adapter.name).map added).getD [])

def compile (adapters : List Adapter) (overrides : Overrides) (ignoreFile : List Rule) :
    ScanRules where
  ignoreFile := ignoreFile
  directories := (patterns (·.ignoreDirs) (·.ignoreDirs) adapters overrides).filterMap
    directoryRule?
  files := (patterns (·.ignoreGlobs) (·.ignoreGlobs) adapters overrides).filterMap
    (Rule.build? · false)
  extensions := distinct ((unionOf (·.extensions) adapters).map lower)
  configs := unionOf (·.configs) adapters

def priority (adapters : List Adapter) (overrides : Overrides) : List Rule :=
  adapters.flatMap fun adapter =>
    match overrides.lookup adapter.name with
    | some override => override.priorityFiles.filterMap (Rule.build? · false)
    | none => []

def inactiveNote (adapters : List Adapter) (overrides : Overrides) : Journal :=
  let active := adapters.map (·.name)
  let unknown := sortTexts (distinct ((overrides.map (·.1)).filter (!active.contains ·)))
  if unknown.isEmpty then []
  else [.debug "ignore" ("Ignoring overrides for inactive adapters: " ++ join ", " unknown)]

end ScanRules

end SourceAtlas
