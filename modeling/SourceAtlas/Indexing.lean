import SourceAtlas.Detection
import SourceAtlas.Scan
import SourceAtlas.Slug
import SourceAtlas.Store
import SourceAtlas.SymbolReading

/-!
Making an index: the adapters are chosen, the directory is scanned, the symbols of the candidates
are read and the text is written. A run also keeps the index and registers it with a collection.
-/
namespace SourceAtlas

open Text

structure IndexResult where
  content : String
  summary : String
  tier : String
  contentHash : String
  repository : String
  languages : List String
  fileCount : Nat
  totalFiles : Int
  generatedAt : Moment
  categories : List (String × List String)
  outputPath : Option String := none

/-- What a run takes from outside: the calls it may nest, the time, the bytes for a seal, and the
program that keeps collections. -/
structure Surroundings where
  room : Nat
  now : Moment
  entropy : Entropy
  collector : Option String := none
  program : Collection.Program := fun _ => .output ""

namespace Indexing

def rootOf (site : Site) (settings : Settings) : Except PathFault Path := do
  site.resolve (← site.expandHome settings.root)

def repositoryOf (root : Path) : String := if root.name.isEmpty then "repo" else root.name

def selectAdapters (registry : Registry) (site : Site) (settings : Settings) (root : Path) :
    Noted (List Adapter) := do
  if settings.languages.isEmpty then
    let adapters := registry.detect site root
    if adapters.isEmpty then Noted.fail (.undetected root.toText registry.names)
    return adapters
  else
    let (adapters, notes) := registry.select settings.languages
    Noted.noteAll notes
    if adapters.isEmpty then Noted.fail (.unsupported settings.languages registry.names)
    return adapters

def manager (message : String) : Record := .info "manager" message

/-- The index of a directory, nothing being written. The scan and the reading of symbols are one
call below it. -/
def generateAt (registry : Registry) (site : Site) (settings : Settings) (room : Nat) (now : Moment)
    (root : Path) :
    Noted IndexResult := do
  if !(← Noted.ofOs (site.exists? root)) then Noted.fail (.rootMissing root.toText)
  let repository := repositoryOf root
  Noted.note (manager ("Indexing " ++ root.toText))
  let adapters ← selectAdapters registry site settings root
  let languages := adapters.map (·.name)
  Noted.note (manager ("Using adapters: " ++ join ", " languages))
  let scan ← Scan.run site root.toText
    { room := room - 1, adapters := adapters, overrides := settings.overrides
      hashAlgorithm := settings.hashAlgorithm, maxCandidates := settings.maxCandidates }
  let (candidates, notes) := SymbolReading.attach (room - 1) site root adapters scan.candidates
  Noted.noteAll notes
  let candidates ← Noted.ofPath candidates
  Noted.note (.debug "manager"
    ("Extracted symbols from " ++ toString candidates.length ++ " candidates"))
  let scan := { scan with candidates := candidates }
  let frame : IndexFrame := ⟨repository, languages, settings.maxOutputKb⟩
  match Tier.ofLabel? settings.tier with
  | none => Noted.fail (.unknownTier settings.tier)
  | some tier =>
      let (content, notes) := frame.render scan tier now
      Noted.noteAll notes
      let (summary, notes) := frame.renderSummary scan now
      Noted.noteAll notes
      let bytes := Utf8.encode content
      Noted.note (manager ("Generated " ++ settings.tier ++ " index for " ++ repository ++ " (" ++
        toString scan.files.length ++ " files, " ++ toString bytes.length ++ " bytes) in 0.00s"))
      return {
        content := content
        summary := summary
        tier := settings.tier
        contentHash := Digest.contentHash settings.hashAlgorithm bytes
        repository := repository
        languages := languages
        fileCount := scan.files.length
        totalFiles := scan.totalFiles
        generatedAt := now
        categories := categorize (candidates.map (·.path)) }

def generate (registry : Registry) (site : Site) (settings : Settings) (room : Nat) (now : Moment) :
    Noted IndexResult := do
  generateAt registry site settings room now (← Noted.ofPath (rootOf site settings))

def storeOf (site : Site) (settings : Settings) (root : Path) : Store where
  root := root
  slug := (Slugs.ofName (repositoryOf root)).file
  outputPath := settings.outputPath
  location := settings.store
  encrypt := settings.encrypt
  key := settings.encryptionKey
  home := .ofText site.home

/-- Registers a written index; only what is not the program's own failure stops the run. -/
def register (settings : Settings) (outside : Surroundings) (index : Path) :
    Act (List Collection.Call) := do
  match settings.collection with
  | none => return []
  | some collection =>
      let (result, trace) :=
        (Collection.register (some collection) outside.collector outside.program index).run.run {}
      Act.noteAll trace.journal
      match result with
      | .ok _ => return trace.calls
      | .error (.fault reason) => Act.fail (.outside reason)
      | .error failure =>
          Act.note (.warning "manager" ("qmd registration failed: " ++ failure.message))
          return trace.calls

def run (registry : Registry) (settings : Settings) (outside : Surroundings) :
    Act (IndexResult × List Collection.Call) := do
  let site ← Act.site
  let root ← Store.ofPath (rootOf site settings)
  let result ← Act.ofNoted (generateAt registry site settings (outside.room - 1) outside.now root)
  let store := storeOf site settings root
  if !store.isKnown then Act.fail (.unknownStore settings.store)
  let written ← store.write outside.entropy result.content
  let calls ← register settings outside written
  return ({ result with outputPath := some written.toText }, calls)

end Indexing

end SourceAtlas
