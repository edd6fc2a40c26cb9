import SourceAtlas.Category
import SourceAtlas.Decimal.Shortest

/-!
The sections of an index, each a list of lines. What goes into a section is sorted first, so the
order in which files were found does not show.
-/
namespace SourceAtlas.Section

open Text

def tables (entries : List Entry) : List SymbolTable := entries.filterMap (·.symbols)

def frameworks (candidates : List Entry) : List String :=
  sortTexts (distinct ((tables candidates).flatMap (·.frameworks)))

/-- Descriptions with the frameworks that suggest them, in order. -/
def purposes : List (List String × String) := [
  (["gin", "echo", "fiber", "gorilla", "express", "fastify", "nestjs", "fastapi", "flask",
    "django"],
    "web service/API"),
  (["react", "vue", "angular", "svelte", "nextjs"], "frontend application"),
  (["flutter"], "mobile application"),
  (["cobra", "cli"], "CLI tool"),
  (["grpc"], "gRPC service"),
  (["pandas", "numpy", "tensorflow", "pytorch"], "data / ML project")]

/-- What the frameworks suggest that the sources are for; empty if nothing. -/
def purpose (candidates : List Entry) : String :=
  let found := frameworks candidates
  let hints := (purposes.filter fun (tags, _) => tags.any found.contains).map (·.2)
  if hints.isEmpty then "" else "This appears to be a " ++ join " / " hints ++ "."

def byPath (entries : List Entry) : List Entry :=
  entries.mergeSort fun a b => precedes a.path b.path

def entrypoints (candidates : List Entry) : List Entry :=
  byPath (candidates.filter (·.isEntrypoint))

def directoryTable : List (String × List String) := [
  ("api", ["API endpoints", "handlers"]),
  ("cmd", ["CLI commands", "entrypoints"]),
  ("components", ["UI components"]),
  ("config", ["configuration"]),
  ("controllers", ["request handling"]),
  ("db", ["database"]),
  ("docs", ["documentation"]),
  ("entities", ["domain entities"]),
  ("handlers", ["request handlers"]),
  ("hooks", ["React hooks"]),
  ("internal", ["internal packages"]),
  ("lib", ["shared libraries"]),
  ("middleware", ["middleware"]),
  ("migrations", ["database migrations"]),
  ("models", ["data models"]),
  ("pages", ["page components"]),
  ("pkg", ["packages"]),
  ("routes", ["routing", "endpoints"]),
  ("scripts", ["automation scripts"]),
  ("services", ["business logic"]),
  ("src", ["application sources"]),
  ("store", ["state management"]),
  ("test", ["testing"]),
  ("tests", ["testing"]),
  ("utils", ["utilities", "helpers"]),
  ("views", ["UI views"])]

def directoryUses? (name : String) : Option (List String) := directoryTable.lookup (lower name)

def sortedChildren (children : List DirNode) : List DirNode :=
  children.mergeSort fun a b => precedes a.name b.name

/-- Replaces the value of a key, or adds the pair at the end. -/
def assign {α : Type} (key : String) (value : α) : List (String × α) → List (String × α)
  | [] => [(key, value)]
  | (k, v) :: rest => if k = key then (k, value) :: rest else (k, v) :: assign key value rest

/-- The directories below the root that tell what they are for. -/
def capabilities (tree : DirNode) : List (String × List String) :=
  (sortedChildren tree.children).foldl (fun found child =>
    match directoryUses? child.name with
    | some uses => assign child.name uses found
    | none => found) []

/-- Groups of operational files with the names that belong to them; a slash at the end makes a name
a directory. -/
def operationalTable : List (String × List String) := [
  ("Build", ["Makefile", "build.sh", "build.gradle", "pom.xml", "Cargo.toml", "Taskfile.yml"]),
  ("Test", ["test.sh", "pytest.ini", "tox.ini", "jest.config.js", "jest.config.ts",
    "vitest.config.ts"]),
  ("Docker", ["Dockerfile", "Dockerfile.*", "docker-compose.yml", "docker-compose.yaml",
    "compose.yaml"]),
  ("CI/CD", [".github/workflows/", ".gitlab-ci.yml", "Jenkinsfile", ".circleci/"]),
  ("Config", ["config.yaml", "config.yml", "config.json", ".env.example"]),
  ("Package", ["go.mod", "package.json", "requirements.txt", "pyproject.toml", "Gemfile",
    "pubspec.yaml"])]

def isOperational (path : String) (patterns : List String) : Bool :=
  patterns.any fun pattern =>
    if endsWith pattern "/" then includes ("/" ++ path) ("/" ++ pattern)
    else globMatches pattern (afterLast '/' path)

/-- The operational files among paths, by group. -/
def operational (paths : List String) : List (String × List String) :=
  let sorted := sortTexts (distinct paths)
  (operationalTable.map fun (group, patterns) =>
    (group, sorted.filter (isOperational · patterns))).filter (!·.2.isEmpty)

def allPaths (scan : ScanResult) : List String := scan.files.map (·.path) ++ scan.otherFiles

/-- The files under each risk tag, tags and paths sorted. -/
def risks (candidates : List Entry) : List (String × List String) :=
  let tagsOf := fun (entry : Entry) => (entry.symbols.map (·.risks)).getD []
  let tags := sortTexts (distinct (candidates.flatMap tagsOf))
  tags.map fun tag =>
    (tag, sortTexts (distinct ((candidates.filter fun entry => (tagsOf entry).contains tag).map
      (·.path))))

def riskLabels : List (String × String) := [
  ("auth", "Authentication"),
  ("cgo", "Cgo"),
  ("code-execution", "Code Execution"),
  ("concurrency", "Concurrency"),
  ("crypto", "Cryptography"),
  ("database", "Database"),
  ("network", "Network"),
  ("reflection", "Reflection"),
  ("secrets", "Secrets"),
  ("subprocess", "Subprocess"),
  ("unsafe", "Unsafe"),
  ("xss-risk", "XSS Risk")]

/-- The heading of a risk tag; unknown tags are spelled out in title case. -/
def riskLabel (tag : String) : String :=
  match riskLabels.lookup tag with
  | some label => label
  | none => title (.ofList (tag.toList.map fun c => if c = '-' then ' ' else c))

def testEndings : List String :=
  ["_test.go", "_test.py", ".test.ts", ".test.tsx", ".test.js", ".spec.ts", ".spec.js",
    "_test.dart"]

def isTestFile (path : String) : Bool :=
  let name := afterLast '/' path
  testEndings.any (endsWith name) || (startsWith name "test_" && endsWith name ".py")

def hints (scan : ScanResult) : List String :=
  let top := scan.tree.children.map (·.name)
  let hasLanguage := fun (name : String) => scan.files.any (·.language == some name)
  let hint := fun (holds : Bool) (text : String) => if holds then [text] else []
  let tests := ((allPaths scan).filter isTestFile).length
  hint (top.contains "cmd" && top.contains "internal")
      "Follows Go standard layout (cmd/, internal/)" ++
    hint (top.contains "pkg") "Has public packages in pkg/" ++
    hint (top.contains "src") "Sources live under src/" ++
    hint (top.contains "lib" && hasLanguage "flutter") "Dart sources live under lib/" ++
    hint ((top.contains "pages" || top.contains "app") && hasLanguage "typescript")
      "Uses file-based routing (pages/ or app/)" ++
    hint (tests > 0) s!"Has {tests} test files"

def code (text : String) : String := "`" ++ text ++ "`"

def item (path : String) : String := "- " ++ code path

def header (repository heading : String) (languages : List String) (scan : ScanResult) :
    List String :=
  let purpose := purpose scan.candidates
  [ "# " ++ repository ++ " - " ++ heading,
    "",
    "**Languages:** " ++ (if languages.isEmpty then "none" else join ", " languages),
    s!"**Files:** {scan.totalFiles} total, {scan.candidates.length} indexed",
    "" ] ++ if purpose.isEmpty then [] else [purpose, ""]

def entryPointLine (entry : Entry) : String :=
  let package := (entry.symbols.bind (·.package)).getD ""
  item entry.path ++ if package.isEmpty then "" else " (package: " ++ package ++ ")"

def entryPoints (candidates : List Entry) : List String :=
  let found := entrypoints candidates
  if found.isEmpty then [] else ["## Entry Points", ""] ++ found.map entryPointLine ++ [""]

def maxDepth : Nat := 3

/-- The most files of a directory that the layout shows; beyond that the last line counts the
rest. -/
def maxFiles : Nat := 12

def fileLines (indent : String) (files : List String) : List String :=
  let sorted := sortTexts files
  let line := fun (name : String) => indent ++ "  " ++ name
  if sorted.length > maxFiles then
    let shown := maxFiles - 1
    (sorted.take shown).map line ++ [line s!"... and {sorted.length - shown} more files"]
  else sorted.map line

/-- The lines of a directory and of those below it. `levels` is the number of levels still shown. -/
def treeLines (withFiles : Bool) : Nat → String → DirNode → List String
  | 0, _, _ => []
  | levels + 1, indent, node =>
      let own := if withFiles then (indent ++ node.name ++ "/") :: fileLines indent node.files
        else [indent ++ node.name ++ "/" ++
          if node.files.isEmpty then "" else s!" ({node.files.length} files)"]
      own ++ (sortedChildren node.children).flatMap (treeLines withFiles levels (indent ++ "  "))

def layout (withFiles : Bool) (tree : DirNode) : List String :=
  ["## Repository Layout", "", "```"] ++ treeLines withFiles (maxDepth + 1) "" tree ++ ["```", ""]

def categories (groups : List (String × List String)) : List String :=
  ["## File Categories", ""] ++ groups.flatMap fun (name, paths) =>
    [s!"### {name} ({paths.length})", ""] ++ paths.map item ++ [""]

def capabilityLines (tree : DirNode) : List String :=
  let found := capabilities tree
  if found.isEmpty then []
  else ["## Primary Capabilities", ""] ++
    found.map (fun (name, uses) => "- **" ++ name ++ "**: " ++ join ", " uses) ++ [""]

/-- The first directory of a path, if it lies in one. -/
def firstDirectory? (path : String) : Option String :=
  if path.toList.contains '/' then (split '/' path).head? else none

def maxModules : Nat := 10

/-- The directories below the root that hold at least two candidates. -/
def modules (candidates : List Entry) : List (String × List String) :=
  let paths := candidates.map (·.path)
  let names := sortTexts (distinct (paths.filterMap firstDirectory?))
  (names.map fun name =>
    (name, sortTexts (paths.filter fun path => firstDirectory? path == some name))).filter
    (·.2.length ≥ 2)

def keyModules (candidates : List Entry) : List String :=
  let found := modules candidates
  if found.isEmpty then []
  else ["## Key Modules", ""] ++ (found.take maxModules).flatMap fun (name, paths) =>
    let uses := match directoryUses? name with
      | some uses => ["Provides " ++ join ", " uses ++ ".", ""]
      | none => []
    ["### " ++ name, ""] ++ uses ++ ["Files:"] ++ paths.map item ++ [""]

def maxSymbols : Nat := 8

/-- Items with commas, those beyond the limit counted. -/
def capped (items : List String) : String :=
  if items.length ≤ maxSymbols then join ", " items
  else join ", " (items.take maxSymbols ++ [s!"... +{items.length - maxSymbols} more"])

def symbolLines (table : SymbolTable) : List String :=
  let line := fun (label value : String) => ["**" ++ label ++ ":** " ++ value, ""]
  let package := table.package.getD ""
  (if package.isEmpty then [] else line "Package" package) ++
    (if table.types.isEmpty then [] else
      line "Types" (capped (table.types.map fun t => code t.name ++ " (" ++ t.kind ++ ")"))) ++
    (if table.functions.isEmpty then [] else
      line "Functions" (capped (table.functions.map fun f => code f.name))) ++
    (if table.frameworks.isEmpty then [] else line "Frameworks" (join ", " table.frameworks))

/-- The most candidates that are shown in detail. -/
def maxImportant : Nat := 25

def importantFiles (candidates : List Entry) : List String :=
  ["## Important Files", ""] ++ (candidates.take maxImportant).flatMap fun entry =>
    ["### " ++ code entry.path, ""] ++ (entry.symbols.map symbolLines).getD []

def budgetLines (heading : String) (entries : List Entry) : List String :=
  if entries.isEmpty then []
  else [heading, ""] ++
    entries.map (fun entry => s!"{item entry.path} (~{entry.tokens / 1000}k tokens)") ++ [""]

def tokenBudget (candidates : List Entry) : List String :=
  let sorted := byPath candidates
  let large := sorted.filter (·.budget == .large)
  let oversized := sorted.filter (·.budget == .oversized)
  if large.isEmpty && oversized.isEmpty then []
  else
    ["## Token Budget", "", "Some files exceed recommended token limits for single reads.", ""] ++
      budgetLines "### Oversized (>25k tokens): use grep or chunked reads" oversized ++
      budgetLines "### Large (10k-25k tokens): read with care" large ++
      ["**Tip:** for oversized files, grep for the relevant section or read with an offset and limit.",
        ""]

def operationalNotes (scan : ScanResult) : List String :=
  let found := operational (allPaths scan)
  if found.isEmpty then []
  else ["## Operational Notes", ""] ++ found.flatMap fun (group, paths) =>
    ["**" ++ group ++ ":** " ++ join ", " (paths.map code), ""]

def riskAreas (candidates : List Entry) : List String :=
  let found := risks candidates
  if found.isEmpty then []
  else ["## Risk / Caution Areas", ""] ++ found.flatMap fun (tag, paths) =>
    ["**" ++ riskLabel tag ++ ":**"] ++ paths.map item ++ [""]

def navigation (scan : ScanResult) : List String :=
  let found := hints scan
  if found.isEmpty then []
  else ["## Navigation Hints", ""] ++ found.map ("- " ++ ·) ++ [""]

/-- The line that tells when an index was made. -/
def stamp (generatedAt : String) : String := "*Index generated at " ++ generatedAt ++ "*"

def footer (generatedAt : String) (scan : ScanResult) : List String :=
  ["---", "", stamp generatedAt, "", "*Scan time: " ++ Decimal.twoPlaces scan.elapsed ++ "s*", ""]

end SourceAtlas.Section
