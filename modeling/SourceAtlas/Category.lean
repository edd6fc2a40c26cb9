import SourceAtlas.Entry
import SourceAtlas.Glob
import SourceAtlas.Text.Case

/-!
Categories of files by the directories they lie in and by their names. The first category in the
table that fits is a file's only one.
-/
namespace SourceAtlas

open Text

/-- A category with the directory names and the patterns of file names that tell it. -/
structure Category where
  name : String
  directories : List String
  names : List String
  deriving Repr

namespace Category

def table : List Category := [
  ⟨"Backend / API",
    ["api", "apis", "handler", "handlers", "routes", "router", "routers", "controller",
      "controllers", "server", "endpoints", "middleware", "grpc", "rest", "graphql", "service",
      "services"],
    ["*handler*", "*router*", "*controller*", "server.*"]⟩,
  ⟨"Frontend / UI",
    ["components", "component", "pages", "views", "ui", "screens", "widgets", "frontend", "web",
      "public", "styles", "layouts", "hooks"],
    ["*.tsx", "*.jsx", "*widget*", "*screen*"]⟩,
  ⟨"Database / Storage",
    ["db", "database", "migrations", "store", "stores", "storage", "repository", "repositories",
      "dao", "sql", "persistence", "cache"],
    ["*repository*", "*migration*", "*_db.*", "*store.*"]⟩,
  ⟨"Domain / Models",
    ["models", "model", "domain", "entities", "entity", "types", "schemas", "schema"],
    ["*model*", "*entity*", "*schema*"]⟩,
  ⟨"CLI / Commands",
    ["cmd", "cli", "commands", "command", "bin", "scripts"],
    ["cli.*", "*command*"]⟩,
  ⟨"Utilities / Helpers",
    ["utils", "util", "helpers", "helper", "lib", "common", "shared", "pkg", "tools"],
    ["*util*", "*helper*"]⟩,
  ⟨"Testing",
    ["test", "tests", "__tests__", "spec", "testing", "e2e", "fixtures", "testdata"],
    ["*_test.*", "test_*", "*.test.*", "*.spec.*", "conftest.py"]⟩,
  ⟨"Documentation",
    ["docs", "doc", "documentation", "examples", "example"],
    ["*.md", "*.rst"]⟩]

def other : String := "Other"

def order : List String := table.map (·.name) ++ [other]

def fits (category : Category) (directories : List String) (name : String) : Bool :=
  directories.any category.directories.contains || category.names.any (globMatches · name)

end Category

def categoryOf (path : String) : String :=
  let parts := split '/' (lower path)
  match Category.table.find? (·.fits parts.dropLast (parts.getLastD "")) with
  | some category => category.name
  | none => Category.other

/-- Paths by category: categories in order and only where there are paths, paths sorted. -/
def categorize (paths : List String) : List (String × List String) :=
  (Category.order.map fun name =>
    (name, sortTexts (paths.filter fun path => categoryOf path == name))).filter (!·.2.isEmpty)

end SourceAtlas
