import SourceAtlas.Adapter
import SourceAtlas.Source.Dart
import SourceAtlas.Source.GoSymbols
import SourceAtlas.Source.PythonSymbols
import SourceAtlas.Source.TypeScript

/-!
The adapters that are always there: Go, Python, TypeScript and Flutter.
-/
namespace SourceAtlas.Profiles

open Text

/-- Go modules. A file that is no program is read by lines, which is noted. -/
def go : Adapter where
  label := "GoAdapter"
  name := "go"
  detectionFiles := ["go.mod", "go.sum"]
  extensions := [".go"]
  ignoreDirs := ["vendor", "testdata"]
  ignoreGlobs := ["*_test.go", "*.generated.go", "mock_*.go"]
  entrypoints := ["main.go", "cmd/*/main.go"]
  configs := ["go.mod", "go.sum", "Makefile"]
  pathBonuses := [("cmd", 15), ("internal", 10), ("pkg", 10)]
  read := fun _ path content => .ok (Source.Go.extraction path content)

/-- Python projects. Package markers and test set-ups count less. -/
def python : Adapter where
  label := "PythonAdapter"
  name := "python"
  detectionFiles := ["pyproject.toml", "requirements.txt", "setup.py", "Pipfile"]
  extensions := [".py"]
  ignoreDirs := ["__pycache__", ".venv", "venv", ".tox", ".eggs", "*.egg-info"]
  ignoreGlobs := ["*.pyc", "*_pb2.py", "*_pb2_grpc.py"]
  entrypoints := ["main.py", "app.py", "__main__.py", "manage.py"]
  configs := ["pyproject.toml", "setup.py", "setup.cfg", "requirements.txt"]
  pathBonuses := [("src", 10), ("api", 5), ("core", 5)]
  adjust := fun path _ _ _ => .ok
    (if endsWith path "__init__.py" then -15 else if endsWith path "conftest.py" then -10 else 0)
  read := Source.Python.extraction

def typescript : Adapter where
  label := "TypeScriptAdapter"
  name := "typescript"
  detectionFiles := ["tsconfig.json", "package.json"]
  extensions := [".ts", ".tsx", ".js", ".jsx"]
  ignoreDirs := ["node_modules", "dist", "build", ".next", "coverage"]
  ignoreGlobs := ["*.min.js", "*.bundle.js", "*.d.ts", "*.map"]
  entrypoints := ["index.ts", "index.js", "main.ts", "app.ts", "server.ts"]
  configs := ["package.json", "tsconfig.json", "webpack.config.js", "vite.config.ts"]
  pathBonuses := [("src", 10), ("pages", 10), ("app", 10), ("routes", 5)]
  adjust := fun path _ _ _ => .ok
    (if [".test.", ".spec.", ".stories."].any (includes (baseName path)) then -10 else 0)
  read := fun _ _ content => .ok { table := Source.TypeScript.symbols content }

def flutter : Adapter where
  label := "FlutterAdapter"
  name := "flutter"
  detectionFiles := ["pubspec.yaml"]
  extensions := [".dart"]
  ignoreDirs := [".dart_tool", "build", ".pub-cache"]
  ignoreGlobs := ["*.g.dart", "*.freezed.dart"]
  entrypoints := ["main.dart", "lib/main.dart"]
  configs := ["pubspec.yaml", "analysis_options.yaml"]
  pathBonuses := [("lib", 10), ("screens", 5), ("widgets", 5)]
  read := fun _ _ content => .ok { table := Source.Dart.symbols content }

def all : List Adapter := [go, python, typescript, flutter]

end SourceAtlas.Profiles
