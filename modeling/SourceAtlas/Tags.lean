import SourceAtlas.Pattern
import SourceAtlas.Text.Case

/-!
Framework and risk tags. Each language has a table of fragments with the tag that a fragment stands
for; frameworks come out in table order, risks sorted.
-/
namespace SourceAtlas.Tags

open Text

/-- Fragments of import paths or source text with their tags. -/
abbrev Table := List (String × String)

def goFrameworks : Table := [
  ("github.com/gin-gonic/gin", "gin"),
  ("github.com/labstack/echo", "echo"),
  ("github.com/gofiber/fiber", "fiber"),
  ("github.com/gorilla/mux", "gorilla"),
  ("net/http", "stdlib-http"),
  ("github.com/spf13/cobra", "cobra"),
  ("github.com/urfave/cli", "cli"),
  ("google.golang.org/grpc", "grpc"),
  ("github.com/graphql-go/graphql", "graphql"),
  ("gorm.io/gorm", "gorm"),
  ("github.com/jmoiron/sqlx", "sqlx")]

def pythonFrameworks : Table := [
  ("flask", "flask"),
  ("django", "django"),
  ("fastapi", "fastapi"),
  ("starlette", "starlette"),
  ("tornado", "tornado"),
  ("aiohttp", "aiohttp"),
  ("sqlalchemy", "sqlalchemy"),
  ("pandas", "pandas"),
  ("numpy", "numpy"),
  ("tensorflow", "tensorflow"),
  ("torch", "pytorch"),
  ("pytest", "pytest"),
  ("unittest", "unittest"),
  ("celery", "celery")]

def typeScriptFrameworks : Table := [
  ("react", "react"),
  ("vue", "vue"),
  ("angular", "angular"),
  ("svelte", "svelte"),
  ("next", "nextjs"),
  ("express", "express"),
  ("fastify", "fastify"),
  ("nest", "nestjs"),
  ("prisma", "prisma"),
  ("typeorm", "typeorm"),
  ("mongoose", "mongoose"),
  ("jest", "jest"),
  ("mocha", "mocha"),
  ("graphql", "graphql"),
  ("apollo", "apollo")]

def dartFrameworks : Table := [
  ("flutter", "flutter"),
  ("provider", "provider"),
  ("bloc", "bloc"),
  ("riverpod", "riverpod"),
  ("getx", "getx"),
  ("dio", "dio"),
  ("http", "http"),
  ("sqflite", "sqflite"),
  ("hive", "hive"),
  ("firebase", "firebase"),
  ("test", "test")]

def goRisks : Table := [
  ("crypto", "crypto"),
  ("database", "database"),
  ("sql", "database"),
  ("sync", "concurrency"),
  ("context", "concurrency"),
  ("auth", "auth"),
  ("oauth", "auth"),
  ("jwt", "auth"),
  ("bcrypt", "auth"),
  ("os/exec", "subprocess"),
  ("unsafe", "unsafe"),
  ("reflect", "reflection"),
  ("cgo", "cgo"),
  ("net/http", "network")]

def pythonRisks : Table := [
  ("crypto", "crypto"),
  ("hashlib", "crypto"),
  ("bcrypt", "auth"),
  ("jwt", "auth"),
  ("oauth", "auth"),
  ("sql", "database"),
  ("asyncio", "concurrency"),
  ("threading", "concurrency"),
  ("multiprocessing", "concurrency"),
  ("subprocess", "subprocess"),
  ("os.system", "subprocess"),
  ("eval(", "code-execution"),
  ("exec(", "code-execution"),
  ("requests", "network"),
  ("urllib", "network")]

def typeScriptRisks : Table := [
  ("crypto", "crypto"),
  ("bcrypt", "auth"),
  ("jwt", "auth"),
  ("passport", "auth"),
  ("sql", "database"),
  ("prisma", "database"),
  ("typeorm", "database"),
  ("mongoose", "database"),
  ("eval(", "code-execution"),
  ("Function(", "code-execution"),
  ("innerHTML", "xss-risk"),
  ("dangerouslySetInnerHTML", "xss-risk"),
  ("child_process", "subprocess"),
  ("exec(", "subprocess"),
  ("spawn(", "subprocess"),
  ("axios", "network"),
  ("fetch(", "network")]

def dartRisks : Table := [
  ("crypto", "crypto"),
  ("encrypt", "crypto"),
  ("firebase_auth", "auth"),
  ("sqflite", "database"),
  ("hive", "database"),
  ("http", "network"),
  ("dio", "network"),
  ("process", "subprocess")]

/-- The tags whose fragment some import starts with. -/
def frameworksByFront (table : Table) (imports : List String) : List String :=
  (table.filter fun entry => imports.any (startsWith · entry.1)).map (·.2)

/-- The tags whose fragment stands somewhere in some import, case aside. -/
def frameworksByFragment (table : Table) (imports : List String) : List String :=
  let lowered := imports.map fun name => lowerChars name.toList
  (table.filter fun entry => lowered.any (occurs entry.1.toList)).map (·.2)

/-- The tags of the imports, case aside on both sides. -/
def importRisks (table : Table) (imports : List String) : List String :=
  imports.flatMap fun name =>
    let lowered := lowerChars name.toList
    (table.filter fun entry => occurs (lowerChars entry.1.toList) lowered).map (·.2)

def textRisks (table : Table) (text : List Char) : List String :=
  (table.filter fun entry => occurs entry.1.toList text).map (·.2)

def secretWords : List String := ["password", "secret", "token", "apikey", "api_key"]

/-- Whether a text in lower case speaks of credentials. -/
def mentionsSecrets (lowered : List Char) : Bool :=
  secretWords.any fun word => occurs word.toList lowered

/-- A call started on its own thread of control. -/
def goroutine : Pattern :=
  .wordEdge ++ "go" ++ .someBlanks ++ .word ++ "("

def channel : Pattern := .wordEdge ++ "chan" ++ .someBlanks

def tagSet (tags : List String) : List String := sortTexts (distinct tags)

def goRiskTags (text : List Char) (imports : List String) : List String :=
  tagSet (importRisks goRisks imports ++
    (if (goroutine.find? text).isSome || (channel.find? text).isSome then ["concurrency"]
      else []) ++
    (if mentionsSecrets (lowerChars text) then ["secrets"] else []))

def pythonRiskTags (text : List Char) (imports : List String) : List String :=
  let lowered := lowerChars text
  tagSet (importRisks pythonRisks imports ++ textRisks pythonRisks lowered ++
    (if mentionsSecrets lowered then ["secrets"] else []))

/-- TypeScript texts are searched as they are written; only credentials are sought case aside. -/
def typeScriptRiskTags (text : List Char) (imports : List String) : List String :=
  tagSet (importRisks typeScriptRisks imports ++ textRisks typeScriptRisks text ++
    (if mentionsSecrets (lowerChars text) then ["secrets"] else []))

def dartRiskTags (imports : List String) : List String := tagSet (importRisks dartRisks imports)

end SourceAtlas.Tags
