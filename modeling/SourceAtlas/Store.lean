import SourceAtlas.Envelope
import SourceAtlas.Act

/-!
Where an index is kept: at a path of its own, in the directory it describes, in the home directory,
or in both. The first destination must succeed; a copy that fails is only noted. A sealed index has
a name that tells so, and its plain text is written nowhere.
-/
namespace SourceAtlas

open Text

/-- The bytes that a seal is made with. -/
structure Entropy where
  salt : Bytes
  nonce : Bytes

structure Store where
  root : Path
  slug : String
  outputPath : Option String := none
  location : String := "repo"
  encrypt : Bool := false
  key : Option Points := none
  home : Path

namespace Store

def directoryName : String := ".codeindex"

def sealedEnding : String := ".enc"

def fileName (store : Store) : String := store.slug ++ "_INDEX.md"

def repositoryPath (store : Store) : Path := (store.root.child directoryName).child store.fileName

def homePath (store : Store) : Path := (store.home.child directoryName).child store.fileName

def isKnown (store : Store) : Bool := storeNames.contains store.location

def primary (store : Store) (site : Site) : Except PathFault Path :=
  match store.outputPath.filter (!·.isEmpty) with
  | some text => do
      let custom ← site.expandHome (.ofText text)
      return store.root.append custom
  | none => .ok (if store.location == "config" then store.homePath else store.repositoryPath)

def secondary (store : Store) (site : Site) : Except PathFault (List Path) :=
  if store.location ≠ "both" then .ok []
  else do
    let first ← store.primary site
    return [store.repositoryPath, store.homePath].filter (· ≠ first)

def target (store : Store) (path : Path) : Except PathFault Path :=
  if !store.encrypt then .ok path
  else if path.name.isEmpty then .error (.emptyName path.toText)
  else .ok (path.withName (path.name ++ sealedEnding))

/-- Writes a file, its directory being made first. What was made before a failure stays. -/
def writeFile (site : Site) (path : Path) (content : Bytes) : Site × Except WriteFault Unit :=
  if hasNul path.parent then (site, .error (.path .embeddedNul))
  else match site.makeDirectories path.parent with
    | (site, .error error) => (site, .error (.os error))
    | (site, .ok ()) =>
        if hasNul path then (site, .error (.path .embeddedNul)) else site.write path content

/-- What is noted of a copy that could not be written. -/
def copyWarning (path : Path) (reason : String) : Record :=
  .warning "stores.output" ("Failed to write secondary copy to " ++ path.toText ++ ": " ++ reason)

def writeCopy (content : Bytes) (path : Path) : Act Unit := do
  let (site, result) := writeFile (← Act.site) path content
  Act.setSite site
  match result with
  | .ok () => Act.note (.debug "stores.output" ("Wrote secondary copy to " ++ path.toText))
  | .error (.os error) => Act.note (copyWarning path error.message)
  | .error (.cut fault) => Act.note (copyWarning path fault.message)
  | .error (.path fault) => Act.fail (.path fault)

def ofPath {α : Type} : Except PathFault α → Act α
  | .ok a => return a
  | .error fault => Act.fail (.path fault)

/-- What is written for a text: the text, or its sealed form. -/
def payload (store : Store) (entropy : Entropy) (content : String) : Except Failure Bytes :=
  if !store.encrypt then .ok (Utf8.encode content)
  else match store.key.filter (!·.isEmpty) with
    | none => .error .keyMissing
    | some key =>
        match Envelope.sealText key entropy.salt entropy.nonce (Utf8.encode content) with
        | .ok token => .ok (Utf8.encode token)
        | .error fault => .error (.unsealed fault)

/-- Writes an index and gives the path of its first destination. -/
def write (store : Store) (entropy : Entropy) (content : String) : Act Path := do
  match store.payload entropy content with
  | .error failure => Act.fail failure
  | .ok bytes =>
      let site ← Act.site
      let first ← ofPath (do store.target (← store.primary site))
      let (site, result) := writeFile site first bytes
      Act.setSite site
      match result with
      | .error fault => Act.fail (.ofWrite fault)
      | .ok () =>
          Act.note (.info "stores.output" ("Wrote index to " ++ first.toText))
          for path in ← ofPath (store.secondary site) do
            writeCopy bytes (← ofPath (store.target path))
          return first

end Store

end SourceAtlas
