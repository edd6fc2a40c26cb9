import SourceAtlas.Adapter
import SourceAtlas.Entry
import SourceAtlas.Site

/-!
Symbols of candidates. Each candidate gets a table from the first bytes of its own file; where there
is no adapter, no file or no success, the table is empty. A path with a NUL stops the reading.
-/
namespace SourceAtlas

open Text

/-- How many bytes from the start of a file are read for symbols. -/
def symbolWindow : Nat := 32 * 1024

namespace SymbolReading

/-- The adapter of a language; of several with one name the last. A file without a language has that
of the empty name. -/
def adapterOf? (adapters : List Adapter) (language : Option String) : Option Adapter :=
  adapters.reverse.find? (·.name == language.getD "")

def attempt (room : Nat) (adapter : Adapter) (path : String) (content : Bytes) :
    SymbolTable × Journal :=
  -- two calls lead from the reading of all candidates to the adapter
  match adapter.read (room - 2) path content with
  | .ok extraction => (extraction.table, extraction.notes)
  | .error reason =>
      ({}, [.debug "extract"
        ("Symbol extraction failed for " ++ path ++ " via " ++ adapter.name ++ ": " ++ reason)])

/-- The symbols of a candidate below a root. A file that is not there or may not be read has none,
but a path that no file can have is a failure. -/
def symbolsOf (room : Nat) (site : Site) (root : Path) (adapters : List Adapter) (entry : Entry) :
    Except PathFault (SymbolTable × Journal) :=
  match adapterOf? adapters entry.language with
  | none => .ok ({}, [])
  | some adapter =>
      let path := root.child entry.path
      if hasNul path then .error .embeddedNul
      else match site.read path with
        | .error error =>
            .ok ({}, [.debug "extract"
              ("Skipping unreadable file " ++ path.toText ++ ": " ++ error.message)])
        | .ok content => .ok (attempt room adapter entry.path (content.take symbolWindow))

def attach (room : Nat) (site : Site) (root : Path) (adapters : List Adapter) :
    List Entry → Except PathFault (List Entry) × Journal
  | [] => (.ok [], [])
  | entry :: rest =>
      match symbolsOf room site root adapters entry with
      | .error fault => (.error fault, [])
      | .ok (table, notes) =>
          let (others, later) := attach room site root adapters rest
          (others.map ({ entry with symbols := some table } :: ·), notes ++ later)

end SymbolReading

end SourceAtlas
