import SourceAtlas.Journal
import SourceAtlas.Text.Utf8

/-!
The ceiling of an index: a text that is too long is cut after a line, and a marker tells so.
-/
namespace SourceAtlas

open Text

def byteSize (text : String) : Nat := (Utf8.encode text).length

namespace Truncation

def marker (limit : Int) : String := s!"*[Index truncated: output exceeded {limit} bytes]*"

def fitting (room : Int) : List String → List String
  | [] => []
  | line :: rest =>
      let size : Int := byteSize line + 1
      if size > room then [] else line :: fitting (room - size) rest

/-- The room for lines under a limit: the marker, two line ends before it and one after it are
spoken for, of which one is that of the last line. -/
def room (limit : Int) : Int := limit - byteSize (marker limit) - 2

/-- A text under a limit of bytes. A limit that is not positive is none. -/
def apply (text : String) (limit : Int) : String × Journal :=
  if limit ≤ 0 || (byteSize text : Int) ≤ limit then (text, [])
  else
    (join "\n" (fitting (room limit) (split '\n' text)) ++ "\n\n" ++ marker limit ++ "\n",
      [.warning "synthesis" s!"Index output exceeded {limit} bytes; truncated"])

end Truncation

end SourceAtlas
