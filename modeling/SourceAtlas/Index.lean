import SourceAtlas.Section
import SourceAtlas.Truncation

/-!
The index of a scan in one of three tiers: a summary for orientation, a structured index by
category, and a full one with details of the files that rank highest. Every tier has a ceiling.
-/
namespace SourceAtlas

open Text

/-- A moment, to the second, with its offset from universal time in seconds if that is known. -/
structure Moment where
  year : Nat
  month : Nat
  day : Nat
  hour : Nat
  minute : Nat
  second : Nat
  offset : Option Int
  deriving BEq, DecidableEq, Repr

namespace Moment

/-- Decimal digits, with zeros in front up to a width. -/
def padded (width n : Nat) : String :=
  let digits := Nat.toDigits 10 n
  .ofList (List.replicate (width - digits.length) '0' ++ digits)

def offsetText (offset : Int) : String :=
  let size := offset.natAbs
  let seconds := size % 60
  (if offset < 0 then "-" else "+") ++ padded 2 (size / 3600) ++ ":" ++ padded 2 (size / 60 % 60) ++
    if seconds = 0 then "" else ":" ++ padded 2 seconds

def text (m : Moment) : String :=
  padded 4 m.year ++ "-" ++ padded 2 m.month ++ "-" ++ padded 2 m.day ++ "T" ++ padded 2 m.hour ++
    ":" ++ padded 2 m.minute ++ ":" ++ padded 2 m.second ++ (m.offset.map offsetText).getD ""

end Moment

/-- How much an index tells. -/
inductive Tier
  | summary
  | structured
  | full
  deriving BEq, DecidableEq, Repr

namespace Tier

def all : List Tier := [.summary, .structured, .full]

def label : Tier → String
  | .summary => "summary"
  | .structured => "structured"
  | .full => "full"

def labels : List String := all.map label

def ofLabel? (text : String) : Option Tier := all.find? (·.label == text)

/-- What is said of a name that is no tier. -/
def unknown (text : String) : String :=
  s!"Unknown output format '{text}'. Expected one of: " ++ join ", " labels

end Tier

/-- What an index is made for: the name of the repository, the languages in it, and the ceiling of
the two larger tiers in kibibytes. -/
structure IndexFrame where
  repository : String
  languages : List String
  ceiling : Int

namespace IndexFrame

/-- The ceiling of the summary, in bytes. -/
def summaryCeiling : Int := 3 * 1024

/-- The most directories and entry points of the summary. -/
def maxAreas : Nat := 8

def maxSummaryEntrypoints : Nat := 5

def sortedLanguages (frame : IndexFrame) : List String := sortTexts frame.languages

def summaryLines (frame : IndexFrame) (scan : ScanResult) (generatedAt : String) : List String :=
  let line := fun (label : String) (items : List String) =>
    if items.isEmpty then [] else ["**" ++ label ++ ":** " ++ join ", " items, ""]
  let areas := ((Section.capabilities scan.tree).take maxAreas).map fun (name, uses) =>
    Section.code (name ++ "/") ++ " (" ++ join ", " uses ++ ")"
  let entries := (Section.entrypoints scan.candidates).take maxSummaryEntrypoints
  Section.header frame.repository "Quick Reference" frame.sortedLanguages scan ++
    line "Main Areas" areas ++
    line "Entry Points" (entries.map fun entry => Section.code entry.path) ++
    line "Frameworks" (Section.frameworks scan.candidates) ++
    [ "Regenerate with `--format structured` or `--format full` for layout and per-file detail,",
      "or run `qmd search` against the registered collection.",
      "",
      Section.stamp generatedAt,
      "" ]

def categoryLines (scan : ScanResult) : List String :=
  Section.categories (categorize (scan.candidates.map (·.path)))

def structuredLines (frame : IndexFrame) (scan : ScanResult) : List String :=
  Section.header frame.repository "Codebase Index" frame.sortedLanguages scan ++
    ["> This index is organized by domain: every indexed file appears in exactly one category.", ""] ++
    Section.layout false scan.tree ++
    Section.entryPoints scan.candidates ++
    categoryLines scan

def fullLines (frame : IndexFrame) (scan : ScanResult) : List String :=
  Section.header frame.repository "Codebase Index" frame.sortedLanguages scan ++
    ["> This index is organized by domain, followed by per-file detail for the highest-ranked files.",
      ""] ++
    Section.layout true scan.tree ++
    Section.capabilityLines scan.tree ++
    Section.entryPoints scan.candidates ++
    Section.keyModules scan.candidates ++
    categoryLines scan ++
    Section.importantFiles scan.candidates ++
    Section.tokenBudget scan.candidates ++
    Section.operationalNotes scan ++
    Section.riskAreas scan.candidates ++
    Section.navigation scan

def renderSummary (frame : IndexFrame) (scan : ScanResult) (moment : Moment) : String × Journal :=
  Truncation.apply (join "\n" (frame.summaryLines scan moment.text)) summaryCeiling

/-- The index of a scan in a tier, and what there is to note. -/
def render (frame : IndexFrame) (scan : ScanResult) (tier : Tier) (moment : Moment) :
    String × Journal :=
  let larger := fun (lines : List String) =>
    Truncation.apply (join "\n" (lines ++ Section.footer moment.text scan)) (frame.ceiling * 1024)
  match tier with
  | .summary => frame.renderSummary scan moment
  | .structured => larger (frame.structuredLines scan)
  | .full => larger (frame.fullLines scan)

end IndexFrame

end SourceAtlas
