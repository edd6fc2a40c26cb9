import SourceAtlas.Index

/-!
Digests do not show in an index. Every section is made of the paths, the flags, the sizes and the
symbols of entries, so a scan whose entries have lost their digests gives the same text.
-/
namespace SourceAtlas

open Text

def Entry.undigested (entry : Entry) : Entry := { entry with hash := "" }

/-- The result of a scan without the digests of its files. -/
def ScanResult.undigested (scan : ScanResult) : ScanResult :=
  { scan with
    files := scan.files.map .undigested
    candidates := scan.candidates.map .undigested }

namespace Section

section Candidates
variable (candidates : List Entry)

theorem frameworks_undigested :
    frameworks (candidates.map .undigested) = frameworks candidates := by
  unfold frameworks tables
  rw [List.filterMap_map]
  rfl

theorem purpose_undigested : purpose (candidates.map .undigested) = purpose candidates := by
  unfold purpose
  rw [frameworks_undigested]

theorem byPath_undigested :
    byPath (candidates.map .undigested) = (byPath candidates).map .undigested := by
  symm
  exact List.map_mergeSort fun _ _ _ _ => rfl

theorem entrypoints_undigested :
    entrypoints (candidates.map .undigested) = (entrypoints candidates).map .undigested := by
  unfold entrypoints
  rw [List.filter_map, byPath_undigested]
  rfl

theorem entryPoints_undigested :
    entryPoints (candidates.map .undigested) = entryPoints candidates := by
  unfold entryPoints
  simp only [entrypoints_undigested, List.isEmpty_map, List.map_map]
  rfl

theorem modules_undigested : modules (candidates.map .undigested) = modules candidates := by
  unfold modules
  rw [List.map_map]
  rfl

theorem keyModules_undigested :
    keyModules (candidates.map .undigested) = keyModules candidates := by
  unfold keyModules
  rw [modules_undigested]

theorem importantFiles_undigested :
    importantFiles (candidates.map .undigested) = importantFiles candidates := by
  unfold importantFiles
  rw [← List.map_take, List.flatMap_map]
  rfl

theorem budgetLines_undigested (heading : String) :
    budgetLines heading (candidates.map .undigested) = budgetLines heading candidates := by
  unfold budgetLines
  rw [List.isEmpty_map, List.map_map]
  rfl

theorem tokenBudget_undigested :
    tokenBudget (candidates.map .undigested) = tokenBudget candidates := by
  have kept (budget : Budget) : ((byPath candidates).map Entry.undigested).filter
      (·.budget == budget) = ((byPath candidates).filter (·.budget == budget)).map .undigested :=
    List.filter_map
  unfold tokenBudget
  simp only [byPath_undigested, kept, List.isEmpty_map, budgetLines_undigested]

theorem risks_undigested : risks (candidates.map .undigested) = risks candidates := by
  unfold risks
  simp only [List.flatMap_map, List.filter_map, List.map_map]
  rfl

theorem riskAreas_undigested : riskAreas (candidates.map .undigested) = riskAreas candidates := by
  unfold riskAreas
  rw [risks_undigested]

end Candidates

variable (scan : ScanResult)

theorem allPaths_undigested : allPaths scan.undigested = allPaths scan := by
  unfold allPaths ScanResult.undigested
  rw [List.map_map]
  rfl

theorem operationalNotes_undigested :
    operationalNotes scan.undigested = operationalNotes scan := by
  unfold operationalNotes
  rw [allPaths_undigested]

theorem navigation_undigested : navigation scan.undigested = navigation scan := by
  have same : hints scan.undigested = hints scan := by
    unfold hints
    rw [allPaths_undigested]
    simp only [ScanResult.undigested, List.any_map]
    rfl
  unfold navigation
  rw [same]

theorem header_undigested (repository heading : String) (languages : List String) :
    header repository heading languages scan.undigested =
      header repository heading languages scan := by
  unfold header ScanResult.undigested
  rw [purpose_undigested, List.length_map]

end Section

namespace IndexFrame

theorem summaryLines_undigested (frame : IndexFrame) (scan : ScanResult) (generatedAt : String) :
    frame.summaryLines scan.undigested generatedAt = frame.summaryLines scan generatedAt := by
  have candidates : scan.undigested.candidates = scan.candidates.map .undigested := rfl
  unfold summaryLines
  simp only [Section.header_undigested, candidates, Section.entrypoints_undigested,
    Section.frameworks_undigested, ← List.map_take, List.map_map]
  rfl

theorem categoryLines_undigested (scan : ScanResult) :
    categoryLines scan.undigested = categoryLines scan := by
  unfold categoryLines ScanResult.undigested
  rw [List.map_map]
  rfl

theorem render_undigested (frame : IndexFrame) (scan : ScanResult) (tier : Tier)
    (moment : Moment) :
    frame.render scan.undigested tier moment = frame.render scan tier moment := by
  have candidates : scan.undigested.candidates = scan.candidates.map .undigested := rfl
  have tree : scan.undigested.tree = scan.tree := rfl
  have footer (generatedAt : String) :
    Section.footer generatedAt scan.undigested = Section.footer generatedAt scan := rfl
  cases tier with
  | summary =>
      simp only [render, renderSummary, summaryLines_undigested]
  | structured =>
      simp only [render, structuredLines, Section.header_undigested, categoryLines_undigested,
        candidates, tree, footer, Section.entryPoints_undigested]
  | full =>
      simp only [render, fullLines, Section.header_undigested, categoryLines_undigested,
        candidates, tree, footer, Section.entryPoints_undigested, Section.keyModules_undigested,
        Section.importantFiles_undigested, Section.tokenBudget_undigested,
        Section.operationalNotes_undigested, Section.riskAreas_undigested,
        Section.navigation_undigested]

end IndexFrame

end SourceAtlas
