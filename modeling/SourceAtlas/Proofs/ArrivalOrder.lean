import SourceAtlas.Proofs.CountedText

/-!
The order in which things were found does not show in an index. Every section sorts what it lists,
or only counts it or asks whether it is there; so rearranging the files of a scan, and the files and
directories of any node of its tree, leaves every tier as it is. The section on important files
alone follows the order of the candidates.
-/
namespace SourceAtlas

open Text

namespace DirNode

inductive Apart : DirNode → Prop
  | node {name path : String} {depth : Nat} {files : List String} {children : List DirNode}
      (names : (children.map DirNode.name).Nodup) (below : ∀ child ∈ children, child.Apart) :
      Apart (.mk name path depth files children)

/-- The second tree is the first one after the files and the directories of some of its nodes have
been rearranged. -/
inductive Reordered : DirNode → DirNode → Prop
  | files {name path : String} {depth : Nat} {files others : List String}
      {children : List DirNode} (perm : files.Perm others) :
      Reordered (.mk name path depth files children) (.mk name path depth others children)
  | children {name path : String} {depth : Nat} {files : List String}
      {children others : List DirNode} (perm : children.Perm others) :
      Reordered (.mk name path depth files children) (.mk name path depth files others)
  | within {name path : String} {depth : Nat} {files : List String} {before after : List DirNode}
      {child other : DirNode} (inside : Reordered child other) :
      Reordered (.mk name path depth files (before ++ child :: after))
        (.mk name path depth files (before ++ other :: after))
  | trans {first second third : DirNode} (left : Reordered first second)
      (right : Reordered second third) : Reordered first third

namespace Reordered
variable {a b : DirNode}

theorem name_eq (reordered : Reordered a b) : b.name = a.name := by
  induction reordered with
  | files | children | within => rfl
  | trans _ _ first second => rw [second, first]

theorem childNames_perm (reordered : Reordered a b) :
    (a.children.map DirNode.name).Perm (b.children.map DirNode.name) := by
  induction reordered with
  | files => exact .refl _
  | children perm => exact perm.map _
  | within inside _ =>
      simp only [DirNode.children, List.map_append, List.map_cons, inside.name_eq]
      exact .refl _
  | trans _ _ first second => exact first.trans second

theorem apart (reordered : Reordered a b) (apart : a.Apart) : b.Apart := by
  induction reordered with
  | files =>
      cases apart with
      | node names below => exact .node names below
  | children perm =>
      cases apart with
      | node names below =>
          exact .node ((perm.map DirNode.name).nodup_iff.mp names) fun child member =>
            below child (perm.mem_iff.mpr member)
  | @within _ _ _ _ _ _ child _ inside ih =>
      cases apart with
      | node names below =>
          refine .node ?_ fun sibling member => ?_
          · simpa only [List.map_append, List.map_cons, inside.name_eq] using names
          rcases List.mem_append.mp member with earlier | later
          · exact below sibling (List.mem_append_left _ earlier)
          · rcases List.mem_cons.mp later with rfl | after
            · exact ih (below child (List.mem_append_right _ List.mem_cons_self))
            · exact below sibling (List.mem_append_right _ (List.mem_cons_of_mem _ after))
  | trans _ _ first second => exact second (first apart)

end Reordered

end DirNode

namespace Section

theorem flatMap_sortedChildren {α : Type} (make : DirNode → List α) (children : List DirNode) :
    (sortedChildren children).flatMap make =
      ((children.map fun child => (child.name, make child)).mergeSort
        fun a b => precedes a.1 b.1).flatMap Prod.snd := by
  have sorted : (sortedChildren children).map (fun child => (child.name, make child)) =
      (children.map fun child => (child.name, make child)).mergeSort
        fun a b => precedes a.1 b.1 :=
    List.map_mergeSort fun _ _ _ _ => rfl
  rw [← sorted, List.flatMap_map]

theorem sortedChildren_eq_of_perm {children others : List DirNode} (perm : children.Perm others)
    (names : (children.map DirNode.name).Nodup) :
    sortedChildren children = sortedChildren others :=
  mergeSort_eq_of_perm DirNode.name perm fun _ left _ right same =>
    List.inj_on_of_nodup_map names left right same

theorem fileLines_eq_of_perm (indent : String) {files others : List String}
    (perm : files.Perm others) : fileLines indent files = fileLines indent others := by
  unfold fileLines
  rw [sortTexts_eq_of_perm perm]

def ownLines (withFiles : Bool) (indent name : String) (files : List String) : List String :=
  if withFiles then (indent ++ name ++ "/") :: fileLines indent files
  else [indent ++ name ++ "/" ++ if files.isEmpty then "" else s!" ({files.length} files)"]

theorem ownLines_eq_of_perm (withFiles : Bool) (indent name : String) {files others : List String}
    (perm : files.Perm others) :
    ownLines withFiles indent name files = ownLines withFiles indent name others := by
  unfold ownLines
  rw [fileLines_eq_of_perm indent perm, perm.length_eq, perm.isEmpty_eq]

theorem treeLines_mk (withFiles : Bool) (levels : Nat) (indent name path : String) (depth : Nat)
    (files : List String) (children : List DirNode) :
    treeLines withFiles (levels + 1) indent (.mk name path depth files children) =
      ownLines withFiles indent name files ++
        (sortedChildren children).flatMap (treeLines withFiles levels (indent ++ "  ")) := rfl

theorem treeLines_eq {a b : DirNode} (reordered : a.Reordered b) (apart : a.Apart)
    (withFiles : Bool) (levels : Nat) (indent : String) :
    treeLines withFiles levels indent b = treeLines withFiles levels indent a := by
  -- on the rearrangement; below the directory that it touches there is one level less to show
  induction reordered generalizing levels indent with
  | files perm =>
      cases levels with
      | zero => rfl
      | succ levels => rw [treeLines_mk, treeLines_mk, ownLines_eq_of_perm withFiles indent _ perm]
  | children perm =>
      cases apart with
      | node names _ =>
          cases levels with
          | zero => rfl
          | succ levels =>
              rw [treeLines_mk, treeLines_mk, sortedChildren_eq_of_perm perm names]
  | @within _ _ _ _ _ _ child _ inside ih =>
      cases apart with
      | node _ below =>
          cases levels with
          | zero => rfl
          | succ levels =>
              have same := ih (below child (List.mem_append_right _ List.mem_cons_self)) levels
                (indent ++ "  ")
              simp only [treeLines_mk, flatMap_sortedChildren, List.map_append, List.map_cons,
                inside.name_eq, same]
  | trans left _ first second =>
      rw [second (left.apart apart), first apart]

theorem capabilities_eq (tree : DirNode) :
    capabilities tree = (sortTexts (tree.children.map DirNode.name)).foldl (fun found name =>
      match directoryUses? name with
      | some uses => assign name uses found
      | none => found) [] := by
  have sorted : (sortedChildren tree.children).map DirNode.name =
      sortTexts (tree.children.map DirNode.name) := List.map_mergeSort fun _ _ _ _ => rfl
  rw [← sorted, List.foldl_map]
  rfl

theorem capabilities_eq_of_reordered {a b : DirNode} (reordered : a.Reordered b) :
    capabilities b = capabilities a := by
  rw [capabilities_eq, capabilities_eq, sortTexts_eq_of_perm reordered.childNames_perm]

section Candidates

variable {candidates others : List Entry}

theorem frameworks_eq_of_perm (perm : candidates.Perm others) :
    frameworks others = frameworks candidates := by
  refine sortTexts_distinct_congr fun text => ?_
  exact ((perm.symm.filterMap _).flatMap_right _).mem_iff

theorem purpose_eq_of_perm (perm : candidates.Perm others) :
    purpose others = purpose candidates := by
  unfold purpose
  rw [frameworks_eq_of_perm perm]

theorem byPath_eq_of_perm (perm : candidates.Perm others)
    (paths : (candidates.map Entry.path).Nodup) : byPath others = byPath candidates :=
  (mergeSort_eq_of_perm Entry.path perm fun _ left _ right same =>
    List.inj_on_of_nodup_map paths left right same).symm

theorem entrypoints_eq_of_perm (perm : candidates.Perm others)
    (paths : (candidates.map Entry.path).Nodup) : entrypoints others = entrypoints candidates :=
  byPath_eq_of_perm (perm.filter _) ((List.filter_sublist.map Entry.path).nodup paths)

theorem entryPoints_eq_of_perm (perm : candidates.Perm others)
    (paths : (candidates.map Entry.path).Nodup) : entryPoints others = entryPoints candidates := by
  unfold entryPoints
  rw [entrypoints_eq_of_perm perm paths]

theorem tokenBudget_eq_of_perm (perm : candidates.Perm others)
    (paths : (candidates.map Entry.path).Nodup) : tokenBudget others = tokenBudget candidates := by
  unfold tokenBudget
  rw [byPath_eq_of_perm perm paths]

theorem modules_eq_of_perm (perm : candidates.Perm others) :
    modules others = modules candidates := by
  have paths := perm.map Entry.path
  have names : sortTexts (distinct ((others.map Entry.path).filterMap firstDirectory?)) =
      sortTexts (distinct ((candidates.map Entry.path).filterMap firstDirectory?)) :=
    sortTexts_distinct_congr fun text => (paths.symm.filterMap _).mem_iff
  have members (name : String) :
      sortTexts ((others.map Entry.path).filter fun path => firstDirectory? path == some name) =
        sortTexts ((candidates.map Entry.path).filter fun path =>
          firstDirectory? path == some name) :=
    sortTexts_eq_of_perm (paths.symm.filter _)
  unfold modules
  simp only [names, members]

theorem keyModules_eq_of_perm (perm : candidates.Perm others) :
    keyModules others = keyModules candidates := by
  unfold keyModules
  rw [modules_eq_of_perm perm]

theorem risks_eq_of_perm (perm : candidates.Perm others) : risks others = risks candidates := by
  have tags : sortTexts (distinct (others.flatMap fun entry =>
        (entry.symbols.map (·.risks)).getD [])) =
      sortTexts (distinct (candidates.flatMap fun entry =>
        (entry.symbols.map (·.risks)).getD [])) :=
    sortTexts_distinct_congr fun text => (perm.symm.flatMap_right _).mem_iff
  have members (tag : String) :
      sortTexts (distinct ((others.filter fun entry =>
        ((entry.symbols.map (·.risks)).getD []).contains tag).map Entry.path)) =
      sortTexts (distinct ((candidates.filter fun entry =>
        ((entry.symbols.map (·.risks)).getD []).contains tag).map Entry.path)) :=
    sortTexts_distinct_congr fun text => ((perm.symm.filter _).map _).mem_iff
  unfold risks
  simp only [tags, members]

theorem riskAreas_eq_of_perm (perm : candidates.Perm others) :
    riskAreas others = riskAreas candidates := by
  unfold riskAreas
  rw [risks_eq_of_perm perm]

theorem categorize_eq_of_perm {paths more : List String} (perm : paths.Perm more) :
    categorize more = categorize paths := by
  have members (name : String) : sortTexts (more.filter fun path => categoryOf path == name) =
      sortTexts (paths.filter fun path => categoryOf path == name) :=
    sortTexts_eq_of_perm (perm.symm.filter _)
  unfold categorize
  simp only [members]

end Candidates

end Section

/-- The results of one scan, with what they list in some other order. -/
structure ScanResult.Reordered (a b : ScanResult) : Prop where
  files : a.files.Perm b.files
  candidates : a.candidates.Perm b.candidates
  tree : a.tree.Reordered b.tree
  others : a.otherFiles.Perm b.otherFiles
  totalFiles : b.totalFiles = a.totalFiles
  elapsed : b.elapsed = a.elapsed

namespace Section

variable {a b : ScanResult}

theorem allPaths_perm_of_reordered (reordered : a.Reordered b) :
    (allPaths a).Perm (allPaths b) :=
  (reordered.files.map _).append reordered.others

theorem operationalNotes_of_reordered (reordered : a.Reordered b) :
    operationalNotes b = operationalNotes a := by
  have same : operational (allPaths b) = operational (allPaths a) :=
    operational_congr fun _ _ _ _ => (allPaths_perm_of_reordered reordered).symm.mem_iff
  unfold operationalNotes
  rw [same]

theorem navigation_of_reordered (reordered : a.Reordered b) : navigation b = navigation a := by
  have top (name : String) : (b.tree.children.map DirNode.name).contains name =
      (a.tree.children.map DirNode.name).contains name :=
    reordered.tree.childNames_perm.symm.contains_eq
  have languages (name : String) : b.files.any (·.language == some name) =
      a.files.any (·.language == some name) := reordered.files.symm.any_eq
  have tests : ((allPaths b).filter isTestFile).length =
      ((allPaths a).filter isTestFile).length :=
    ((allPaths_perm_of_reordered reordered).symm.filter _).length_eq
  have same : hints b = hints a := by
    unfold hints
    simp only [top, languages, tests]
  unfold navigation
  rw [same]

theorem header_of_reordered (reordered : a.Reordered b) (repository heading : String)
    (languages : List String) :
    header repository heading languages b = header repository heading languages a := by
  unfold header
  rw [purpose_eq_of_perm reordered.candidates, reordered.candidates.length_eq,
    reordered.totalFiles]

theorem layout_of_reordered (reordered : a.Reordered b) (apart : a.tree.Apart)
    (withFiles : Bool) : layout withFiles b.tree = layout withFiles a.tree := by
  unfold layout
  rw [treeLines_eq reordered.tree apart]

theorem footer_of_reordered (reordered : a.Reordered b) (generatedAt : String) :
    footer generatedAt b = footer generatedAt a := by
  unfold footer
  rw [reordered.elapsed]

end Section

namespace IndexFrame

def beforeImportant (frame : IndexFrame) (scan : ScanResult) : List String :=
  Section.header frame.repository "Codebase Index" frame.sortedLanguages scan ++
    ["> This index is organized by domain, followed by per-file detail for the highest-ranked files.",
      ""] ++
    Section.layout true scan.tree ++
    Section.capabilityLines scan.tree ++
    Section.entryPoints scan.candidates ++
    Section.keyModules scan.candidates ++
    categoryLines scan

def afterImportant (scan : ScanResult) (moment : Moment) : List String :=
  Section.tokenBudget scan.candidates ++
    Section.operationalNotes scan ++
    Section.riskAreas scan.candidates ++
    Section.navigation scan ++
    Section.footer moment.text scan

theorem allLines_full (frame : IndexFrame) (scan : ScanResult) (moment : Moment) :
    frame.allLines scan moment .full = frame.beforeImportant scan ++
      Section.importantFiles scan.candidates ++ afterImportant scan moment := by
  simp only [allLines, fullLines, beforeImportant, afterImportant, List.append_assoc]

variable {a b : ScanResult}

theorem categoryLines_of_reordered (reordered : a.Reordered b) :
    categoryLines b = categoryLines a := by
  unfold categoryLines
  rw [Section.categorize_eq_of_perm (reordered.candidates.map _)]

theorem summaryLines_of_reordered (frame : IndexFrame) (reordered : a.Reordered b)
    (paths : (a.candidates.map Entry.path).Nodup) (generatedAt : String) :
    frame.summaryLines b generatedAt = frame.summaryLines a generatedAt := by
  unfold summaryLines
  rw [Section.header_of_reordered reordered,
    Section.capabilities_eq_of_reordered reordered.tree,
    Section.entrypoints_eq_of_perm reordered.candidates paths,
    Section.frameworks_eq_of_perm reordered.candidates]

theorem structuredLines_of_reordered (frame : IndexFrame) (reordered : a.Reordered b)
    (paths : (a.candidates.map Entry.path).Nodup) (siblings : a.tree.Apart) :
    frame.structuredLines b = frame.structuredLines a := by
  unfold structuredLines
  rw [Section.header_of_reordered reordered, Section.layout_of_reordered reordered siblings,
    Section.entryPoints_eq_of_perm reordered.candidates paths,
    categoryLines_of_reordered reordered]

theorem beforeImportant_of_reordered (frame : IndexFrame) (reordered : a.Reordered b)
    (paths : (a.candidates.map Entry.path).Nodup) (siblings : a.tree.Apart) :
    frame.beforeImportant b = frame.beforeImportant a := by
  unfold beforeImportant Section.capabilityLines
  rw [Section.header_of_reordered reordered, Section.layout_of_reordered reordered siblings,
    Section.capabilities_eq_of_reordered reordered.tree,
    Section.entryPoints_eq_of_perm reordered.candidates paths,
    Section.keyModules_eq_of_perm reordered.candidates, categoryLines_of_reordered reordered]

theorem afterImportant_of_reordered (reordered : a.Reordered b)
    (paths : (a.candidates.map Entry.path).Nodup) (moment : Moment) :
    afterImportant b moment = afterImportant a moment := by
  unfold afterImportant
  rw [Section.tokenBudget_eq_of_perm reordered.candidates paths,
    Section.operationalNotes_of_reordered reordered,
    Section.riskAreas_eq_of_perm reordered.candidates,
    Section.navigation_of_reordered reordered, Section.footer_of_reordered reordered]

/-- Rearranging the files of a scan, its other files, and the files and directories of any node of
its tree changes no tier. Rearranging the candidates as well changes neither the summary nor the
structured index, and of the lines that a full index has before it is cut only those on important
files. -/
theorem render_of_reordered (frame : IndexFrame) (moment : Moment) (reordered : a.Reordered b)
    (paths : (a.candidates.map Entry.path).Nodup) (siblings : a.tree.Apart) :
    (b.candidates = a.candidates →
      ∀ tier, frame.render b tier moment = frame.render a tier moment) ∧
    frame.render b .summary moment = frame.render a .summary moment ∧
    frame.render b .structured moment = frame.render a .structured moment ∧
    ∃ before after,
      frame.render a .full moment = Truncation.apply
        (join "\n" (before ++ Section.importantFiles a.candidates ++ after))
        (frame.ceiling * 1024) ∧
      frame.render b .full moment = Truncation.apply
        (join "\n" (before ++ Section.importantFiles b.candidates ++ after))
        (frame.ceiling * 1024) := by
  have summary : frame.render b .summary moment = frame.render a .summary moment := by
    simp only [render_eq, allLines, frame.summaryLines_of_reordered reordered paths]
  have structured : frame.render b .structured moment = frame.render a .structured moment := by
    simp only [render_eq, allLines, frame.structuredLines_of_reordered reordered paths siblings,
      Section.footer_of_reordered reordered]
  have full : frame.allLines b moment .full = frame.beforeImportant a ++
      Section.importantFiles b.candidates ++ afterImportant a moment := by
    rw [allLines_full, frame.beforeImportant_of_reordered reordered paths siblings,
      afterImportant_of_reordered reordered paths]
  refine ⟨fun same tier => ?_, summary, structured, frame.beforeImportant a,
    afterImportant a moment, ?_, ?_⟩
  · cases tier with
    | summary => exact summary
    | structured => exact structured
    | full => rw [render_eq, render_eq, full, same, ← allLines_full]
  · rw [render_eq, allLines_full]
    rfl
  · rw [render_eq, full]
    rfl

def earlyScan : ScanResult where
  files := [{ path := "b/x.py" }, { path := "a/main.py", isEntrypoint := true }]
  candidates := [{ path := "b/x.py" }, { path := "a/main.py", isEntrypoint := true }]
  tree := .mk "." "" 0 [] [.mk "b" "b" 1 ["x.py", "w.py"] [], .mk "a" "a" 1 ["main.py"] []]
  otherFiles := ["b/t", "a/s"]
  totalFiles := 4

def lateScan : ScanResult where
  files := [{ path := "a/main.py", isEntrypoint := true }, { path := "b/x.py" }]
  candidates := [{ path := "a/main.py", isEntrypoint := true }, { path := "b/x.py" }]
  tree := .mk "." "" 0 [] [.mk "a" "a" 1 ["main.py"] [], .mk "b" "b" 1 ["w.py", "x.py"] []]
  otherFiles := ["a/s", "b/t"]
  totalFiles := 4

theorem earlyScan_reordered : earlyScan.Reordered lateScan where
  files := .swap _ _ _
  candidates := .swap _ _ _
  tree := by
    have inside : (DirNode.mk "b" "b" 1 ["x.py", "w.py"] []).Reordered
        (.mk "b" "b" 1 ["w.py", "x.py"] []) := .files (.swap _ _ _)
    have first (before after : List DirNode) :
        (DirNode.mk "." "" 0 [] (before ++ .mk "b" "b" 1 ["x.py", "w.py"] [] :: after)).Reordered
          (.mk "." "" 0 [] (before ++ .mk "b" "b" 1 ["w.py", "x.py"] [] :: after)) :=
      .within inside
    exact (first [] [.mk "a" "a" 1 ["main.py"] []]).trans (.children (.swap _ _ _))
  others := .swap _ _ _
  totalFiles := rfl
  elapsed := rfl

theorem earlyScan_apart : earlyScan.tree.Apart := by
  refine .node (by decide) fun child member => ?_
  rcases List.mem_cons.mp member with rfl | later
  · exact .node List.nodup_nil fun _ none => absurd none List.not_mem_nil
  · rw [List.mem_singleton.mp later]
    exact .node List.nodup_nil fun _ none => absurd none List.not_mem_nil

theorem lateScan_renders_as_earlyScan :
    earlyScan.Reordered lateScan ∧ (earlyScan.candidates.map Entry.path).Nodup ∧
      earlyScan.tree.Apart ∧ lateScan.candidates ≠ earlyScan.candidates ∧
      (⟨"repo", ["python"], 1⟩ : IndexFrame).render lateScan .structured
          ⟨2026, 1, 2, 3, 4, 5, some 0⟩ =
        (⟨"repo", ["python"], 1⟩ : IndexFrame).render earlyScan .structured
          ⟨2026, 1, 2, 3, 4, 5, some 0⟩ := by
  have paths : (earlyScan.candidates.map Entry.path).Nodup := by decide
  obtain ⟨_, _, structured, _⟩ := render_of_reordered ⟨"repo", ["python"], 1⟩
    ⟨2026, 1, 2, 3, 4, 5, some 0⟩ earlyScan_reordered paths earlyScan_apart
  exact ⟨earlyScan_reordered, paths, earlyScan_apart, by decide, structured⟩

end IndexFrame

end SourceAtlas
