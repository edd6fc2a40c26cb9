import SourceAtlas.Proofs.IndexingValue
import SourceAtlas.Proofs.WrittenFile

/-!
A scan of a place where a file has been written that is not to be read. It finds the same entries
and the same tree as the scan before, and one more file where the walk counts it.
-/
namespace SourceAtlas

open Text

/-- The second result has some more files than the first one, and shows the same entries. -/
structure ScanResult.Widens (added : List String) (a b : ScanResult) : Prop where
  files : b.files = a.files
  candidates : b.candidates = a.candidates
  tree : b.tree = a.tree
  others : b.otherFiles.Perm (added ++ a.otherFiles)
  total : b.totalFiles = added.length + a.totalFiles
  elapsed : b.elapsed = a.elapsed

theorem Findings.Grows.assemble {deep : Nat} {added : List String} {f g : Findings}
    (grows : Grows deep added f g) (entries : List Entry) (maxCandidates : Int) :
    (Scan.assemble f entries maxCandidates).Widens added
      (Scan.assemble g entries maxCandidates) where
  files := rfl
  candidates := rfl
  tree := by
    unfold Scan.assemble
    rw [grows.files, grows.children]
  others := (List.mergeSort_perm _ _).trans
    (grows.others.trans ((List.mergeSort_perm _ _).symm.append_left added))
  total := by
    have total := grows.total
    unfold Scan.assemble
    dsimp only
    omega
  elapsed := rfl

theorem Scan.process_congr {first second : Walk} (root : second.root = first.root)
    (locked : second.site.locked = first.site.locked) {item : WorkItem}
    (read : second.site.read (.ofPlace (first.root ++ (Path.ofText item.path).names)) =
      first.site.read (.ofPlace (first.root ++ (Path.ofText item.path).names)))
    (adapters : List Adapter) (priority : List Rule) (hashAlgorithm : String) :
    Scan.process second adapters priority hashAlgorithm item =
      Scan.process first adapters priority hashAlgorithm item := by
  unfold Scan.process Walk.placeOf Site.isLocked
  simp only [root, locked, read]

namespace Written
variable {site : Site} {place : Place} {directory name : String}
  (written : Written site place directory name)

theorem stands_of_work {rules : ScanRules} (proper : site.root.Proper)
    (unread : rules.isEligible name = false) {path : String}
    (member : path ∈ ((⟨site, place, rules⟩ : Walk).all written.entries).work.map (·.path)) :
    ∃ names item, path = join "/" names ∧ ProperNames names ∧
      site.root.get? (place ++ names) = some item ∧
        ¬written.parent ++ [written.last] <+: place ++ names := by
  have whole := (proper.of_get? written.found).2
  have selected := (Walk.mem_paths_iff ⟨site, place, rules⟩ whole true path).mp member
  obtain ⟨⟨text, file, _, _⟩, eligible⟩ := selected
  obtain ⟨item, stands⟩ : ∃ item,
      (Item.directory written.entries).get? (Path.ofText path).names = some item := by
    rcases file with ⟨content, found⟩ | ⟨⟨target, found⟩, _⟩
    · exact ⟨_, found⟩
    · exact ⟨_, found⟩
  have there : site.root.get? (place ++ (Path.ofText path).names) = some item := by
    rw [Item.get?_append, written.found]
    exact stands
  refine ⟨(Path.ofText path).names, item, text.symm, (whole.of_get? stands).1, there, ?_⟩
  rintro ⟨more, same⟩
  rw [← same] at there
  have only := same.symm.trans (written.before more item there)
  rw [List.append_cancel_left_eq] at only
  rw [Path.name, only] at eligible
  exact absurd eligible (by simp [unread])

theorem read_of_work {rules : ScanRules} (proper : site.root.Proper)
    (unread : rules.isEligible name = false) {path : String}
    (member : path ∈ ((⟨site, place, rules⟩ : Walk).all written.entries).work.map (·.path)) :
    written.after.read (.ofPlace (place ++ (Path.ofText path).names)) =
        site.read (.ofPlace (place ++ (Path.ofText path).names)) ∧
      (Path.ofPlace place).child path = .ofPlace (place ++ (Path.ofText path).names) := by
  obtain ⟨names, item, rfl, named, stands, outside⟩ :=
    written.stands_of_work proper unread member
  rw [named.ofText_join]
  have down : ".." ∉ place ++ names := (proper.of_get? stands).1.down
  have agree : Agree site.root written.tree (site.namesOf (.ofPlace (place ++ names))) :=
    written.twins.agree_item stands down outside
  exact ⟨agree.read_eq, named.child (.ofPlace place)⟩

end Written

namespace ScanThreads

def walkAt (site : Site) (place : Place) (request : ScanRequest) : Walk where
  site := site
  root := place
  rules := .compile (byName request.adapters) request.overrides
    (Scan.ignoreFile site (.ofPlace place)).1

theorem settle_resolved {site : Site} {shown : String} {path : Path} {place : Place}
    {entries : List (String × Item)} (home : site.expandHome (.ofText shown) = .ok path)
    (resolved : site.resolve path = .ok (.ofPlace place))
    (fits : Fits (.ofPlace place)) (down : ".." ∉ place)
    (found : site.root.get? place = some (.directory entries)) (request : ScanRequest) :
    settle site shown request =
      .ok ⟨request, walkAt site place request, site.list (.ofPlace place)⟩ := by
  unfold settle
  rw [home]
  change ((site.resolve path).mapError Failure.path >>= _) = _
  rw [resolved]
  change settleAt site _ request (.ofPlace place) = _
  unfold settleAt
  rw [Site.exists_directory fits down found, Site.isDirectory_directory fits down found]
  rfl

theorem settle_directory {site : Site} {place : Place} {entries : List (String × Item)}
    (names : ProperNames place) (fits : Fits (.ofPlace place))
    (found : site.root.get? place = some (.directory entries)) (request : ScanRequest) :
    settle site (Path.ofPlace place).toText request =
      .ok ⟨request, walkAt site place request, site.list (.ofPlace place)⟩ := by
  have read : Path.ofText (Path.ofPlace place).toText = .ofPlace place := names.ofText_toText
  have home : site.expandHome (.ofText (Path.ofPlace place).toText) = .ok (.ofPlace place) := by
    rw [read]
    rfl
  exact settle_resolved home (Site.resolve_directory fits names.down found) fits names.down found
    request

variable {site : Site} {place : Place} {directory name : String}
  (written : Written site place directory name) {request : ScanRequest}

theorem walkAt_after (proper : site.root.Proper) (other : written.last ≠ ".gitignore") :
    walkAt written.after place request = (walkAt site place request).withTree written.tree := by
  unfold walkAt
  rw [written.ignoreFile_eq proper other]
  rfl

theorem callsFor_le {room : Nat} {f g : Findings} {added : List String}
    (grows : Findings.Grows 1 added f g) (enough : Scan.callsFor f.levels ≤ room) :
    Scan.callsFor g.levels ≤ room := by
  have levels := grows.levels
  unfold Scan.callsFor at enough ⊢
  omega

theorem process_withTree (proper : site.root.Proper) {listing : Except OsError _}
    (unread : (walkAt site place request).rules.isEligible name = false) {item : WorkItem}
    (member : item ∈ ((walkAt site place request).all written.entries).work) :
    Setting.process ⟨request, (walkAt site place request).withTree written.tree, listing⟩ item =
      Setting.process ⟨request, walkAt site place request, listing⟩ item := by
  have read := (written.read_of_work proper unread (List.mem_map_of_mem member)).1
  unfold Setting.process
  apply Scan.process_congr
  · rfl
  · rfl
  · exact read

theorem path_of_mem_candidates {request : ScanRequest} {walk : Walk}
    {entries : List (String × Item)} {result : ScanResult}
    (scanned : Setting.sequential ⟨request, walk, .ok entries⟩ = .ok result) :
    ∀ entry ∈ result.candidates, entry.path ∈ (walk.all entries).work.map (·.path) := by
  intro entry member
  obtain ⟨item, listed, made⟩ := Setting.exists_item_of_shown scanned (.inr member)
  rw [Setting.path_of_process made]
  exact List.mem_map_of_mem listed

theorem rescan (proper : site.root.Proper) (fits : Fits (.ofPlace place))
    (other : written.last ≠ ".gitignore")
    (unread : (walkAt site place request).rules.isEligible name = false) {result : ScanResult}
    (scanned : settle site (Path.ofPlace place).toText request >>= Setting.sequential =
      .ok result) :
    (∀ entry ∈ result.candidates, entry.path ∈
      ((walkAt site place request).all written.entries).work.map (·.path)) ∧
    (∃ total : Nat, result.totalFiles = total) ∧
    ∃ again, settle written.after (Path.ofPlace place).toText request >>= Setting.sequential =
        .ok again ∧
      result.Widens ((walkAt site place request).added directory name
        (site.root.get? (place ++ [directory, name]))) again := by
  let walk := walkAt site place request
  have names := (proper.of_get? written.found).1
  have before : settle site (Path.ofPlace place).toText request =
      .ok ⟨request, walk, site.list (.ofPlace place)⟩ :=
    settle_directory names fits written.found request
  have later : settle written.after (Path.ofPlace place).toText request =
      .ok ⟨request, walk.withTree written.tree, written.after.list (.ofPlace place)⟩ := by
    rw [← walkAt_after written proper other]
    exact settle_directory names fits written.there request
  rw [before, written.list_before proper fits] at scanned
  rw [later, written.list_after proper fits]
  change Setting.sequential _ = _ at scanned
  change _ ∧ _ ∧ ∃ again, Setting.sequential _ = _ ∧ _
  have listed : site.isLocked place = false := by
    cases locked : site.isLocked place with
    | false => rfl
    | true =>
        rw [locked] at scanned
        cases scanned
  rw [listed, if_neg Bool.false_ne_true] at scanned ⊢
  refine ⟨path_of_mem_candidates scanned, ?_⟩
  obtain ⟨_, shallow, rfl⟩ := Setting.sequential_eq_ok_iff.mp scanned
  refine ⟨⟨(walk.all written.entries).totalFiles, rfl⟩, ?_⟩
  have grows := written.grows walk rfl rfl unread
  have same : Scan.processAll
      (Setting.process ⟨request, walk.withTree written.tree,
        .ok (Item.putEntry directory written.item written.entries)⟩)
      (walk.all written.entries).work =
        Scan.processAll (Setting.process ⟨request, walk, .ok written.entries⟩)
          (walk.all written.entries).work := by
    unfold Scan.processAll
    rw [List.map_congr_left fun item member => congrArg (item, ·)
      (process_withTree written proper unread member)]
    rfl
  refine ⟨_, Setting.sequential_listed rfl (callsFor_le grows shallow), ?_⟩
  unfold Setting.result
  change ScanResult.Widens _ _
    (Scan.assemble (Walk.all _ _) (Scan.processAll _ (Walk.all _ _).work).1 _)
  rw [grows.work, same]
  exact grows.assemble _ _

end ScanThreads

namespace Indexing
open ScanThreads

variable {site : Site} {place : Place} {directory name : String}
  (written : Written site place directory name)

theorem attach_after {rules : ScanRules} (proper : site.root.Proper)
    (unread : rules.isEligible name = false) {candidates : List Entry}
    (listed : ∀ entry ∈ candidates, entry.path ∈
      ((⟨site, place, rules⟩ : Walk).all written.entries).work.map (·.path))
    (room : Nat) (adapters : List Adapter) :
    SymbolReading.attach room written.after (.ofPlace place) adapters candidates =
      SymbolReading.attach room site (.ofPlace place) adapters candidates := by
  refine SymbolReading.attach_congr fun entry member => ?_
  obtain ⟨read, child⟩ := written.read_of_work proper unread (listed entry member)
  rw [← child] at read
  unfold SymbolReading.symbolsOf
  simp only [read]

end Indexing

end SourceAtlas
