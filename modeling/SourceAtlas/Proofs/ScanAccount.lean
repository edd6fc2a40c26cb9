import SourceAtlas.Proofs.FoundTree
import SourceAtlas.Proofs.MetEntries
import SourceAtlas.Proofs.ThreadedScan

/-!
The account that a scan gives of its walk. The tree of its result holds the files that were queued,
the counts tell how many files and directories were met, and the entries are those of files of the
tree, in the order of their paths and as deep as their nodes.
-/
namespace SourceAtlas

open Text

namespace Findings

def Tallied (found : Findings) : Prop :=
  found.totalFiles = found.work.length + found.others.length

theorem tallied_gather {found : List (String × Findings)} (each : ∀ one ∈ found, one.2.Tallied) :
    (gather found).Tallied :=
  calc (gather found).totalFiles
    _ = (found.map fun one => one.2.totalFiles).sum := tally_totalFiles.gather found
    _ = (found.map fun one => one.2.work.length + one.2.others.length).sum :=
        congrArg List.sum (List.map_congr_left each)
    _ = (gather found).work.length + (gather found).others.length :=
        (tally_length.gather found).symm

end Findings

namespace Walk
open Findings

variable (walk : Walk)

theorem tallied_fileFindings (name path : String) : (walk.fileFindings name path).Tallied := by
  unfold fileFindings
  split
  · rfl
  · split <;> rfl

theorem tallied_entries {directory : String} {depth : Nat} {entries : List (String × Item)}
    (items : ∀ entry ∈ entries,
      (walk.item entry.1 (childPath directory entry.1) depth entry.2).Tallied) :
    (gather (walk.entries directory depth entries)).Tallied := by
  refine tallied_gather ?_
  rw [walk.entries_eq_map]
  exact List.forall_mem_map.mpr items

theorem tallied_item (content : Item) {name path : String} {depth : Nat} :
    (walk.item name path depth content).Tallied := by
  induction content using Item.induction generalizing name path depth with
  | file content => exact walk.tallied_fileFindings name path
  | link target =>
      rw [Walk.item]
      split
      · exact walk.tallied_fileFindings name path
      · rfl
  | directory entries ih =>
      rw [Walk.item]
      split
      · rfl
      · split
        · rfl
        · exact walk.tallied_entries fun entry member => ih entry member

theorem tallied_all (entries : List (String × Item)) : (walk.all entries).Tallied :=
  walk.tallied_entries fun entry _ => walk.tallied_item entry.2

end Walk

/-- The account of the walk over the entries of a root in the result of a scan. -/
structure Accounts (walk : Walk) (entries : List (String × Item)) (result : ScanResult) :
    Prop where
  root : result.tree.name = "." ∧ result.tree.path = "" ∧ result.tree.depth = 0
  nodes : ∀ node, result.tree.Within node → node.Orderly
  held : {path | result.tree.Holds path}.Finite
  taken : result.totalFiles = {path | result.tree.Holds path}.ncard + result.otherFiles.length
  met : ∀ directories, (walk.met (.directory entries) directories).Finite
  files : result.totalFiles + result.ignoredFiles = (walk.met (.directory entries) false).ncard
  directories : result.totalDirs + result.ignoredDirs = (walk.met (.directory entries) true).ncard
  sorted : (result.files.map Entry.path).Pairwise (· < ·)
  shown : ∀ entry ∈ result.files, result.tree.Holds entry.path
  deep : ∀ entry ∈ result.files, ∀ node, result.tree.Within node → ∀ name ∈ node.files,
    entry.path = Walk.childPath node.path name → entry.depth = node.depth
  bytes : result.totalBytes = (result.files.map Entry.size).sum

theorem ncard_of_nodup {α : Type} {xs : List α} (apart : xs.Nodup) :
    {x | x ∈ xs}.Finite ∧ {x | x ∈ xs}.ncard = xs.length := by
  classical
  have same : {x | x ∈ xs} = (xs.toFinset : Set α) := by
    ext x
    simp
  rw [same, Set.ncard_coe_finset, List.toFinset_card_of_nodup apart]
  exact ⟨Finset.finite_toSet _, rfl⟩

theorem sublist_paths {process : WorkItem → Option Entry}
    (same : ∀ item entry, process item = some entry → entry.path = item.path)
    (work : List WorkItem) :
    ((work.filterMap process).map Entry.path).Sublist (work.map (·.path)) := by
  induction work with
  | nil => exact List.Sublist.refl _
  | cons item rest ih =>
      rw [List.filterMap_cons, List.map_cons]
      cases processed : process item with
      | none => exact ih.cons _
      | some entry =>
          rw [List.map_cons, same item entry processed]
          exact ih.cons_cons _

namespace ScanThreads

namespace Setting

variable {setting : Setting} {entries : List (String × Item)}
  (listed : setting.listing = .ok entries)

theorem depth_of_process {item : WorkItem} {entry : Entry}
    (processed : setting.process item = .ok entry) : entry.depth = item.depth := by
  unfold process at processed
  obtain ⟨_, _, _, _, _, rfl⟩ := Scan.process_eq_ok.mp processed
  rfl

include listed

theorem findings_listed : setting.findings = setting.walk.all entries := by
  rw [findings, listed]

variable (proper : (Item.directory entries).Proper)
include proper

theorem nodup_paths :
    ((Scan.processAll setting.process setting.findings.work).1.map Entry.path).Nodup := by
  have apart := setting.walk.nodup_all proper true
  rw [← findings_listed listed] at apart
  rw [Scan.processAll_entries]
  refine (sublist_paths (fun item entry given => ?_) _).nodup apart
  cases processed : setting.process item with
  | error fault => simp [processed, Except.toOption] at given
  | ok made =>
      rw [processed] at given
      obtain rfl := Option.some.inj given
      exact path_of_process processed

omit proper in
theorem holds_result_iff (collected : List Entry) (path : String) :
    (setting.result collected).tree.Holds path ↔ path ∈ setting.findings.work.map (·.path) := by
  have held := setting.walk.holds_all entries path
  rw [← findings_listed listed] at held
  exact held

theorem accounts_result : Accounts setting.walk entries
    (setting.result (Scan.processAll setting.process setting.findings.work).1) := by
  have apart := setting.walk.nodup_all proper true
  have tallied := setting.walk.tallied_all entries
  have counted (directories : Bool) := @Walk.encard_met setting.walk directories _ proper
  have orderly := setting.walk.orderly_all proper
  rw [← findings_listed listed] at apart tallied counted orderly
  obtain ⟨finite, number⟩ := ncard_of_nodup apart
  generalize collect : (Scan.processAll setting.process setting.findings.work).1 = collected
  have holds : {path | (setting.result collected).tree.Holds path} =
      {path | path ∈ setting.findings.paths true} := Set.ext (holds_result_iff listed collected)
  have ofItem {entry : Entry} (shown : entry ∈ (setting.result collected).files) :
      ∃ item ∈ setting.findings.work, setting.process item = .ok entry :=
    exists_item (collect ▸ List.mem_mergeSort.mp shown)
  constructor
  case root => exact ⟨rfl, rfl, rfl⟩
  case nodes => exact orderly
  case held => rwa [holds]
  case taken =>
    rw [holds, number]
    change (setting.findings.totalFiles : Int) = (setting.findings.work.map _).length +
      (sortTexts setting.findings.others).length
    rw [tallied, List.length_map, sortTexts, List.length_mergeSort, Nat.cast_add]
  case met => exact fun directories => Set.finite_of_encard_eq_coe (counted directories)
  case files =>
    rw [Set.ncard, counted]
    rfl
  case directories =>
    rw [Set.ncard, counted]
    rfl
  case sorted =>
    have different := nodup_paths listed proper
    rw [collect] at different
    exact pairwise_lt_mergeSort Entry.path different
  case shown =>
    intro entry shown
    obtain ⟨item, queued, processed⟩ := ofItem shown
    rw [holds_result_iff listed, path_of_process processed]
    exact List.mem_map_of_mem queued
  case deep =>
    intro entry shown node within name file same
    obtain ⟨item, queued, processed⟩ := ofItem shown
    rw [depth_of_process processed, depth_of_mem queued, ← path_of_process processed, same,
      (orderly node within).level name file]
  case bytes =>
    rw [List.sum_eq_foldl, List.foldl_map]
    rfl

end Setting

/-- A scan gives an account of its walk, over any tree and by any rules, unless the tree nests too
deep for the calls that are left. The paths that its tree holds are those of the queued files, also
where threads have worked: every run of them that ends makes the same result. -/
theorem scan_accounts {setting : Setting} {entries : List (String × Item)}
    (listed : setting.listing = .ok entries) (proper : (Item.directory entries).Proper) :
    (¬setting.Shallow → setting.sequential = .error .tooNested) ∧
    (setting.Shallow →
      ∃ result, setting.sequential = .ok result ∧ Accounts setting.walk entries result ∧
        (∀ site shown request, settle site shown request = .ok setting →
          (Scan.run site shown request).outcome.1 = .ok result) ∧
        ∀ workers trace (s : State workers), 1 ≤ workers →
          Run setting.plan (start setting.plan workers) trace s → s.walker = .ended →
            setting.result s.collected = result ∧
              ∀ path, result.tree.Holds path ↔ path ∈ (queued trace).map (·.path)) := by
  refine ⟨Setting.sequential_tooNested listed, fun shallow => ?_⟩
  have sequential := Setting.sequential_listed listed shallow
  refine ⟨_, sequential, Setting.accounts_result listed proper, ?_, ?_⟩
  · intro site shown request settled
    rw [run_eq_sequential settled, sequential]
  · intro workers trace s positive run ended
    refine ⟨Setting.result_eq_of_perm (Setting.collected_perm positive run ended), fun path => ?_⟩
    rw [Setting.holds_result_iff listed, run.queued_eq ended]
    rfl

def accountEntries : List (String × Item) :=
  [(".git", .directory [("z", .file [])]), ("a", .file []), ("b", .link "a"),
    ("c", .directory [("x", .file [])]), ("d", .directory [])]

def accountSite : Site where
  root := .directory accountEntries

theorem accountEntries_proper : (Item.directory accountEntries).Proper := by
  refine .directory ?_ (by decide) ?_ <;>
    simp only [accountEntries, List.forall_mem_cons, List.not_mem_nil, IsEmpty.forall_iff,
      implies_true, and_true]
  · refine ⟨?_, ?_, ?_, ?_, ?_⟩ <;> constructor <;> decide
  · exact ⟨.single ⟨by decide, by decide, by decide, by decide⟩ (.file _), .file _, .link _,
      .single ⟨by decide, by decide, by decide, by decide⟩ (.file _),
      .directory nofun List.nodup_nil nofun⟩

theorem settle_accountSite :
    ∃ setting, settle accountSite "/" everyName = .ok setting ∧
      setting.listing = .ok accountEntries ∧
      setting.findings.work.map (·.path) = ["a", "b", "c/x"] ∧
      setting.findings.totalDirs = 2 ∧ setting.findings.ignoredDirs = 1 ∧ setting.Shallow := by
  have found : (settle accountSite "/" everyName).toOption.map (fun setting =>
      (setting.findings.work.map (·.path), setting.findings.totalDirs,
        setting.findings.ignoredDirs, decide setting.Shallow)) =
          some (["a", "b", "c/x"], 2, 1, true) := by cbv
  have listed : (settle accountSite "/" everyName).toOption.map (·.listing) =
      some (.ok accountEntries) := by cbv
  cases settled : settle accountSite "/" everyName with
  | error failure => simp [settled, Except.toOption] at found
  | ok setting =>
      rw [settled] at found listed
      have facts := Option.some.inj found
      exact ⟨setting, rfl, Option.some.inj listed, congrArg Prod.fst facts,
        congrArg (·.2.1) facts, congrArg (·.2.2.1) facts,
        of_decide_eq_true (congrArg (·.2.2.2) facts)⟩

theorem accountSite_accounts :
    (Item.directory accountEntries).Proper ∧ ∃ setting result,
      settle accountSite "/" everyName = .ok setting ∧ setting.listing = .ok accountEntries ∧
      setting.Shallow ∧ (Scan.run accountSite "/" everyName).outcome.1 = .ok result ∧
      (∀ path, result.tree.Holds path ↔ path ∈ ["a", "b", "c/x"]) ∧
      (setting.walk.met (.directory accountEntries) true).ncard = 3 := by
  obtain ⟨setting, settled, listed, work, taken, ignored, shallow⟩ := settle_accountSite
  obtain ⟨result, sequential, account, runs, threads⟩ :=
    (scan_accounts listed accountEntries_proper).2 shallow
  refine ⟨accountEntries_proper, setting, result, settled, listed, shallow, runs _ _ _ settled,
    ?_, ?_⟩
  · have positive : 1 ≤ 2 := by decide
    obtain ⟨trace, s, run, ended⟩ := exists_ended_run setting.plan positive
    have whole : queued trace = setting.findings.work := run.queued_eq ended
    have held := (threads 2 trace s positive run ended).2
    rwa [whole, work] at held
  · have met := account.directories
    rw [Setting.sequential_listed listed shallow] at sequential
    cases sequential
    have counts : setting.findings.totalDirs + setting.findings.ignoredDirs = _ := met
    rw [← counts, taken, ignored]

end ScanThreads

end SourceAtlas
