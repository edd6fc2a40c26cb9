import SourceAtlas.Proofs.CompiledRules
import SourceAtlas.Proofs.GlobbedScan
import SourceAtlas.Proofs.StrippedCase
import SourceAtlas.Proofs.ThreadedScan
import SourceAtlas.Proofs.WalkSelection

/-!
The languages of scanned files. A file is taken into a scan by its name, and its language and its
marks are told afterwards from its path; both look at the same endings and the same patterns. So a
file has the language of the first adapter that declares its ending, and a file of no language is a
manifest. Adapters are put in order before anything is asked of them.
-/
namespace SourceAtlas

open Text

/-- The ending of a name goes from its last dot on, which is neither its first character nor its
last. -/
def HasEnding (name ending : String) : Prop :=
  ∃ stem tail, name.toList = stem ++ '.' :: tail ∧ stem ≠ [] ∧ tail ≠ [] ∧ '.' ∉ tail ∧
    ending = .ofList ('.' :: tail)

theorem hasEnding_iff {name ending : String} :
    HasEnding name ending ↔ Path.endingOf name = ending ∧ ending ≠ "" := by
  constructor
  · rintro ⟨stem, tail, parts, filled, more, single, rfl⟩
    exact ⟨Path.endingOf_append filled more single parts, by simp⟩
  · rintro ⟨rfl, given⟩
    have whole : name.toList.reverse = name.toList.reverse.takeWhile (· ≠ '.') ++
        name.toList.reverse.dropWhile (· ≠ '.') := List.takeWhile_append_dropWhile.symm
    have single : '.' ∉ name.toList.reverse.takeWhile (· ≠ '.') := fun inside =>
      absurd (List.mem_takeWhile_imp inside) (by simp)
    have stop := List.head?_dropWhile_not (· ≠ '.') name.toList.reverse
    unfold Path.endingOf at given ⊢
    dsimp only at given ⊢
    generalize name.toList.reverse.takeWhile (· ≠ '.') = tail at whole single given ⊢
    generalize name.toList.reverse.dropWhile (· ≠ '.') = rest at whole stop
    split at given
    · exact absurd rfl given
    next inside =>
      have length := congrArg List.length whole
      rw [List.length_append] at length
      simp only [Bool.or_eq_true, List.isEmpty_iff, decide_eq_true_eq, not_or, not_le] at inside
      rw [if_neg (by simpa using inside)]
      cases rest with
      | nil =>
          rw [List.length_nil] at length
          omega
      | cons dot front =>
          obtain rfl : dot = '.' := by simpa using stop
          refine ⟨front.reverse, tail.reverse, by simpa using congrArg List.reverse whole, ?_,
            by simpa using inside.1, by simpa using single, rfl⟩
          rw [ne_eq, List.reverse_eq_nil_iff]
          rintro rfl
          rw [List.length_singleton] at length
          omega

/-- An adapter declares the ending of a name; case does not count. -/
def Adapter.Declares (adapter : Adapter) (name : String) : Prop :=
  ∃ ending, HasEnding name ending ∧ ∃ extension ∈ adapter.extensions, lower extension = lower ending

theorem HasEnding.lower_ne_empty {name ending : String} (has : HasEnding name ending) :
    lower ending ≠ "" := by
  obtain ⟨_, tail, _, _, _, _, rfl⟩ := has
  have filled := (solid_lowerAt (c := '.') (by decide) [] tail).1
  rw [lower, String.toList_ofList, lowerChars_eq, lowerFrom_cons]
  simp [filled]

theorem Adapter.declares_iff {adapter : Adapter} {name : String} (proper : ProperName name) :
    adapter.Declares name ↔
      (endingKey name).isEmpty = false ∧ adapter.handles (endingKey name) = true := by
  have key : endingKey name = lower (Path.endingOf name) := by
    have single := (ProperNames.nil.snoc proper).ofText_join
    rw [List.nil_append, join, String.intercalate_singleton] at single
    rw [endingKey, Path.ending, Path.name, single]
    rfl
  rw [key, handles, List.contains_iff_mem, List.mem_map]
  constructor
  · rintro ⟨ending, has, extension, listed, same⟩
    rw [(hasEnding_iff.mp has).1]
    exact ⟨by simpa using has.lower_ne_empty, extension, listed, same⟩
  · rintro ⟨filled, extension, listed, same⟩
    refine ⟨_, hasEnding_iff.mpr ⟨rfl, ?_⟩, extension, listed, same⟩
    intro empty
    rw [empty] at filled
    cases filled

structure LeastDeclaring (adapters : List Adapter) (name language : String) : Prop where
  declared : ∃ adapter ∈ adapters, adapter.Declares name ∧ adapter.name = language
  least : ∀ adapter ∈ adapters, adapter.Declares name → language ≤ adapter.name

section Languages
variable {adapters : List Adapter} {name : String} (proper : ProperName name)
include proper

theorem adapterFor?_eq_none_iff :
    adapterFor? name adapters = none ↔ ∀ adapter ∈ adapters, ¬adapter.Declares name := by
  unfold adapterFor?
  dsimp only
  cases empty : (endingKey name).isEmpty with
  | true => simp [Adapter.declares_iff proper, empty]
  | false => simp [Adapter.declares_iff proper, empty]

theorem leastDeclaring_of_adapterFor {adapter : Adapter}
    (found : adapterFor? name (byName adapters) = some adapter) :
    LeastDeclaring adapters name adapter.name := by
  unfold adapterFor? at found
  dsimp only at found
  cases empty : (endingKey name).isEmpty with
  | true =>
      rw [empty] at found
      cases found
  | false =>
      rw [empty, if_neg Bool.false_ne_true] at found
      obtain ⟨handled, before, after, parts, earlier⟩ := List.find?_eq_some_iff_append.mp found
      have declares (other : Adapter) :
          other.Declares name ↔ other.handles (endingKey name) = true := by
        rw [Adapter.declares_iff proper, and_iff_right empty]
      have sorted : (byName adapters).Pairwise _ := pairwise_mergeSort (·.name) adapters
      have listed (other : Adapter) : other ∈ adapters ↔ other ∈ before ++ adapter :: after := by
        rw [← parts]
        exact List.mem_mergeSort.symm
      rw [parts, List.pairwise_append, List.pairwise_cons] at sorted
      refine ⟨⟨adapter, (listed adapter).mpr (by simp), (declares adapter).mpr handled, rfl⟩, ?_⟩
      intro other member own
      rw [listed, List.mem_append, List.mem_cons] at member
      rcases member with first | rfl | later
      · exact absurd ((declares other).mp own) (by simpa using earlier other first)
      · exact le_refl _
      · exact precedes_iff_le.mp (sorted.2.1.1 other later)

theorem language_eq_some_iff {language : String} :
    (adapterFor? name (byName adapters)).map (·.name) = some language ↔
      LeastDeclaring adapters name language := by
  constructor
  · intro told
    obtain ⟨adapter, found, rfl⟩ := Option.map_eq_some_iff.mp told
    exact leastDeclaring_of_adapterFor proper found
  · rintro ⟨⟨adapter, listed, own, rfl⟩, least⟩
    cases found : adapterFor? name (byName adapters) with
    | none =>
        have undeclared := (adapterFor?_eq_none_iff proper).mp found
        exact absurd own (undeclared adapter (List.mem_mergeSort.mpr listed))
    | some other =>
        obtain ⟨⟨same, member, its, equal⟩, below⟩ := leastDeclaring_of_adapterFor proper found
        refine congrArg some (le_antisymm (below adapter listed own) ?_)
        exact (least same member its).trans_eq equal

end Languages

theorem ScanRules.isEligible_iff {adapters : List Adapter} {overrides : Overrides}
    {ignored : List Rule} {name : String} (proper : ProperName name) :
    (compile adapters overrides ignored).isEligible name = true ↔
      (∃ adapter ∈ adapters, adapter.Declares name) ∨
        ∃ adapter ∈ adapters, ∃ config ∈ adapter.configs, globMatches config name = true := by
  simp only [isEligible_compile, List.any_eq_true, Adapter.takes, Bool.or_eq_true, Bool.and_eq_true,
    Bool.not_eq_true', Adapter.declares_iff proper]
  constructor
  · rintro ⟨adapter, listed, declares | fits⟩
    · exact .inl ⟨adapter, listed, declares⟩
    · exact .inr ⟨adapter, listed, fits⟩
  · rintro (⟨adapter, listed, declares⟩ | ⟨adapter, listed, fits⟩)
    · exact ⟨adapter, listed, .inl declares⟩
    · exact ⟨adapter, listed, .inr fits⟩

theorem Site.proper_of_list {site : Site} (proper : site.root.Proper) {path : Path}
    {entries : List (String × Item)} (listed : site.list path = .ok entries) :
    (Item.directory entries).Proper := by
  unfold Site.list at listed
  split at listed
  · cases listed
  · obtain ⟨place, _, found⟩ := exists_of_bind listed
    split at found
    next here =>
      cases found
      exact (proper.of_get? here).2
    · cases found

theorem afterLast_of_free {separator : Char} {text : String} (free : separator ∉ text.toList) :
    afterLast separator text = text := by
  have all : ∀ c ∈ text.toList.reverse, decide (c ≠ separator) = true := fun c member =>
    decide_eq_true fun same => free (same ▸ List.mem_reverse.mp member)
  rw [afterLast, List.takeWhile_eq_self_iff.mpr all, List.reverse_reverse, String.ofList_toList]

theorem ProperNames.baseName_join {names : List String} (proper : ProperNames names) :
    baseName (join "/" names) = names.getLastD "" := by
  rcases List.eq_nil_or_concat names with rfl | ⟨front, last, rfl⟩
  · rfl
  · rw [List.concat_eq_append] at proper ⊢
    have free : '/' ∉ last.toList := (proper last (by simp)).whole
    have above : ProperNames front := fun name member => proper name (List.mem_append_left _ member)
    rw [List.getLastD_concat, ← Walk.childPath_join above, Walk.childPath, baseName]
    split
    · exact afterLast_of_free free
    · exact Indexing.afterLast_append free

theorem Walk.eligible_of_work (walk : Walk) {entries : List (String × Item)}
    (proper : (Item.directory entries).Proper) {item : WorkItem}
    (member : item ∈ (walk.all entries).work) :
    ProperName (baseName item.path) ∧ walk.rules.isEligible (baseName item.path) = true := by
  obtain ⟨selects, eligible⟩ :=
    (walk.mem_paths_iff proper true item.path).mp (List.mem_map_of_mem member)
  have names := selects.file.proper proper
  have filled : (Path.ofText item.path).names ≠ [] := fun empty =>
    selects.file.ne_directory (by rw [empty]; exact Item.get?_nil _)
  have base : baseName item.path = (Path.ofText item.path).name := by
    have joined := names.baseName_join
    rwa [selects.written] at joined
  rw [base]
  refine ⟨names _ ?_, eligible⟩
  rw [Path.name, List.getLastD_eq_getLast?, List.getLast?_eq_some_getLast filled]
  exact List.getLast_mem filled

theorem Scan.marks_of_process {walk : Walk} {adapters : List Adapter} {priority : List Rule}
    {hashAlgorithm : String} {item : WorkItem} {entry : Entry}
    (processed : Scan.process walk adapters priority hashAlgorithm item = .ok entry) :
    entry.language = (adapterFor? (baseName entry.path) adapters).map (·.name) ∧
      entry.isConfig = adapters.any fun a => matchesAny entry.path a.configs := by
  obtain ⟨content, score, _, _, _, rfl⟩ := Scan.process_eq_ok.mp processed
  simp only [Scan.entryOf, and_self]

namespace ScanThreads

variable {site : Site} {shown : String} {request : ScanRequest} {setting : Setting}

theorem eligible_of_work (proper : site.root.Proper)
    (settled : settle site shown request = .ok setting) {item : WorkItem}
    (member : item ∈ setting.findings.work) :
    ProperName (baseName item.path) ∧ ∃ ignored,
      (ScanRules.compile (byName request.adapters) request.overrides ignored).isEligible
        (baseName item.path) = true := by
  obtain ⟨root, _, there⟩ := exists_of_bind settled
  obtain ⟨_, _, same⟩ := settleAt_eq_ok there
  unfold Setting.findings at member
  cases listed : setting.listing with
  | error error =>
      rw [listed] at member
      cases member
  | ok entries =>
      rw [listed] at member
      have whole : (Item.directory entries).Proper := by
        rw [same] at listed
        exact Site.proper_of_list proper listed
      obtain ⟨named, eligible⟩ := setting.walk.eligible_of_work whole member
      rw [same] at eligible
      exact ⟨named, _, eligible⟩

theorem told_of_shown (proper : site.root.Proper) {result : ScanResult}
    (done : (Scan.run site shown request).outcome.1 = .ok result) {entry : Entry}
    (listed : entry ∈ result.files ∨ entry ∈ result.candidates) :
    ProperName (baseName entry.path) ∧
      entry.language = (adapterFor? (baseName entry.path) (byName request.adapters)).map (·.name) ∧
      entry.isConfig = (byName request.adapters).any (fun a => matchesAny entry.path a.configs) ∧
      ∃ ignored, (ScanRules.compile (byName request.adapters) request.overrides ignored).isEligible
        (baseName entry.path) = true := by
  rw [(run_gives site shown request).outcome] at done
  obtain ⟨setting, settled, answered⟩ := exists_of_bind done
  obtain ⟨item, member, processed⟩ := Setting.exists_item_of_shown answered listed
  obtain ⟨named, eligible⟩ := eligible_of_work proper settled member
  rw [← Setting.path_of_process processed] at named eligible
  unfold Setting.process at processed
  rw [(settled_for settled).1] at processed
  obtain ⟨language, config⟩ := Scan.marks_of_process processed
  exact ⟨named, language, config, eligible⟩

end ScanThreads

theorem byName_eq_of_perm {adapters others : List Adapter}
    (apart : (adapters.map (·.name)).Nodup) (perm : others.Perm adapters) :
    byName others = byName adapters :=
  (mergeSort_eq_of_perm Adapter.name perm.symm fun _ left _ right same =>
    List.inj_on_of_nodup_map apart left right same).symm

/-- Files are taken by their ending or as manifests, and what a scan shows of them agrees with that.
The language of a file is the least name among those of the adapters that declare its ending, a file
of no language is a manifest, and the scan is the same for the adapters in any order. -/
theorem languages_told {site : Site} {request : ScanRequest} (proper : site.root.Proper)
    (apart : (request.adapters.map (·.name)).Nodup) (shown : String) :
    (∀ result, (Scan.run site shown request).outcome.1 = .ok result →
      ∀ entry, entry ∈ result.files ∨ entry ∈ result.candidates →
        (∀ language, entry.language = some language ↔
          LeastDeclaring request.adapters (baseName entry.path) language) ∧
        (entry.language = none ↔
          ∀ adapter ∈ request.adapters, ¬adapter.Declares (baseName entry.path)) ∧
        (entry.language = none → entry.isConfig = true)) ∧
      ∀ others, others.Perm request.adapters →
        Scan.run site shown { request with adapters := others } = Scan.run site shown request := by
  constructor
  · intro result done entry listed
    obtain ⟨named, language, config, ignored, eligible⟩ :=
      ScanThreads.told_of_shown proper done listed
    have members (adapter : Adapter) :
        adapter ∈ byName request.adapters ↔ adapter ∈ request.adapters := List.mem_mergeSort
    have untold : entry.language = none ↔
        ∀ adapter ∈ request.adapters, ¬adapter.Declares (baseName entry.path) := by
      rw [language, Option.map_eq_none_iff, adapterFor?_eq_none_iff named]
      simp only [members]
    refine ⟨fun name => by rw [language]; exact language_eq_some_iff named, untold, fun none => ?_⟩
    have undeclared := untold.mp none
    rcases (ScanRules.isEligible_iff named).mp eligible with
      ⟨adapter, active, declares⟩ | ⟨adapter, active, pattern, own, fits⟩
    · exact absurd declares (undeclared adapter ((members adapter).mp active))
    · rw [config, List.any_eq_true]
      refine ⟨adapter, active, List.any_eq_true.mpr ⟨pattern, own, ?_⟩⟩
      rw [fits, Bool.true_or]
  · intro others perm
    unfold Scan.run
    dsimp only
    rw [byName_eq_of_perm apart perm]

section Script
open ScanThreads

def scriptEntries : List (String × Item) := [("Makefile", .file []), ("x.TS", .file [])]

def scriptSite : Site where
  root := .directory scriptEntries

def scriptRequest : ScanRequest where
  room := 990
  adapters :=
    [{ label := "B", name := "b", extensions := [".Ts"], read := fun _ _ _ => .error "" },
      { label := "A", name := "a", extensions := [".ts"], configs := ["Makefile"]
        read := fun _ _ _ => .error "" }]

theorem scriptSite_unignored : Unignored scriptSite [] scriptEntries where
  proper := by
    refine .directory ?_ (by decide) ?_ <;>
      simp only [scriptEntries, List.forall_mem_cons, List.not_mem_nil, IsEmpty.forall_iff,
        implies_true, and_true]
    · constructor <;> constructor <;> decide
    · exact ⟨.file _, .file _⟩
  found := rfl
  absent := by decide
  fits := ⟨by decide, by decide, by decide⟩
  listed := rfl
  readable := rfl

theorem byName_scriptRequest : byName scriptRequest.adapters = scriptRequest.adapters.reverse := by
  cbv

theorem weighs_scriptRequest (name : String) (entry : Entry) (_ : entry.path = name) :
    weighs (byName scriptRequest.adapters) entry = true := by
  have still : ∀ adapter ∈ byName scriptRequest.adapters,
      (adapter.adjust entry.path entry.depth entry.isEntrypoint entry.isConfig).isOk = true := by
    rw [byName_scriptRequest]
    simp [scriptRequest, Except.isOk, Except.toBool]
  unfold weighs adapterFor?
  dsimp only
  split
  next adapter known =>
    split at known
    · cases known
    · exact still adapter (List.mem_of_find?_eq_some known)
  next => rfl

theorem settle_scriptSite : settle scriptSite "/" scriptRequest =
    .ok ⟨scriptRequest, ⟨scriptSite, [], .compile scriptRequest.adapters.reverse
      scriptRequest.overrides []⟩, .ok scriptEntries⟩ := by
  have bare := scriptSite_unignored
  have fits := bare.fits.above
  have down : ".." ∉ ([] : Place) := List.not_mem_nil
  have home : scriptSite.expandHome (.ofText "/") = .ok (.ofPlace []) := by cbv
  rw [settle_resolved home (Site.resolve_directory fits down bare.found) fits down bare.found,
    walkAt, bare.ignoreFile_bare, byName_scriptRequest, Site.list_directory fits down bare.found,
    bare.listed]
  rfl

theorem exists_scriptEntry {result : ScanResult}
    (done : (Scan.run scriptSite "/" scriptRequest).outcome.1 = .ok result) :
    ∀ name ∈ scriptEntries.map Prod.fst, ∃ entry ∈ result.files, entry.path = name := by
  intro name one
  rw [run_eq_sequential settle_scriptSite] at done
  have weighed := weighs_scriptRequest
  have listed : name ∈ result.paths true := by
    simp only [scriptEntries, List.map_cons, List.map_nil, List.mem_cons, List.not_mem_nil,
      or_false] at one
    rcases one with rfl | rfl
    · refine @Setting.mem_paths_of_selects _ _ rfl _ done scriptSite_unignored.proper _
        (selects_of_single (by decide) (.inl ⟨[], rfl⟩) (by decide +kernel)) (by decide +kernel)
        [] ?_ rfl (weighed _)
      change scriptSite.read (.ofPlace ["Makefile"]) = .ok []
      cbv
    · refine @Setting.mem_paths_of_selects _ _ rfl _ done scriptSite_unignored.proper _
        (selects_of_single (by decide) (.inl ⟨[], rfl⟩) (by decide +kernel)) (by decide +kernel)
        [] ?_ rfl (weighed _)
      change scriptSite.read (.ofPlace ["x.TS"]) = .ok []
      cbv
  exact List.mem_map.mp listed

theorem leastDeclaring_script : LeastDeclaring scriptRequest.adapters "x.TS" "a" := by
  have proper : ProperName "x.TS" := by constructor <;> decide
  have told : (adapterFor? "x.TS" (byName scriptRequest.adapters)).map (·.name) = some "a" := by
    rw [byName_scriptRequest]
    decide +kernel
  exact (language_eq_some_iff proper).mp told

theorem undeclared_script : ∀ adapter ∈ scriptRequest.adapters, ¬adapter.Declares "Makefile" := by
  have proper : ProperName "Makefile" := by constructor <;> decide
  refine (adapterFor?_eq_none_iff proper).mp ?_
  rw [← Option.map_eq_none_iff (f := Adapter.name)]
  decide +kernel

theorem scriptSite_languages :
    scriptSite.root.Proper ∧ (scriptRequest.adapters.map (·.name)).Nodup ∧
      (∃ result, (Scan.run scriptSite "/" scriptRequest).outcome.1 = .ok result ∧
        (∃ entry ∈ result.files, entry.path = "x.TS" ∧ entry.language = some "a") ∧
        ∃ entry ∈ result.files, entry.path = "Makefile" ∧ entry.language = none ∧
          entry.isConfig = true) ∧
      Scan.run scriptSite "/" { scriptRequest with adapters := scriptRequest.adapters.reverse } =
        Scan.run scriptSite "/" scriptRequest := by
  have proper := scriptSite_unignored.proper
  have apart : (scriptRequest.adapters.map (·.name)).Nodup := by decide
  obtain ⟨told, once⟩ := languages_told proper apart "/"
  refine ⟨proper, apart, ?_, once _ (List.reverse_perm _)⟩
  have done := run_eq_sequential settle_scriptSite
  have few : 6 ≤ scriptRequest.room := by decide
  have shallow : Setting.Shallow ⟨scriptRequest, ⟨scriptSite, [],
      .compile scriptRequest.adapters.reverse scriptRequest.overrides []⟩, .ok scriptEntries⟩ :=
    Setting.shallow_of_height rfl few
  rw [Setting.sequential_listed rfl shallow] at done
  refine ⟨_, done, ?_, ?_⟩
  · obtain ⟨entry, member, path⟩ := exists_scriptEntry done "x.TS" (by decide)
    refine ⟨entry, member, path, ((told _ done entry (.inl member)).1 "a").mpr ?_⟩
    rw [path]
    exact leastDeclaring_script
  · obtain ⟨entry, member, path⟩ := exists_scriptEntry done "Makefile" (by decide)
    obtain ⟨_, untold, config⟩ := told _ done entry (.inl member)
    have none : entry.language = none := by
      rw [untold, path]
      exact undeclared_script
    exact ⟨entry, member, path, none, config none⟩

end Script

end SourceAtlas
