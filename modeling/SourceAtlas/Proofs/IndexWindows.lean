import SourceAtlas.Proofs.GeneratedFiles
import SourceAtlas.Proofs.Rescan
import SourceAtlas.Proofs.SameLayout
import SourceAtlas.Proofs.SecondRun
import SourceAtlas.Proofs.SiteChanges
import SourceAtlas.Proofs.UndigestedText

/-!
What an index can depend on. Of a file that is to be read the size counts, and its first bytes as
far as the mark of generated files is looked for; of a candidate also what is read for its symbols.
Two sites with one layout that agree in these give the same index, whatever else their files hold.
The digest of a file depends on more of it, but shows in no index.
-/
namespace SourceAtlas

open Text

namespace Scan

theorem isGenerated_eq {first second : Bytes} (front : second.take 1024 = first.take 1024)
    (name : String) :
    isGenerated name (second.take digestWindow) = isGenerated name (first.take digestWindow) := by
  have window (content : Bytes) :
      (content.take digestWindow).take markerWindow = content.take 1024 := by
    rw [List.take_take]
    rfl
  exact isGenerated_congr (by rw [window, window, front]) name

theorem entryOf_undigested {first second : Bytes} (size : second.length = first.length)
    (front : second.take 1024 = first.take 1024) (adapters : List Adapter)
    (hashAlgorithm : String) (item : WorkItem) :
    (entryOf adapters hashAlgorithm item second).undigested =
      (entryOf adapters hashAlgorithm item first).undigested := by
  unfold entryOf Entry.undigested
  simp only [size, isGenerated_eq front]

theorem process_undigested {a b : Site} {place : Place} (alike : SameLayout a b place)
    {item : WorkItem} (down : ".." ∉ (Path.ofText item.path).names) (same : ∀ first second,
      a.read (.ofPlace (place ++ (Path.ofText item.path).names)) = .ok first →
      b.read (.ofPlace (place ++ (Path.ofText item.path).names)) = .ok second →
        second.length = first.length ∧ second.take 1024 = first.take 1024)
    (rules : ScanRules) (adapters : List Adapter) (priority : List Rule) (hashAlgorithm : String) :
    (process ⟨b, place, rules⟩ adapters priority hashAlgorithm item).toOption.map
        Entry.undigested =
      (process ⟨a, place, rules⟩ adapters priority hashAlgorithm item).toOption.map
        Entry.undigested := by
  have locked := alike.locked _ down
  have weighed (entry : Entry) (adapter : Option Adapter) :
    scoreOf entry adapter priority = scoreOf entry.undigested adapter priority := rfl
  unfold process Walk.placeOf
  dsimp only
  rcases alike.reads down with ⟨first, second, before, later⟩ | ⟨error, before, later⟩
  · obtain ⟨size, front⟩ := same first second before later
    have entry := entryOf_undigested size front adapters hashAlgorithm item
    rw [before, later, locked]
    dsimp only
    split
    · rfl
    · rw [weighed, entry, ← weighed]
      cases scoreOf (entryOf adapters hashAlgorithm item first) _ priority with
      | error reason => rfl
      | ok score => exact congrArg (fun e : Entry => some { e with score := score }) entry
  · rw [before, later]

theorem assemble_undigested (found : Findings) (entries : List Entry) (maxCandidates : Int) :
    (assemble found entries maxCandidates).undigested =
      assemble found (entries.map .undigested) maxCandidates := by
  have sorted : (entries.map Entry.undigested).mergeSort (fun a b => precedes a.path b.path) =
      (entries.mergeSort fun a b => precedes a.path b.path).map .undigested := by
    symm
    exact List.map_mergeSort fun _ _ _ _ => rfl
  have ranked (files : List Entry) :
      selectCandidates (files.map .undigested) maxCandidates =
        (selectCandidates files maxCandidates).map .undigested := by
    have whole : rank (files.map .undigested) = (rank files).map .undigested := by
      symm
      exact List.map_mergeSort fun _ _ _ _ => rfl
    unfold selectCandidates
    rw [whole, List.map_take]
  unfold assemble ScanResult.undigested
  simp only [sorted, ranked, List.foldl_map]
  rfl

end Scan

namespace ScanThreads

theorem proper_of_work {walk : Walk} {entries : List (String × Item)} {path : String}
    (whole : (Item.directory entries).Proper)
    (member : path ∈ (walk.all entries).work.map (·.path)) :
    walk.Selects (.directory entries) path ∧
      walk.rules.isEligible (Path.ofText path).name = true ∧
      ∃ names, ProperNames names ∧ path = join "/" names := by
  obtain ⟨selected, eligible⟩ := (walk.mem_paths_iff whole true path).mp member
  exact ⟨selected, eligible, _, selected.file.proper whole, selected.written.symm⟩

/-- Scans of one layout whose files have the same fronts give the same result but for digests, or
nest too deep both. -/
theorem sequential_undigested {a b : Site} {place : Place} (alike : SameLayout a b place)
    (request : ScanRequest) (rules : ScanRules) {entries others : List (String × Item)}
    (found : a.root.get? place = some (.directory entries))
    (there : b.root.get? place = some (.directory others))
    (same : ∀ item ∈ ((⟨a, place, rules⟩ : Walk).all entries).work, ∀ first second,
      a.read (.ofPlace (place ++ (Path.ofText item.path).names)) = .ok first →
      b.read (.ofPlace (place ++ (Path.ofText item.path).names)) = .ok second →
        second.length = first.length ∧ second.take 1024 = first.take 1024) :
    (∃ first second, Setting.sequential ⟨request, ⟨a, place, rules⟩, .ok entries⟩ = .ok first ∧
      Setting.sequential ⟨request, ⟨b, place, rules⟩, .ok others⟩ = .ok second ∧
      second.undigested = first.undigested) ∨
    ∃ failure, Setting.sequential ⟨request, ⟨a, place, rules⟩, .ok entries⟩ = .error failure ∧
      Setting.sequential ⟨request, ⟨b, place, rules⟩, .ok others⟩ = .error failure := by
  have walked : Setting.findings ⟨request, ⟨b, place, rules⟩, .ok others⟩ =
      Setting.findings ⟨request, ⟨a, place, rules⟩, .ok entries⟩ := alike.all_eq rules found there
  have nested : Setting.Shallow ⟨request, ⟨b, place, rules⟩, .ok others⟩ ↔
      Setting.Shallow ⟨request, ⟨a, place, rules⟩, .ok entries⟩ := by
    rw [Setting.Shallow, walked]
    rfl
  by_cases shallow : Setting.Shallow ⟨request, ⟨a, place, rules⟩, .ok entries⟩
  · refine .inl ⟨_, _, Setting.sequential_listed rfl shallow,
      Setting.sequential_listed rfl (nested.mpr shallow), ?_⟩
    rw [Setting.result, Setting.result, walked, Scan.assemble_undigested, Scan.assemble_undigested,
      Scan.processAll_entries, Scan.processAll_entries, List.map_filterMap, List.map_filterMap]
    refine congrArg (Scan.assemble _ · _) (List.filterMap_congr fun item member => ?_)
    have listed := List.mem_map_of_mem (f := fun item : WorkItem => item.path) member
    obtain ⟨_, _, names, proper, path⟩ := proper_of_work (alike.before.of_get? found).2 listed
    have down : ".." ∉ (Path.ofText item.path).names := by
      rw [path, proper.ofText_join]
      exact proper.down
    unfold Setting.process
    exact Scan.process_undigested alike down (same item member) rules _ _ _
  · exact .inr ⟨_, Setting.sequential_tooNested rfl shallow,
      Setting.sequential_tooNested rfl (mt nested.mp shallow)⟩

end ScanThreads

def ScanResult.DigestsFronts (scan : ScanResult) (walk : Walk) (hashAlgorithm : String) : Prop :=
  ∀ entry, entry ∈ scan.files ∨ entry ∈ scan.candidates → ∃ content,
    walk.site.read (.ofPlace (walk.placeOf entry.path)) = .ok content ∧
      entry.hash = Digest.contentHash hashAlgorithm (content.take (1024 * 1024))

theorem Scan.hash_entryOf (adapters : List Adapter) (hashAlgorithm : String) (item : WorkItem)
    (content : Bytes) : (entryOf adapters hashAlgorithm item content).hash =
      Digest.contentHash hashAlgorithm (content.take digestWindow) := rfl

theorem ScanThreads.digestsFronts {setting : Setting} {scan : ScanResult}
    (scanned : setting.sequential = .ok scan) :
    scan.DigestsFronts setting.walk setting.request.hashAlgorithm := by
  intro entry shown
  obtain ⟨item, _, made⟩ := Setting.exists_item_of_shown scanned shown
  have path := Setting.path_of_process made
  unfold Setting.process at made
  obtain ⟨content, score, read, _, _, same⟩ := Scan.process_eq_ok.mp made
  have hash := congrArg Entry.hash same
  dsimp only at hash
  rw [Scan.hash_entryOf, digestWindow] at hash
  rw [path]
  exact ⟨content, read, hash⟩

namespace Indexing
open ScanThreads Noted

theorem symbolsOf_undigested (room : Nat) (site : Site) (root : Path) (adapters : List Adapter)
    (entry : Entry) : SymbolReading.symbolsOf room site root adapters entry.undigested =
      SymbolReading.symbolsOf room site root adapters entry := by
  have language : entry.undigested.language = entry.language := rfl
  have path : entry.undigested.path = entry.path := rfl
  unfold SymbolReading.symbolsOf
  rw [language, path]

theorem attach_undigested (room : Nat) (site : Site) (root : Path) (adapters : List Adapter)
    (candidates : List Entry) :
    (SymbolReading.attach room site root adapters (candidates.map .undigested)).1 =
      (SymbolReading.attach room site root adapters candidates).1.map (·.map .undigested) := by
  induction candidates with
  | nil => rfl
  | cons entry rest ih =>
      rw [List.map_cons, SymbolReading.attach, SymbolReading.attach, symbolsOf_undigested]
      cases SymbolReading.symbolsOf room site root adapters entry with
      | error fault => rfl
      | ok told =>
          dsimp only
          rw [ih]
          cases (SymbolReading.attach room site root adapters rest).1 with
          | error fault => rfl
          | ok others => rfl

theorem withSymbols_of_undigested (room : Nat) (site : Site) (root : Path)
    (adapters : List Adapter) (scan : ScanResult) :
    withSymbols room site root adapters scan.undigested =
      (withSymbols room site root adapters scan).map .undigested := by
  have candidates : scan.undigested.candidates = scan.candidates.map .undigested := rfl
  unfold withSymbols
  rw [candidates, attach_undigested]
  cases (SymbolReading.attach (room - 1) site root adapters scan.candidates).1 with
  | error fault => rfl
  | ok attached => rfl

/-- What a run reads is the same in both sites: the ignore file, which manifests outside are
there, the size and the front of every file that is to be read, and the window of every candidate
for symbols. -/
structure SameWindows (registry : Registry) (settings : Settings) (room : Nat) (a b : Site)
    (place : Place) : Prop where
  ignoreFile : b.read ((Path.ofPlace place).child ".gitignore") =
    a.read ((Path.ofPlace place).child ".gitignore")
  outside : SameOutside registry a b place
  fronts : ∀ adapters entries path,
    adaptersAt registry a settings (.ofPlace place) = .ok adapters →
    a.root.get? place = some (.directory entries) →
    (walkAt a place (requestOf settings room adapters)).Selects (.directory entries) path →
    (walkAt a place (requestOf settings room adapters)).rules.isEligible
      (Path.ofText path).name = true →
    ∀ first second, a.read (.ofPlace (place ++ (Path.ofText path).names)) = .ok first →
      b.read (.ofPlace (place ++ (Path.ofText path).names)) = .ok second →
        second.length = first.length ∧ second.take 1024 = first.take 1024
  windows : ∀ adapters scan,
    adaptersAt registry a settings (.ofPlace place) = .ok adapters →
    (Scan.run a (Path.ofPlace place).toText (requestOf settings room adapters)).outcome.1 =
      .ok scan →
    ∀ entry ∈ scan.candidates, ∀ first second,
      a.read (.ofPlace (place ++ (Path.ofText entry.path).names)) = .ok first →
      b.read (.ofPlace (place ++ (Path.ofText entry.path).names)) = .ok second →
        second.take 32768 = first.take 32768

section Windows
variable {registry : Registry} {settings : Settings} {room : Nat} {a b : Site} {place : Place}
  (alike : SameLayout a b place) (windows : SameWindows registry settings room a b place)

include alike windows in
theorem adaptersAt_eq (fits : Fits (.ofPlace place)) :
    adaptersAt registry b settings (.ofPlace place) =
      adaptersAt registry a settings (.ofPlace place) := by
  unfold adaptersAt
  rw [alike.detect_eq fits windows.outside]

include windows in
theorem walkAt_eq (request : ScanRequest) :
    walkAt b place request = ⟨b, place, (walkAt a place request).rules⟩ := by
  have same : Scan.ignoreFile b (.ofPlace place) = Scan.ignoreFile a (.ofPlace place) := by
    unfold Scan.ignoreFile
    simp only [windows.ignoreFile]
  unfold walkAt
  rw [same]

include alike windows in
theorem scan_undigested (fits : Fits (.ofPlace place)) {adapters : List Adapter}
    (chosen : adaptersAt registry a settings (.ofPlace place) = .ok adapters) :
    (∃ first second,
      (settle a (Path.ofPlace place).toText (requestOf settings room adapters) >>=
        Setting.sequential) = .ok first ∧
      (settle b (Path.ofPlace place).toText (requestOf settings room adapters) >>=
        Setting.sequential) = .ok second ∧
      second.undigested = first.undigested ∧
      ∀ entry ∈ first.candidates, ∃ names, ProperNames names ∧ entry.path = join "/" names) ∨
    ∃ failure,
      (settle a (Path.ofPlace place).toText (requestOf settings room adapters) >>=
        Setting.sequential) = .error failure ∧
      (settle b (Path.ofPlace place).toText (requestOf settings room adapters) >>=
        Setting.sequential) = .error failure := by
  obtain ⟨_, found⟩ := alike.directory
  obtain ⟨_, there⟩ := alike.symm.directory
  have names := (alike.before.of_get? found).1
  rw [settle_directory names fits found, settle_directory names fits there,
    walkAt_eq windows (requestOf settings room adapters)]
  change (∃ first second, Setting.sequential _ = _ ∧ Setting.sequential _ = _ ∧ _) ∨
    ∃ failure, Setting.sequential _ = _ ∧ Setting.sequential _ = _
  rcases alike.list_cases fits with ⟨entries, others, found, there, listed, again⟩ |
    ⟨error, refused, again⟩
  · have whole := (alike.before.of_get? found).2
    rw [listed, again]
    refine (sequential_undigested alike (requestOf settings room adapters)
      (walkAt a place (requestOf settings room adapters)).rules found there
      fun item member => ?_).imp_left ?_
    · have inside := List.mem_map_of_mem (f := fun item : WorkItem => item.path) member
      obtain ⟨selected, eligible, _⟩ := proper_of_work whole inside
      exact windows.fronts adapters entries item.path chosen found selected eligible
    · rintro ⟨first, second, scanned, rescanned, same⟩
      refine ⟨first, second, scanned, rescanned, same, fun entry member => ?_⟩
      exact (proper_of_work whole (path_of_mem_candidates scanned entry member)).2.2
  · right
    rw [refused, again]
    exact ⟨.os error, rfl, rfl⟩

include alike windows in
theorem symbolsOf_eq {adapters : List Adapter} {scan : ScanResult}
    (chosen : adaptersAt registry a settings (.ofPlace place) = .ok adapters)
    (scanned : (Scan.run a (Path.ofPlace place).toText
      (requestOf settings room adapters)).outcome.1 = .ok scan)
    {entry : Entry} (member : entry ∈ scan.candidates)
    (named : ∃ names, ProperNames names ∧ entry.path = join "/" names) :
    SymbolReading.symbolsOf (room - 1) b (.ofPlace place) adapters entry =
      SymbolReading.symbolsOf (room - 1) a (.ofPlace place) adapters entry := by
  obtain ⟨names, proper, path⟩ := named
  have window := windows.windows adapters scan chosen scanned entry member
  have child : (Path.ofPlace place).child entry.path = .ofPlace (place ++ names) := by
    rw [path]
    exact proper.child (.ofPlace place)
  rw [path, proper.ofText_join] at window
  unfold SymbolReading.symbolsOf
  cases SymbolReading.adapterOf? adapters entry.language with
  | none => rfl
  | some adapter =>
      dsimp only
      rw [child]
      rcases alike.reads proper.down with ⟨first, second, before, later⟩ | ⟨error, before, later⟩
      · have same : second.take symbolWindow = first.take symbolWindow :=
          window first second before later
        rw [before, later]
        dsimp only
        rw [same]
      · rw [before, later]

include alike windows in
theorem withSymbols_undigested {adapters : List Adapter} {first second : ScanResult}
    (chosen : adaptersAt registry a settings (.ofPlace place) = .ok adapters)
    (scanned : (Scan.run a (Path.ofPlace place).toText
      (requestOf settings room adapters)).outcome.1 = .ok first)
    (same : second.undigested = first.undigested)
    (named : ∀ entry ∈ first.candidates, ∃ names, ProperNames names ∧
      entry.path = join "/" names) :
    (withSymbols room b (.ofPlace place) adapters second).map ScanResult.undigested =
      (withSymbols room a (.ofPlace place) adapters first).map ScanResult.undigested := by
  have candidates : second.undigested.candidates = first.undigested.candidates :=
    congrArg ScanResult.candidates same
  -- both scans have the candidates of the first one, whose windows are the same in both sites
  have tables : ∀ entry ∈ first.undigested.candidates,
      SymbolReading.symbolsOf (room - 1) b (.ofPlace place) adapters entry =
        SymbolReading.symbolsOf (room - 1) a (.ofPlace place) adapters entry := by
    intro entry member
    obtain ⟨digested, inside, rfl⟩ := List.mem_map.mp member
    rw [symbolsOf_undigested, symbolsOf_undigested]
    exact symbolsOf_eq alike windows chosen scanned inside (named digested inside)
  rw [← withSymbols_of_undigested, ← withSymbols_of_undigested, same]
  unfold withSymbols
  rw [SymbolReading.attach_congr tables]

end Windows

theorem resultOf_undigested (settings : Settings) (now : Moment) (root : Path)
    (adapters : List Adapter) (tier : Tier) (scan : ScanResult) :
    resultOf settings now root adapters tier scan.undigested =
      resultOf settings now root adapters tier scan := by
  have summary (frame : IndexFrame) :
    frame.renderSummary scan.undigested now = frame.renderSummary scan now :=
    frame.render_undigested scan .summary now
  have length : scan.undigested.files.length = scan.files.length := List.length_map _
  have paths : scan.undigested.candidates.map (·.path) = scan.candidates.map (·.path) :=
    List.map_map
  unfold resultOf
  simp only [IndexFrame.render_undigested, summary, length, paths]
  rfl

theorem resultAt_undigested (settings : Settings) (now : Moment) (root : Path)
    (adapters : List Adapter) (scan : Except PathFault ScanResult) :
    (scan.mapError .path >>= resultAt settings now root adapters) =
      ((scan.map .undigested).mapError .path >>= resultAt settings now root adapters) := by
  cases scan with
  | error fault => rfl
  | ok scan =>
      change resultAt settings now root adapters scan =
        resultAt settings now root adapters scan.undigested
      unfold resultAt
      cases Tier.ofLabel? settings.tier with
      | none => rfl
      | some tier =>
          dsimp only
          rw [resultOf_undigested]

section Windows
variable {registry : Registry} {settings : Settings} {room : Nat} {a b : Site} {place : Place}
  (alike : SameLayout a b place) (windows : SameWindows registry settings room a b place)
include alike windows

theorem indexAt_eq_of_windows (now : Moment) :
    indexAt registry b settings room now (.ofPlace place) =
      indexAt registry a settings room now (.ofPlace place) := by
  have present := alike.exists_eq (List.not_mem_nil (a := ".."))
  rw [List.append_nil] at present
  by_cases there : a.exists? (.ofPlace place) = .ok true
  · have fits := Site.fits_of_exists there
    rw [indexAt_eq there, indexAt_eq (present.trans there), adaptersAt_eq alike windows fits]
    cases chosen : adaptersAt registry a settings (.ofPlace place) with
    | error failure => rw [bind_of_error rfl, bind_of_error rfl]
    | ok adapters =>
        rw [bind_of_ok rfl, bind_of_ok rfl]
        rcases scan_undigested alike windows fits chosen with
          ⟨first, second, scanned, rescanned, same, named⟩ | ⟨failure, failed, again⟩
        · have outcome := (ScanThreads.run_gives a (Path.ofPlace place).toText
            (requestOf settings room adapters)).outcome.trans scanned
          have symbols := withSymbols_undigested alike windows chosen outcome same named
          rw [bind_of_ok scanned, bind_of_ok rescanned, resultAt_undigested, symbols,
            ← resultAt_undigested]
        · rw [bind_of_error failed, bind_of_error again]
  · rw [indexAt_of_absent there, indexAt_of_absent (present ▸ there), present]

/-- Where a directory has one layout and the same windows in two sites, the same settings give the
same index, or fail in the same way. The digests in what a scan shows depend on no more than the
first mebibyte of each file. -/
theorem generate_eq_of_windows (rooted : rootOf a settings = .ok (.ofPlace place))
    (again : rootOf b settings = .ok (.ofPlace place)) (now : Moment) :
    (generate registry b settings room now).outcome.1 =
      (generate registry a settings room now).outcome.1 ∧
    ∀ site shown request scan, (Scan.run site shown request).outcome.1 = .ok scan →
      ∃ setting, settle site shown request = .ok setting ∧
        scan.DigestsFronts setting.walk request.hashAlgorithm := by
  constructor
  · rw [(generate_gives again registry room now).outcome,
      (generate_gives rooted registry room now).outcome, indexAt_eq_of_windows alike windows]
  · intro site shown request scan scanned
    rw [(run_gives site shown request).outcome] at scanned
    obtain ⟨setting, settled, scanned⟩ := exists_of_bind scanned
    refine ⟨setting, settled, ?_⟩
    rw [← (settled_for settled).1]
    exact digestsFronts scanned

end Windows

def codeSite (content : Bytes) : Site where
  root := .directory [("repo", .directory [("main.go", .file content)])]

def longFile (last : UInt8) : Bytes := List.replicate 32768 120 ++ [last]

section CodeSite
variable (content : Bytes)

theorem codeSite_found :
    (codeSite content).root.get? ["repo"] = some (.directory [("main.go", .file content)]) := rfl

theorem codeSite_proper : (codeSite content).root.Proper :=
  .single ⟨by decide, by decide, by decide, by decide⟩
    (.single ⟨by decide, by decide, by decide, by decide⟩ (.file content))

theorem codeSite_fits : Fits (.ofPlace (["repo"] ++ [".gitignore"])) :=
  ⟨by decide, by decide, by decide⟩

theorem codeSite_unignored : (codeSite content).read (.ofPlace (["repo"] ++ [".gitignore"])) =
    .error ⟨.missing, (Path.ofPlace (["repo"] ++ [".gitignore"])).toText⟩ :=
  Site.read_absent codeSite_fits (by decide) (codeSite_found content) rfl

theorem codeSite_rooted : rootOf (codeSite content) notesSettings = .ok (.ofPlace ["repo"]) :=
  Site.resolve_directory codeSite_fits.above (by decide) (codeSite_found content)

variable {content}

theorem codeSite_read {path : Path} {found : Bytes}
    (read : (codeSite content).read path = .ok found) : found = content := by
  obtain ⟨place, _, stands⟩ := Site.content_eq_ok.mp (Site.read_eq_ok.mp read).2
  have below {name : String} {item child : Item} {rest : Place}
      (stands : (Item.directory [(name, item)]).get? rest = some child)
      (file : child = .file found) : ∃ more, item.get? more = some child := by
    cases rest with
    | nil => cases (Option.some.inj stands).trans file
    | cons first more =>
        obtain ⟨_, _, same, inside, deeper⟩ := Item.exists_entry stands
        cases same
        cases List.mem_singleton.mp (mem_of_lookup inside)
        exact ⟨more, deeper⟩
  obtain ⟨_, stands⟩ := below stands rfl
  obtain ⟨more, stands⟩ := below stands rfl
  cases more with
  | nil => exact (Item.file.inj (Option.some.inj stands)).symm
  | cons _ _ => cases stands

end CodeSite

theorem codeSite_alike (first second : Bytes) :
    SameLayout (codeSite first) (codeSite second) ["repo"] :=
  @SameLayout.of_put ["repo"] (codeSite first) (codeSite_proper first) ⟨_, codeSite_found first⟩
    ["repo"] "main.go" first rfl second

theorem codeSite_windows {first second : Bytes} (size : second.length = first.length)
    (front : second.take 32768 = first.take 32768) :
    SameWindows Registry.standard notesSettings 990 (codeSite first) (codeSite second)
      ["repo"] where
  ignoreFile := (codeSite_unignored second).trans (codeSite_unignored first).symm
  outside := standard_sameOutside _ _ _
  fronts _ _ _ _ _ _ _ _ _ before later := by
    have window (content : Bytes) : (content.take 32768).take 1024 = content.take 1024 := by
      rw [List.take_take]
      rfl
    rw [codeSite_read before, codeSite_read later, ← window, front, window]
    exact ⟨size, rfl⟩
  windows _ _ _ _ _ _ _ _ before later := by
    rw [codeSite_read before, codeSite_read later, front]

theorem codeSite_reads (content : Bytes) :
    (codeSite content).read (.ofPlace (["repo"] ++ ["main.go"])) = .ok content := by
  have fits : Fits (.ofPlace (["repo"] ++ ["main.go"])) := ⟨by decide, by decide, by decide⟩
  exact Site.read_file fits (by decide) (codeSite_found content) rfl rfl

theorem codeSite_walk (content : Bytes) : (walkAt (codeSite content) ["repo"] notesRequest).all
    [("main.go", .file content)] =
      { work := [⟨"main.go", 0⟩], files := ["main.go"], totalFiles := 1 } := by
  have rules := notesSettings_rules (codeSite_found content) rfl
  have kept : (walkAt (codeSite content) ["repo"] notesRequest).rules.ignoresFile "main.go" =
      false := by
    rw [rules]
    decide
  have eligible : (walkAt (codeSite content) ["repo"] notesRequest).rules.isEligible "main.go" =
      true := by
    rw [rules]
    decide
  have flat : Walk.slashes "main.go" = 0 := by decide
  rw [Walk.all, Walk.entries_eq_map, List.map_singleton, Walk.childPath_root, Walk.item,
    Walk.fileFindings, kept, eligible, flat, Findings.gather, List.mergeSort_singleton]
  rfl

theorem codeSite_entry (content : Bytes) (listing : Except OsError _) : ∃ entry,
    Setting.process ⟨notesRequest, walkAt (codeSite content) ["repo"] notesRequest, listing⟩
      ⟨"main.go", 0⟩ = .ok entry := by
  have place : (walkAt (codeSite content) ["repo"] notesRequest).placeOf "main.go" =
      ["repo"] ++ ["main.go"] := by
    rw [Walk.placeOf, show (Path.ofText "main.go").names = ["main.go"] by decide]
    rfl
  have sorted : byName notesRequest.adapters = [Profiles.go] := List.mergeSort_singleton _
  have own : adapterFor? (baseName "main.go") [Profiles.go] = some Profiles.go := by
    unfold adapterFor?
    rw [if_neg (by decide), List.find?_cons_of_pos (by decide)]
  obtain ⟨score, scored⟩ : ∃ score, scoreOf
      (Scan.entryOf [Profiles.go] notesRequest.hashAlgorithm ⟨"main.go", 0⟩ content)
      (some Profiles.go) (ScanRules.priority [Profiles.go] notesRequest.overrides) = .ok score := by
    unfold scoreOf Adapter.modifier
    exact ⟨_, rfl⟩
  unfold Setting.process
  dsimp only
  rw [sorted]
  refine ⟨_, Scan.process_eq_ok.mpr ⟨content, score, ?_, rfl, ?_, rfl⟩⟩
  · rw [place]
    exact codeSite_reads content
  · rw [own]
    exact scored

theorem codeSite_scan (content : Bytes) : ∃ scan : ScanResult,
    (Scan.run (codeSite content) (Path.ofPlace ["repo"]).toText notesRequest).outcome.1 =
      .ok scan ∧ scan.candidates.map (·.path) = ["main.go"] := by
  have fits : Fits (.ofPlace ["repo"]) := codeSite_fits.above
  have found := codeSite_found content
  have listed : (codeSite content).list (.ofPlace ["repo"]) = .ok [("main.go", .file content)] :=
    (Site.list_directory fits (by decide) found).trans (if_neg Bool.false_ne_true)
  have settled := settle_directory ((codeSite_proper content).of_get? found).1 fits found
    notesRequest
  rw [listed] at settled
  obtain ⟨entry, made⟩ := codeSite_entry content (.ok [("main.go", .file content)])
  have path : entry.path = "main.go" := Setting.path_of_process made
  have findings : Setting.findings ⟨notesRequest, walkAt (codeSite content) ["repo"] notesRequest,
      .ok [("main.go", .file content)]⟩ =
        { work := [⟨"main.go", 0⟩], files := ["main.go"], totalFiles := 1 } := codeSite_walk content
  have shallow : Setting.Shallow ⟨notesRequest, walkAt (codeSite content) ["repo"] notesRequest,
      .ok [("main.go", .file content)]⟩ := by
    rw [Setting.Shallow, findings]
    change Scan.callsFor 0 ≤ 989
    decide
  rw [run_eq_sequential settled, Setting.sequential_listed rfl shallow, Setting.result, findings,
    Scan.processAll_entries, List.filterMap_cons, made]
  refine ⟨_, rfl, ?_⟩
  simp only [Except.toOption, List.filterMap_nil, Scan.assemble, List.mergeSort_singleton,
    selectCandidates, rank]
  rw [← path]
  rfl

theorem codeSite_indexed (content : Bytes) : ∃ result,
    (generate Registry.standard (codeSite content) notesSettings 990 notesOutside.now).outcome.1 =
      .ok result := by
  obtain ⟨scan, scanned, candidates⟩ := codeSite_scan content
  have clean : ∀ entry ∈ scan.candidates,
      hasNul ((Path.ofPlace ["repo"]).child entry.path) = false := by
    intro entry member
    have path := List.mem_map_of_mem (f := fun entry : Entry => entry.path) member
    rw [candidates, List.mem_singleton] at path
    rw [path]
    decide
  obtain ⟨full, attached⟩ := exists_withSymbols 990 (codeSite content) [Profiles.go] clean
  rw [(run_gives _ _ _).outcome] at scanned
  rw [(generate_gives (codeSite_rooted content) _ _ _).outcome]
  exact ⟨_, notesSettings_indexed (codeSite_found content) scanned attached⟩

theorem longFile_same_index :
    longFile 50 ≠ longFile 49 ∧
    SameLayout (codeSite (longFile 49)) (codeSite (longFile 50)) ["repo"] ∧
    SameWindows Registry.standard notesSettings 990 (codeSite (longFile 49))
      (codeSite (longFile 50)) ["repo"] ∧
    rootOf (codeSite (longFile 49)) notesSettings = .ok (.ofPlace ["repo"]) ∧
    rootOf (codeSite (longFile 50)) notesSettings = .ok (.ofPlace ["repo"]) ∧
    (∃ result,
      (generate Registry.standard (codeSite (longFile 49)) notesSettings 990
        notesOutside.now).outcome.1 = .ok result ∧
      (generate Registry.standard (codeSite (longFile 50)) notesSettings 990
        notesOutside.now).outcome.1 = .ok result) ∧
    ∃ scan setting,
      (Scan.run (codeSite (longFile 49)) (Path.ofPlace ["repo"]).toText notesRequest).outcome.1 =
        .ok scan ∧
      settle (codeSite (longFile 49)) (Path.ofPlace ["repo"]).toText notesRequest = .ok setting ∧
      scan.candidates.map (·.path) = ["main.go"] ∧
      scan.DigestsFronts setting.walk notesRequest.hashAlgorithm := by
  have differ : longFile 50 ≠ longFile 49 := fun same =>
    absurd (List.append_cancel_left same) (by decide)
  have size : (longFile 50).length = (longFile 49).length := by
    rw [longFile, longFile, List.length_append, List.length_append, List.length_singleton,
      List.length_singleton]
  have front (last : UInt8) : (longFile last).take 32768 = List.replicate 32768 120 :=
    List.take_left' List.length_replicate
  have alike := codeSite_alike (longFile 49) (longFile 50)
  have windows := codeSite_windows size ((front 50).trans (front 49).symm)
  have rooted := codeSite_rooted (longFile 49)
  have again := codeSite_rooted (longFile 50)
  obtain ⟨same, digests⟩ := generate_eq_of_windows alike windows rooted again notesOutside.now
  obtain ⟨scan, scanned, candidates⟩ := codeSite_scan (longFile 49)
  obtain ⟨setting, settled, fronts⟩ := digests _ _ _ scan scanned
  obtain ⟨result, made⟩ := codeSite_indexed (longFile 49)
  exact ⟨differ, alike, windows, rooted, again, ⟨result, made, same.trans made⟩, scan, setting,
    scanned, settled, candidates, fronts⟩

end Indexing

end SourceAtlas
