import SourceAtlas.Proofs.AddedFile
import SourceAtlas.Proofs.EncodedText
import SourceAtlas.Proofs.IndexNames
import SourceAtlas.Proofs.IsolatedFaults
import SourceAtlas.Proofs.OverrideGlobs
import SourceAtlas.Proofs.PatternLines
import SourceAtlas.Proofs.Rescan

/-!
A glob of an override set against the same text as the only line of an ignore file. Both leave out
the files that the rule of the text names. The line leaves out directories as well, and with them
the files below; a glob is about files, so it leaves those that it does not name itself.
-/
namespace SourceAtlas

open Text

def ScanResult.paths (indexed : Bool) (result : ScanResult) : List String :=
  if indexed then result.files.map (·.path) else result.otherFiles

def Site.withIgnoreLine (site : Site) (place : Place) (line : String) : Site :=
  site.withFile place ".gitignore" (Utf8.encode (line ++ "\n"))

/-- A directory that may be listed, has no ignore file and can be given one that may be read. -/
structure Unignored (site : Site) (place : Place) (entries : List (String × Item)) : Prop where
  proper : site.root.Proper
  found : site.root.get? place = some (.directory entries)
  absent : entries.lookup ".gitignore" = none
  fits : Fits (.ofPlace (place ++ [".gitignore"]))
  listed : site.isLocked place = false
  readable : site.unreadable.contains (place ++ [".gitignore"]) = false

def Site.LeadsToIgnoreFile (site : Site) (place : Place) (names : List String) : Prop :=
  locate site.root .existing linkLimit [] (place ++ names) = .ok (place ++ [".gitignore"])

/-- A rule names none of the directories on the way to a file. -/
def Rule.Spares (rule : Rule) (names : List String) : Prop :=
  ∀ above, above ≠ [] → above <+: names → above ≠ names → rule.holds (join "/" above) true = false

theorem properName_gitignore : ProperName ".gitignore" :=
  ⟨by decide, by decide, by decide, by decide⟩

theorem child_gitignore (place : Place) :
    (Path.ofPlace place).child ".gitignore" = .ofPlace (place ++ [".gitignore"]) :=
  properName_gitignore.child _

namespace Unignored

variable {site : Site} {place : Place} {entries : List (String × Item)}
  (bare : Unignored site place entries)
include bare

theorem down : ".." ∉ place ++ [".gitignore"] :=
  ((bare.proper.of_get? bare.found).1.snoc properName_gitignore).down

theorem found_ignored (line : String) : (site.withIgnoreLine place line).root.get? place =
    some (.directory (Item.putEntry ".gitignore" (.file (Utf8.encode (line ++ "\n"))) entries)) :=
  Site.withFile_found bare.found _

theorem ignoreFile_bare : (Scan.ignoreFile site (.ofPlace place)).1 = [] := by
  have unread := Site.read_absent bare.fits bare.down bare.found bare.absent
  unfold Scan.ignoreFile
  dsimp only
  rw [child_gitignore, unread]
  rfl

theorem ignoreFile_ignored (line : String) :
    (Scan.ignoreFile (site.withIgnoreLine place line) (.ofPlace place)).1 =
      Rule.ofText (universalLines (line ++ "\n")) := by
  have read := Site.read_file bare.fits bare.down (bare.found_ignored line)
    (Item.lookup_putEntry_self ".gitignore" _ entries) bare.readable
  unfold Scan.ignoreFile
  dsimp only
  rw [child_gitignore, read]
  dsimp only
  rw [Utf8.decodeReplacing_encode]

theorem proper_ignored (line : String) : (Item.directory (Item.putEntry ".gitignore"
    (.file (Utf8.encode (line ++ "\n"))) entries)).Proper :=
  proper_putEntry bare.found bare.absent bare.proper properName_gitignore (.file _)

theorem ne_of_not_leads {line : String} {names : List String}
    (other : ¬(site.withIgnoreLine place line).LeadsToIgnoreFile place names) :
    names ≠ [".gitignore"] := by
  rintro rfl
  exact other (Site.locate_file bare.fits bare.down (bare.found_ignored line)
    (Item.lookup_putEntry_self ".gitignore" _ entries) .existing)

end Unignored

namespace ScanRules

variable (request : ScanRequest) {name pattern : String} {adapters : List Adapter} {rule : Rule}

theorem ignoresFile_ignored (active : ∃ adapter ∈ adapters, adapter.name = name)
    (built : Rule.build? pattern false = some rule) (kept : rule.negated = false) (path : String) :
    (compile adapters request.overrides [rule]).ignoresFile path =
      (compile adapters (request.withGlob name pattern).overrides []).ignoresFile path := by
  have nothing : Rule.ignores [] path false = false := rfl
  rw [ignoresFile_withGlob request name pattern active built, ignoresFile, ignoresFile]
  simp only [compile, Rule.ignores_single kept, nothing, Bool.false_or]
  exact Bool.or_comm _ _

theorem ignoresDirectory_ignored (kept : rule.negated = false) (directory path : String) :
    (compile adapters request.overrides [rule]).ignoresDirectory directory path =
      ((compile adapters (request.withGlob name pattern).overrides []).ignoresDirectory directory
        path || rule.holds path true) := by
  have directories := @directories_withGlob request name pattern adapters []
  have nothing : Rule.ignores [] path true = false := rfl
  rw [ignoresDirectory, ignoresDirectory, directories]
  simp only [compile, Rule.ignores_single kept, nothing, Bool.or_false]

end ScanRules

namespace Walk

section Ignoring

variable {site : Site} {place : Place} {entries : List (String × Item)}
  (bare : Unignored site place entries) {line : String} {rule : Rule} {globs ignoring : ScanRules}
include bare

theorem namesFile_ignored {names : List String}
    (other : ¬(site.withIgnoreLine place line).LeadsToIgnoreFile place names) :
    NamesFile ⟨site.withIgnoreLine place line, place, ignoring⟩ (.directory
        (Item.putEntry ".gitignore" (.file (Utf8.encode (line ++ "\n"))) entries)) names ↔
      NamesFile ⟨site, place, globs⟩ (.directory entries) names := by
  by_cases filled : names = []
  · -- the root itself has changed, but it is no file in either tree
    subst filled
    simp [NamesFile]
  · have same := get?_putEntry_file bare.absent (Utf8.encode (line ++ "\n")) filled
      (bare.ne_of_not_leads other)
    have leads (content : Bytes) := Site.item_withFile bare.found (Utf8.encode (line ++ "\n"))
      bare.absent other content
    unfold NamesFile
    rw [same]
    exact or_congr_right (and_congr_right fun _ => exists_congr leads)

theorem enters_ignored
    (directories : ∀ name path, ignoring.ignoresDirectory name path =
      (globs.ignoresDirectory name path || rule.holds path true))
    {names : List String} (filled : names ≠ []) :
    Enters ⟨site.withIgnoreLine place line, place, ignoring⟩ (.directory
        (Item.putEntry ".gitignore" (.file (Utf8.encode (line ++ "\n"))) entries)) names ↔
      Enters ⟨site, place, globs⟩ (.directory entries) names ∧
        rule.holds (join "/" names) true = false := by
  have kept : ignoring.ignoresDirectory (names.getLastD "") (join "/" names) = false ↔
      globs.ignoresDirectory (names.getLastD "") (join "/" names) = false ∧
        rule.holds (join "/" names) true = false := by
    rw [directories, Bool.or_eq_false_iff]
  have real : (∃ listed, (Item.directory (Item.putEntry ".gitignore"
        (.file (Utf8.encode (line ++ "\n"))) entries)).get? names = some (.directory listed)) ↔
      ∃ listed, (Item.directory entries).get? names = some (.directory listed) := by
    -- of all that stands below the directory only the ignore file is new, and it is no directory
    by_cases self : names = [".gitignore"]
    · subst self
      simp [Item.get?, Item.lookup_putEntry_self, bare.absent]
    · rw [get?_putEntry_file bare.absent _ filled self]
  constructor
  · rintro ⟨stands, listed, open_⟩
    exact ⟨⟨real.mp stands, listed, (kept.mp open_).1⟩, (kept.mp open_).2⟩
  · rintro ⟨⟨stands, listed, open_⟩, spared⟩
    exact ⟨real.mpr stands, listed, kept.mpr ⟨open_, spared⟩⟩

theorem selects_ignored (files : ∀ path, ignoring.ignoresFile path = globs.ignoresFile path)
    (directories : ∀ name path, ignoring.ignoresDirectory name path =
      (globs.ignoresDirectory name path || rule.holds path true))
    {path : String}
    (other : ¬(site.withIgnoreLine place line).LeadsToIgnoreFile place (Path.ofText path).names) :
    Selects ⟨site.withIgnoreLine place line, place, ignoring⟩ (.directory
        (Item.putEntry ".gitignore" (.file (Utf8.encode (line ++ "\n"))) entries)) path ↔
      Selects ⟨site, place, globs⟩ (.directory entries) path ∧
        rule.Spares (Path.ofText path).names := by
  have file := @namesFile_ignored _ _ _ bare line globs ignoring _ other
  constructor
  · rintro ⟨written, leads, entered, kept⟩
    refine ⟨⟨written, file.mp leads, fun above filled front apart => ?_, files path ▸ kept⟩,
      fun above filled front apart => ?_⟩
    · exact ((enters_ignored bare directories filled).mp (entered above filled front apart)).1
    · exact ((enters_ignored bare directories filled).mp (entered above filled front apart)).2
  · rintro ⟨⟨written, leads, entered, kept⟩, spares⟩
    refine ⟨written, file.mpr leads, fun above filled front apart => ?_, (files path).trans kept⟩
    exact (enters_ignored bare directories filled).mpr
      ⟨entered above filled front apart, spares above filled front apart⟩

end Ignoring

end Walk

namespace ScanThreads

/-- The files that a scan shows: those of the walk, and of the eligible ones those that have an
entry. -/
theorem Setting.mem_paths_iff {setting : Setting} {entries : List (String × Item)}
    (listed : setting.listing = .ok entries) {result : ScanResult}
    (scanned : setting.sequential = .ok result) {indexed : Bool} {path : String} :
    path ∈ result.paths indexed ↔ path ∈ (setting.walk.all entries).paths indexed ∧
      (indexed = true → ∃ entry, setting.process ⟨path, Walk.slashes path⟩ = .ok entry) := by
  have found : setting.findings = setting.walk.all entries := by
    rw [Setting.findings, listed]
  obtain ⟨_, _, rfl⟩ := Setting.sequential_eq_ok_iff.mp scanned
  cases indexed with
  | false =>
      change path ∈ sortTexts setting.findings.others ↔ _
      rw [found, sortTexts, List.mem_mergeSort]
      simp [Findings.paths]
  | true =>
      change path ∈ List.map _ (List.mergeSort _ _) ↔ path ∈ List.map _ _ ∧ _
      rw [List.mem_map, List.mem_map, ← found]
      simp only [List.mem_mergeSort, forall_const]
      constructor
      · rintro ⟨entry, made, rfl⟩
        obtain ⟨item, listed, given⟩ := Setting.exists_item made
        have same : item = ⟨entry.path, Walk.slashes entry.path⟩ := by
          rw [Setting.path_of_process given, ← Setting.depth_of_mem listed]
        exact ⟨⟨item, listed, (Setting.path_of_process given).symm⟩, entry, same ▸ given⟩
      · rintro ⟨⟨item, listed, rfl⟩, entry, given⟩
        rw [← Setting.depth_of_mem listed] at given
        refine ⟨entry, ?_, Setting.path_of_process given⟩
        rw [Scan.processAll_entries, List.mem_filterMap]
        exact ⟨item, listed, by rw [given]; rfl⟩

def globbing (request : ScanRequest) (name pattern : String) (site : Site) (place : Place)
    (entries : List (String × Item)) : Setting where
  request := request.withGlob name pattern
  walk := ⟨site, place,
    .compile (byName request.adapters) (request.withGlob name pattern).overrides []⟩
  listing := .ok entries

def ignoring (request : ScanRequest) (pattern : String) (site : Site) (place : Place)
    (entries : List (String × Item)) : Setting where
  request := request
  walk := ⟨site.withIgnoreLine place pattern, place,
    .compile (byName request.adapters) request.overrides
      (Rule.ofText (universalLines (pattern ++ "\n")))⟩
  listing := .ok (Item.putEntry ".gitignore" (.file (Utf8.encode (pattern ++ "\n"))) entries)

section Line

variable {site : Site} {place : Place} {entries : List (String × Item)}
  (bare : Unignored site place entries) {request : ScanRequest} {name pattern : String}
  {rule : Rule}
include bare

section Settled

variable {shown : String} {path : Path} (home : site.expandHome (.ofText shown) = .ok path)
  (resolved : site.resolve path = .ok (.ofPlace place))
include home resolved

theorem settle_globbing : settle site shown (request.withGlob name pattern) =
    .ok (globbing request name pattern site place entries) := by
  have down := (bare.proper.of_get? bare.found).1.down
  rw [settle_resolved home resolved bare.fits.above down bare.found, walkAt, bare.ignoreFile_bare,
    Site.list_directory bare.fits.above down bare.found, bare.listed]
  rfl

theorem settle_ignoring : settle (site.withIgnoreLine place pattern) shown request =
    .ok (ignoring request pattern site place entries) := by
  have down := (bare.proper.of_get? bare.found).1.down
  have same : (site.withIgnoreLine place pattern).expandHome (.ofText shown) = .ok path := home
  have again : (site.withIgnoreLine place pattern).resolve path = .ok (.ofPlace place) :=
    Site.resolve_withFile bare.found _ bare.absent bare.fits.above down resolved
  have unlocked : (site.withIgnoreLine place pattern).isLocked place = false := bare.listed
  rw [settle_resolved same again bare.fits.above down (bare.found_ignored pattern), walkAt,
    bare.ignoreFile_ignored,
    Site.list_directory bare.fits.above down (bare.found_ignored pattern), unlocked]
  rfl

end Settled

theorem process_ignoring {item : WorkItem}
    (other : ¬(site.withIgnoreLine place pattern).LeadsToIgnoreFile place
      (Path.ofText item.path).names) (entry : Entry) :
    (ignoring request pattern site place entries).process item = .ok entry ↔
      (globbing request name pattern site place entries).process item = .ok entry := by
  have read (content : Bytes) := Site.read_withFile bare.found
    (Utf8.encode (pattern ++ "\n")) bare.absent other content
  have priority := @ScanRules.priority_withGlob request name pattern (byName request.adapters)
  have adapters : (request.withGlob name pattern).adapters = request.adapters := rfl
  have hash : (request.withGlob name pattern).hashAlgorithm = request.hashAlgorithm := rfl
  simp only [ignoring, globbing, Setting.process, adapters, hash, priority, Scan.process_eq_ok]
  exact exists_congr fun content => exists_congr fun score => and_congr (read content) Iff.rfl

variable (active : ∃ adapter ∈ byName request.adapters, adapter.name = name)
  (built : Rule.build? pattern false = some rule) {globbed ignored : ScanResult}
  (first : (globbing request name pattern site place entries).sequential = .ok globbed)
include active built first

theorem mem_paths_ignoring (kept : rule.negated = false)
    (lines : Rule.ofText (universalLines (pattern ++ "\n")) = [rule])
    (second : (ignoring request pattern site place entries).sequential = .ok ignored)
    {indexed : Bool} {path : String}
    (other : ¬(site.withIgnoreLine place pattern).LeadsToIgnoreFile place
      (Path.ofText path).names) :
    path ∈ ignored.paths indexed ↔
      path ∈ globbed.paths indexed ∧ rule.Spares (Path.ofText path).names := by
  have whole := (bare.proper.of_get? bare.found).2
  have fuller := bare.proper_ignored pattern
  have selected := Walk.selects_ignored bare
    (ScanRules.ignoresFile_ignored request active built kept)
    (ScanRules.ignoresDirectory_ignored request kept) other
  rw [← lines] at selected
  have processed := exists_congr (@process_ignoring _ _ _ bare request name pattern
    ⟨path, Walk.slashes path⟩ other)
  have eligible : (ignoring request pattern site place entries).walk.rules.isEligible
        (Path.ofText path).name =
      (globbing request name pattern site place entries).walk.rules.isEligible
        (Path.ofText path).name :=
    (ScanRules.isEligible_compile _ _ _ _).trans (ScanRules.isEligible_compile _ _ _ _).symm
  rw [Setting.mem_paths_iff rfl second, Setting.mem_paths_iff rfl first,
    Walk.mem_paths_iff _ fuller, Walk.mem_paths_iff _ whole, eligible]
  constructor
  · rintro ⟨⟨found, known⟩, made⟩
    obtain ⟨before, spares⟩ := selected.mp found
    exact ⟨⟨⟨before, known⟩, fun own => processed.mp (made own)⟩, spares⟩
  · rintro ⟨⟨⟨before, known⟩, made⟩, spares⟩
    exact ⟨⟨selected.mpr ⟨before, spares⟩, known⟩, fun own => processed.mpr (made own)⟩

theorem spares_of_slashless (slashless : '/' ∉ (strip pattern).toList) {indexed : Bool}
    {path : String} (left : path ∈ globbed.paths indexed) :
    rule.Spares (Path.ofText path).names := by
  have whole := (bare.proper.of_get? bare.found).2
  rw [Setting.mem_paths_iff rfl first, Walk.mem_paths_iff _ whole] at left
  obtain ⟨⟨⟨written, file, _, clear⟩, _⟩, _⟩ := left
  have unheld : (ScanRules.compile (byName request.adapters)
      (request.withGlob name pattern).overrides []).ignoresFile path = false := clear
  rw [ScanRules.ignoresFile_withGlob request name pattern active built, Bool.or_eq_false_iff]
    at unheld
  intro above filled front _
  rw [Bool.eq_false_iff]
  intro held
  -- the rule looks at each name by itself, so with the directory it would name the file
  have below := (Rule.plain_of_slashless built slashless).holds_below (file.proper whole) filled
    front held
  rw [written, unheld.2] at below
  cases below

end Line

theorem runs_eq {site : Site} {place : Place} {entries : List (String × Item)}
    (bare : Unignored site place entries) {shown : String} {path : Path}
    (home : site.expandHome (.ofText shown) = .ok path)
    (resolved : site.resolve path = .ok (.ofPlace place)) (request : ScanRequest)
    (name pattern : String) :
    (Scan.run site shown (request.withGlob name pattern)).outcome.1 =
      (globbing request name pattern site place entries).sequential ∧
    (Scan.run (site.withIgnoreLine place pattern) shown request).outcome.1 =
      (ignoring request pattern site place entries).sequential :=
  ⟨run_eq_sequential (@settle_globbing _ _ _ bare request name pattern _ _ home resolved),
    run_eq_sequential (@settle_ignoring _ _ _ bare request pattern _ _ home resolved)⟩

def Setting.Ends (setting : Setting) (outcome : Except Failure ScanResult) : Prop :=
  (setting.Shallow → ∃ result, outcome = .ok result) ∧
    (¬setting.Shallow → outcome = .error .tooNested)

theorem Setting.sequential_ends {setting : Setting} {entries : List (String × Item)}
    (listed : setting.listing = .ok entries) : setting.Ends setting.sequential :=
  ⟨fun shallow => ⟨_, sequential_listed listed shallow⟩, sequential_tooNested listed⟩

/-- A glob in the override of an active adapter, set against the same text as the only line of an
ignore file in a directory that has none. Each scan succeeds unless its tree is too deep. Apart from
the ignore file, the line leaves of the files that the glob leaves those that lie below no directory
that the rule names: so it leaves the same if the text has no slash in it, and otherwise the glob
leaves more by exactly the files below such directories. -/
theorem glob_and_line_compared {site : Site} {place : Place} {entries : List (String × Item)}
    (bare : Unignored site place entries) {shown : String} {path : Path}
    (home : site.expandHome (.ofText shown) = .ok path)
    (resolved : site.resolve path = .ok (.ofPlace place)) {request : ScanRequest}
    {adapter : Adapter} (active : adapter ∈ request.adapters) {pattern : String}
    (line : RuleLine pattern) :
    ∃ rule, Rule.build? pattern false = some rule ∧
      (globbing request adapter.name pattern site place entries).Ends
        (Scan.run site shown (request.withGlob adapter.name pattern)).outcome.1 ∧
      (ignoring request pattern site place entries).Ends
        (Scan.run (site.withIgnoreLine place pattern) shown request).outcome.1 ∧
      ∀ globbed ignored,
        (Scan.run site shown (request.withGlob adapter.name pattern)).outcome.1 = .ok globbed →
        (Scan.run (site.withIgnoreLine place pattern) shown request).outcome.1 = .ok ignored →
        ∀ indexed path, ¬(site.withIgnoreLine place pattern).LeadsToIgnoreFile place
            (Path.ofText path).names →
          (path ∈ ignored.paths indexed ↔
            path ∈ globbed.paths indexed ∧ rule.Spares (Path.ofText path).names) ∧
          ('/' ∉ (strip pattern).toList →
            (path ∈ ignored.paths indexed ↔ path ∈ globbed.paths indexed)) := by
  obtain ⟨rule, built, kept, lines⟩ := Rule.exists_of_line line
  have sorted : ∃ one ∈ byName request.adapters, one.name = adapter.name :=
    ⟨adapter, List.mem_mergeSort.mpr active, rfl⟩
  obtain ⟨globs, ignores⟩ := runs_eq bare home resolved request adapter.name pattern
  rw [globs, ignores]
  refine ⟨rule, built, Setting.sequential_ends rfl, Setting.sequential_ends rfl,
    fun globbed ignored first second indexed path other => ?_⟩
  have compared := @mem_paths_ignoring _ _ _ bare _ _ _ _ sorted built _ _ first kept lines second
    indexed path other
  refine ⟨compared, fun slashless => compared.trans (and_iff_left_of_imp fun left => ?_)⟩
  exact spares_of_slashless bare sorted built first slashless left

/-- A file whose name starts with a number sign, a directory with a file and a link that leads
nowhere as long as there is no ignore file. -/
def plainEntries : List (String × Item) :=
  [("#a", .file []), ("docs", .directory [("a", .file [])]), ("x", .link ".gitignore")]

def plainSite : Site where
  root := .directory plainEntries

theorem plainEntries_proper : (Item.directory plainEntries).Proper := by
  refine .directory ?_ (by decide) ?_ <;>
    simp only [plainEntries, List.forall_mem_cons, List.not_mem_nil, IsEmpty.forall_iff,
      implies_true, and_true]
  · refine ⟨?_, ?_, ?_⟩ <;> constructor <;> decide
  · exact ⟨.file _, .single ⟨by decide, by decide, by decide, by decide⟩ (.file _), .link _⟩

theorem plainSite_unignored : Unignored plainSite [] plainEntries where
  proper := plainEntries_proper
  found := rfl
  absent := by decide
  fits := ⟨by decide, by decide, by decide⟩
  listed := rfl
  readable := rfl

theorem plainSite_home : plainSite.expandHome (.ofText "/") = .ok (.ofPlace []) := by cbv

theorem plainSite_resolved : plainSite.resolve (.ofPlace []) = .ok (.ofPlace []) :=
  Site.resolve_directory ⟨by decide, by decide, by decide⟩ (by decide) plainSite_unignored.found

theorem ruleLine_docs : RuleLine "docs/" where
  single := by
    have plain : "docs/".toList.all (!isLineEnd ·) = true := by decide
    simpa using plain
  filled := by decide
  comment := by decide
  negation := by decide

theorem eq_single {above : List String} {name : String} (filled : above ≠ [])
    (front : above <+: [name]) : above = [name] := by
  rcases List.prefix_cons_iff.mp front with none | ⟨rest, rfl, last⟩
  · exact absurd none filled
  · rw [List.prefix_nil.mp last]

theorem byName_everyName : byName everyName.adapters = everyName.adapters :=
  List.mergeSort_singleton _

theorem plainSite_runs (pattern : String) :
    ∃ globbed ignored,
      (Scan.run plainSite "/" (everyName.withGlob "any" pattern)).outcome.1 = .ok globbed ∧
      (globbing everyName "any" pattern plainSite [] plainEntries).sequential = .ok globbed ∧
      (Scan.run (plainSite.withIgnoreLine [] pattern) "/" everyName).outcome.1 = .ok ignored ∧
      (ignoring everyName pattern plainSite [] plainEntries).sequential = .ok ignored := by
  obtain ⟨globs, ignores⟩ := runs_eq plainSite_unignored plainSite_home plainSite_resolved
    everyName "any" pattern
  have few : 6 ≤ everyName.room := by decide
  have shallow : (globbing everyName "any" pattern plainSite [] plainEntries).Shallow :=
    Setting.shallow_of_height rfl few
  have second : (ignoring everyName pattern plainSite [] plainEntries).Shallow :=
    Setting.shallow_of_height rfl few
  obtain ⟨globbed, first⟩ := (Setting.sequential_ends rfl).1 shallow
  obtain ⟨ignored, other⟩ := (Setting.sequential_ends rfl).1 second
  exact ⟨globbed, ignored, globs.trans first, first, ignores.trans other, other⟩

theorem plainSite_compared :
    Unignored plainSite [] plainEntries ∧ RuleLine "docs/" ∧ ∃ globbed ignored,
      (Scan.run plainSite "/" (everyName.withGlob "any" "docs/")).outcome.1 = .ok globbed ∧
      (Scan.run (plainSite.withIgnoreLine [] "docs/") "/" everyName).outcome.1 = .ok ignored ∧
      ("#a" ∈ ignored.paths true ↔ "#a" ∈ globbed.paths true) ∧
      "docs/a" ∉ ignored.paths true := by
  have active : everyName.adapters[0] ∈ everyName.adapters := List.getElem_mem _
  obtain ⟨globbed, ignored, globs, _, ignores, _⟩ := plainSite_runs "docs/"
  obtain ⟨rule, built, _, _, whole⟩ := glob_and_line_compared plainSite_unignored plainSite_home
    plainSite_resolved active ruleLine_docs
  have compared := whole globbed ignored globs ignores
  have direct (content : Bytes) :
      locate (plainSite.withFile [] ".gitignore" content).root .existing linkLimit [] ["#a"] =
        .ok ["#a"] ∧
      locate (plainSite.withFile [] ".gitignore" content).root .existing linkLimit []
        ["docs", "a"] = .ok ["docs", "a"] := by
    constructor <;> cbv
  have beside := (compared true "#a" fun leads =>
    absurd ((direct _).1.symm.trans leads) (by decide)).1
  have inside := (compared true "docs/a" fun leads =>
    absurd ((direct _).2.symm.trans leads) (by decide)).1
  refine ⟨plainSite_unignored, ruleLine_docs, globbed, ignored, globs, ignores,
    beside.trans (and_iff_left ?_), fun left => ?_⟩
  · intro above filled front other
    exact absurd (eq_single filled front) other
  · have named : (Rule.build? "docs/" false).all (·.holds "docs" true) = true := by decide +kernel
    have spared := (inside.mp left).2 ["docs"] (by decide) ⟨["a"], rfl⟩ (by decide)
    rw [built] at named
    exact absurd (spared.symm.trans named) (by decide)

theorem Setting.mem_paths_of_selects {setting : Setting} {entries : List (String × Item)}
    (listed : setting.listing = .ok entries) {result : ScanResult}
    (scanned : setting.sequential = .ok result) (proper : (Item.directory entries).Proper)
    {path : String} (selected : setting.walk.Selects (.directory entries) path)
    (eligible : setting.walk.rules.isEligible (Path.ofText path).name = true) {content : Bytes}
    (read : setting.walk.site.read (.ofPlace (setting.walk.placeOf path)) = .ok content)
    (free : setting.walk.site.isLocked (setting.walk.placeOf path) = false)
    (weighed : ∀ entry : Entry, entry.path = path →
      weighs (byName setting.request.adapters) entry = true) :
    path ∈ result.paths true := by
  rw [mem_paths_iff listed scanned, Walk.mem_paths_iff _ proper]
  refine ⟨⟨selected, eligible⟩, fun _ => ?_⟩
  obtain ⟨score, scored⟩ := exists_scored
    (ScanRules.priority (byName setting.request.adapters) setting.request.overrides)
    (weighed (Scan.entryOf (byName setting.request.adapters) setting.request.hashAlgorithm
      ⟨path, Walk.slashes path⟩ content) rfl)
  unfold process
  exact ⟨_, Scan.process_eq_ok.mpr ⟨content, score, read, free, scored, rfl⟩⟩

theorem selects_of_single {walk : Walk} {tree : Item} {name : String}
    (alone : (Path.ofText name).names = [name]) (file : walk.NamesFile tree [name])
    (kept : walk.rules.ignoresFile name = false) : walk.Selects tree name where
  written := by
    rw [alone]
    exact String.intercalate_singleton
  file := alone ▸ file
  entered above filled front other := by
    rw [alone] at front other
    exact absurd (eq_single filled front) other
  kept := kept

theorem weighs_everyName (path : String) (entry : Entry) (_ : entry.path = path) :
    weighs (byName everyName.adapters) entry = true := by
  have unhandled : adapterFor? (baseName entry.path) (byName everyName.adapters) = none := by
    rw [byName_everyName]
    unfold adapterFor?
    dsimp only
    split <;> rfl
  unfold weighs
  rw [unhandled]

theorem globbing_rules (pattern : String) :
    (globbing everyName "any" pattern plainSite [] plainEntries).walk.rules =
      .compile everyName.adapters (everyName.withGlob "any" pattern).overrides [] := by
  unfold globbing
  dsimp only
  rw [byName_everyName]

theorem ignoring_rules (pattern : String) :
    (ignoring everyName pattern plainSite [] plainEntries).walk.rules =
      .compile everyName.adapters everyName.overrides
        (Rule.ofText (universalLines (pattern ++ "\n"))) := by
  unfold ignoring
  dsimp only
  rw [byName_everyName]

section Shown

variable {globbed ignored : ScanResult}

theorem below_docs_globbed
    (first : (globbing everyName "any" "docs/" plainSite [] plainEntries).sequential =
      .ok globbed) : "docs/a" ∈ globbed.paths true := by
  refine @Setting.mem_paths_of_selects _ _ rfl _ first plainEntries_proper _ ⟨by decide, ?_, ?_, ?_⟩
    ?_ [] ?_ rfl (weighs_everyName _)
  · exact .inl ⟨[], rfl⟩
  · intro above filled front other
    have names : above <+: ["docs"] ++ ["a"] := front
    obtain rfl : above = ["docs"] := by
      rcases List.prefix_concat_iff.mp names with whole | upper
      · exact absurd whole other
      · exact eq_single filled upper
    refine ⟨⟨_, rfl⟩, rfl, ?_⟩
    rw [globbing_rules]
    decide +kernel
  · rw [globbing_rules]
    decide +kernel
  · rw [globbing_rules]
    decide +kernel
  · change plainSite.read (.ofPlace ["docs", "a"]) = .ok []
    cbv

theorem below_docs_unignored
    (second : (ignoring everyName "docs/" plainSite [] plainEntries).sequential = .ok ignored) :
    "docs/a" ∉ ignored.paths true := by
  rw [Setting.mem_paths_iff rfl second,
    Walk.mem_paths_iff _ (plainSite_unignored.proper_ignored "docs/")]
  rintro ⟨⟨selected, _⟩, _⟩
  have entered := (selected.entered ["docs"] (by decide) ⟨["a"], rfl⟩ (by decide)).kept
  rw [ignoring_rules] at entered
  exact absurd entered (by decide +kernel)

theorem link_not_globbed
    (first : (globbing everyName "any" "docs/" plainSite [] plainEntries).sequential =
      .ok globbed) : "x" ∉ globbed.paths true := by
  rw [Setting.mem_paths_iff rfl first, Walk.mem_paths_iff _ plainEntries_proper]
  rintro ⟨⟨selected, _⟩, _⟩
  rcases selected.file with ⟨content, found⟩ | ⟨_, content, found⟩
  · cases found
  · obtain ⟨_, place, located, _⟩ := Site.item_file_iff.mp found
    have lost : locate plainSite.root .existing linkLimit [] ["x"] = .error .missing := by cbv
    cases lost.symm.trans located

theorem link_left_by_line
    (second : (ignoring everyName "docs/" plainSite [] plainEntries).sequential = .ok ignored) :
    "x" ∈ ignored.paths true := by
  have leads (content : Bytes) :
      (plainSite.withFile [] ".gitignore" content).item (.ofPlace ["x"]) = .ok (.file content) := by
    cbv
  have read (content : Bytes) :
      (plainSite.withFile [] ".gitignore" content).read (.ofPlace ["x"]) = .ok content := by cbv
  refine @Setting.mem_paths_of_selects _ _ rfl _ second
    (plainSite_unignored.proper_ignored "docs/") _
    (selects_of_single (by decide) (.inr ⟨⟨_, rfl⟩, _, leads _⟩) ?_) ?_ _ (read _) rfl
    (weighs_everyName _)
  · rw [ignoring_rules]
    decide +kernel
  · rw [ignoring_rules]
    decide +kernel

theorem sharp_not_globbed
    (first : (globbing everyName "any" " #a" plainSite [] plainEntries).sequential =
      .ok globbed) : "#a" ∉ globbed.paths true := by
  rw [Setting.mem_paths_iff rfl first, Walk.mem_paths_iff _ plainEntries_proper]
  rintro ⟨⟨selected, _⟩, _⟩
  have kept := selected.kept
  rw [globbing_rules] at kept
  exact absurd kept (by decide +kernel)

theorem sharp_left_by_line
    (second : (ignoring everyName " #a" plainSite [] plainEntries).sequential = .ok ignored) :
    "#a" ∈ ignored.paths true := by
  have read (content : Bytes) :
      (plainSite.withFile [] ".gitignore" content).read (.ofPlace ["#a"]) = .ok [] := by cbv
  refine @Setting.mem_paths_of_selects _ _ rfl _ second
    (plainSite_unignored.proper_ignored " #a") _
    (selects_of_single (by decide) (.inl ⟨[], rfl⟩) ?_) ?_ _ (read _) rfl (weighs_everyName _)
  · rw [ignoring_rules]
    decide +kernel
  · rw [ignoring_rules]
    decide +kernel

end Shown

theorem glob_and_line_differ :
    (∃ globbed ignored,
      (Scan.run plainSite "/" (everyName.withGlob "any" "docs/")).outcome.1 = .ok globbed ∧
      (Scan.run (plainSite.withIgnoreLine [] "docs/") "/" everyName).outcome.1 = .ok ignored ∧
      ("docs/a" ∈ globbed.paths true ∧ "docs/a" ∉ ignored.paths true) ∧
      "x" ∉ globbed.paths true ∧ "x" ∈ ignored.paths true) ∧
    ∃ globbed ignored,
      (Scan.run plainSite "/" (everyName.withGlob "any" " #a")).outcome.1 = .ok globbed ∧
      (Scan.run (plainSite.withIgnoreLine [] " #a") "/" everyName).outcome.1 = .ok ignored ∧
      "#a" ∉ globbed.paths true ∧ "#a" ∈ ignored.paths true := by
  constructor
  · obtain ⟨globbed, ignored, globs, first, ignores, second⟩ :=
      plainSite_runs "docs/"
    exact ⟨globbed, ignored, globs, ignores,
      ⟨below_docs_globbed first, below_docs_unignored second⟩,
      link_not_globbed first, link_left_by_line second⟩
  · obtain ⟨globbed, ignored, globs, first, ignores, second⟩ :=
      plainSite_runs " #a"
    exact ⟨globbed, ignored, globs, ignores, sharp_not_globbed first, sharp_left_by_line second⟩

end ScanThreads

end SourceAtlas
