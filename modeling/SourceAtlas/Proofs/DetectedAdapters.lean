import SourceAtlas.Proofs.LanguageDetection
import SourceAtlas.Proofs.RegistryHistory
import SourceAtlas.Proofs.SiteWrites

/-!
The adapters that apply to a directory, told without the search for them: those with a manifest in
the directory itself or one level below it. The level below is looked at as a whole, so one visible
link that neither leads somewhere nor is simply broken hides all manifests on it.
-/
namespace SourceAtlas

open Text

namespace Detection

/-- Something is at the end of a path, links followed. -/
def Present (site : Site) (path : Path) : Prop :=
  hasNul path = false ∧ ∃ item, site.item path = .ok item

def HasManifest (site : Site) (adapter : Adapter) (directory : Path) : Prop :=
  ∃ file ∈ adapter.detectionFiles, Present site (directory.child file)

def LeadsToDirectory (site : Site) (root : Path) (entry : String × Item) : Prop :=
  (∃ entries, entry.2 = .directory entries) ∨
    ∃ target entries, entry.2 = .link target ∧
      site.item (root.child entry.1) = .ok (.directory entries)

/-- An entry is a link that cannot be followed, and not because nothing is there: it leads in a
circle, through a file, or over a name that is too long. -/
def Untold (site : Site) (root : Path) (entry : String × Item) : Prop :=
  ∃ target e, entry.2 = .link target ∧ site.item (root.child entry.1) = .error e ∧
    e.fault ≠ .missing

def ManifestBelow (site : Site) (root : Path) (entries : List (String × Item))
    (adapter : Adapter) : Prop :=
  ∃ entry ∈ entries, startsWith entry.1 "." = false ∧ LeadsToDirectory site root entry ∧
    HasManifest site adapter (root.child entry.1)

theorem exists_eq_true_iff {site : Site} {path : Path} :
    exists? site path = true ↔ Present site path := by
  unfold exists? Present Site.exists? Site.probe
  cases nul : hasNul path with
  | true => simp [Except.map, Except.toOption]
  | false =>
      cases found : site.item path with
      | ok item => simp [Except.map, Except.toOption]
      | error e =>
          -- a failed look finds nothing, whether the failure is handed on or not
          by_cases kept : (e.fault == .nameTooLong || e.fault == .denied) = true <;>
            simp [kept, Except.map, Except.toOption]

theorem applies_iff {site : Site} {root : Path} {below : List Path} {adapter : Adapter} :
    applies site root below adapter = true ↔
      ∃ directory ∈ root :: below, HasManifest site adapter directory := by
  simp only [applies, List.any_eq_true, exists_eq_true_iff]
  constructor
  · rintro ⟨file, own, directory, member, present⟩
    exact ⟨directory, member, file, own, present⟩
  · rintro ⟨directory, member, file, own, present⟩
    exact ⟨file, own, directory, member, present⟩

theorem isDirectory_of_error {site : Site} {root : Path} {name target : String} {e : OsError}
    (failed : site.item (root.child name) = .error e) :
    isDirectory site root (name, .link target) =
      if e.fault = .missing then .ok false else .error e.fault := by
  obtain ⟨fault, path⟩ := e
  simp only [isDirectory, failed]
  cases fault <;> rfl

section Entry

variable {site : Site} {root : Path} {entry : String × Item}

theorem isDirectory_eq_true_iff :
    isDirectory site root entry = .ok true ↔ LeadsToDirectory site root entry := by
  obtain ⟨name, item⟩ := entry
  cases item with
  | directory entries => simp [isDirectory, LeadsToDirectory]
  | file content => simp [isDirectory, LeadsToDirectory]
  | link target =>
      cases found : site.item (root.child name) with
      | ok item => cases item <;> simp [isDirectory, LeadsToDirectory, found, Item.isDirectory]
      | error e =>
          rw [isDirectory_of_error found]
          by_cases missing : e.fault = .missing <;> simp [LeadsToDirectory, found, missing]

theorem exists_told_iff :
    (∃ told, isDirectory site root entry = .ok told) ↔ ¬Untold site root entry := by
  obtain ⟨name, item⟩ := entry
  cases item with
  | directory entries => simp [isDirectory, Untold]
  | file content => simp [isDirectory, Untold]
  | link target =>
      cases found : site.item (root.child name) with
      | ok item => simp [isDirectory, Untold, found]
      | error e =>
          rw [isDirectory_of_error found]
          by_cases missing : e.fault = .missing <;> simp [Untold, found, missing]

end Entry

theorem manifest_searched_iff {site : Site} {root : Path} {entries : List (String × Item)}
    (listed : site.list root = .ok entries) {adapter : Adapter} :
    (∃ directory ∈ root :: subdirectories site root, HasManifest site adapter directory) ↔
      HasManifest site adapter root ∨
        (∀ entry ∈ entries, startsWith entry.1 "." = false → ¬Untold site root entry) ∧
          ManifestBelow site root entries adapter := by
  simp only [List.mem_cons, exists_eq_or_imp, mem_subdirectories_iff, listed, Except.ok.injEq,
    exists_eq_left', exists_told_iff, isDirectory_eq_true_iff]
  refine or_congr Iff.rfl ?_
  constructor
  · rintro ⟨_, ⟨told, entry, member, visible, leads, rfl⟩, manifest⟩
    exact ⟨told, entry, member, visible, leads, manifest⟩
  · rintro ⟨told, entry, member, visible, leads, manifest⟩
    exact ⟨_, ⟨told, entry, member, visible, leads, rfl⟩, manifest⟩

end Detection

namespace Registry
open Detection

def applying (registry : Registry) (site : Site) (root : Path) : Registry :=
  ⟨registry.adapters.filter (applies site root (subdirectories site root))⟩

theorem detect_eq_applying (registry : Registry) (site : Site) (root : Path) :
    registry.detect site root = (registry.applying site root).all := rfl

theorem Sound.applying {registry : Registry} (sound : Sound registry) (site : Site) (root : Path) :
    Sound (registry.applying site root) where
  filled := fun adapter member => sound.filled adapter (List.mem_filter.mp member).1
  apart := sound.apart.sublist (List.filter_sublist.map _)

theorem mem_detect_iff {registry : Registry} {site : Site} {root : Path} {adapter : Adapter} :
    adapter ∈ registry.detect site root ↔ adapter ∈ registry.all ∧
      ∃ directory ∈ root :: subdirectories site root, HasManifest site adapter directory := by
  rw [detect_eq_applying, (registry.applying site root).all_perm.mem_iff, Registry.applying,
    List.mem_filter, applies_iff, registry.all_perm.mem_iff]

theorem Sound.detect_eq {first second : Registry} (one : Sound first) (two : Sound second)
    (same : ∀ adapter, adapter ∈ first.all ↔ adapter ∈ second.all) (site : Site) (root : Path) :
    first.detect site root = second.detect site root := by
  rw [detect_eq_applying, detect_eq_applying]
  refine (one.applying site root).all_congr (two.applying site root) fun adapter => ?_
  rw [← detect_eq_applying, ← detect_eq_applying, mem_detect_iff, mem_detect_iff, same]

/-- What is detected in a directory that can be listed: adapters in the strict order of their names,
namely those with a manifest in it, and those with one in a visible directory below it if every
visible link there can be told. So the manifests alone decide exactly if every visible link can be
told or no adapter depends on those below; and in whatever way a registry has come to its adapters,
they are detected alike. -/
theorem detect_of_listed (builtins : Bool) (operations : List Operation) {site : Site}
    {root : Path} {entries : List (String × Item)} (listed : site.list root = .ok entries) :
    ((((starting builtins).after operations).detect site root).map (·.name)).Pairwise
        (fun a b => precedes a b = true ∧ a ≠ b) ∧
      (∀ adapter, adapter ∈ ((starting builtins).after operations).detect site root ↔
        adapter ∈ ((starting builtins).after operations).all ∧
          (HasManifest site adapter root ∨
            (∀ entry ∈ entries, startsWith entry.1 "." = false → ¬Untold site root entry) ∧
              ManifestBelow site root entries adapter)) ∧
      ((∀ adapter, adapter ∈ ((starting builtins).after operations).detect site root ↔
        adapter ∈ ((starting builtins).after operations).all ∧
          (HasManifest site adapter root ∨ ManifestBelow site root entries adapter)) ↔
        (∀ entry ∈ entries, startsWith entry.1 "." = false → ¬Untold site root entry) ∨
          ∀ adapter ∈ ((starting builtins).after operations).all,
            ManifestBelow site root entries adapter → HasManifest site adapter root) ∧
      ∀ fresh others,
        (∀ adapter, adapter ∈ ((starting fresh).after others).all ↔
          adapter ∈ ((starting builtins).after operations).all) →
        ((starting fresh).after others).detect site root =
          ((starting builtins).after operations).detect site root := by
  have sound := (sound_starting builtins).after operations
  generalize (starting builtins).after operations = registry at sound ⊢
  have members (adapter : Adapter) : adapter ∈ registry.detect site root ↔ _ :=
    mem_detect_iff.trans (and_congr_right fun _ => manifest_searched_iff listed)
  refine ⟨(sound.applying site root).names_rising, members, ?_, fun fresh others same => ?_⟩
  · constructor
    · intro alone
      by_cases told : ∀ entry ∈ entries, startsWith entry.1 "." = false → ¬Untold site root entry
      · exact .inl told
      · refine .inr fun adapter known below => ?_
        have detected := (alone adapter).mpr ⟨known, .inr below⟩
        exact ((members adapter).mp detected).2.resolve_right fun both => told both.1
    · rintro (told | above) adapter
      · rw [members, and_iff_right told]
      · rw [members]
        refine and_congr_right fun known => ?_
        constructor
        · exact Or.imp_right And.right
        · exact fun manifest => .inl (manifest.elim id (above adapter known))
  · exact ((sound_starting fresh).after others).detect_eq sound same site root

def circleSite : Site where
  root := .directory [("loop", .link "loop"), ("backend", .directory [("go.mod", .file [])])]

theorem circleSite_loops (links : Nat) :
    locate circleSite.root .existing links [] ["loop"] = .error .linkLoop := by
  have target : Path.ofText "loop" = ⟨"", ["loop"]⟩ := by decide
  induction links with
  | zero => simp +decide [locate, circleSite, Item.get?]
  | succ links ih =>
      rw [← ih]
      conv => lhs; rw [locate]
      simp +decide [circleSite, Item.get?, target]

theorem circleSite_untold : Untold circleSite (.ofPlace []) ("loop", .link "loop") := by
  have child : (Path.ofPlace []).child "loop" = .ofPlace ["loop"] := by decide
  have fits : Fits (.ofPlace ["loop"]) := ⟨by decide, by decide, by decide⟩
  refine ⟨"loop", ⟨.linkLoop, "/loop"⟩, rfl, ?_, OsFault.noConfusion⟩
  rw [child, Site.item, Site.place_eq .existing fits, circleSite_loops]
  rfl

theorem circleSite_bare : ¬HasManifest circleSite Profiles.go (.ofPlace []) := by
  rintro ⟨file, own, _, item, found⟩
  have absent (name : String) (named : name = "go.mod" ∨ name = "go.sum") :
      circleSite.item ((Path.ofPlace []).child name) =
        .error ⟨.missing, (Path.ofPlace ([] ++ [name])).toText⟩ := by
    have child : (Path.ofPlace []).child name = .ofPlace ([] ++ [name]) := by
      rcases named with rfl | rfl <;> decide
    rw [child]
    rcases named with rfl | rfl <;>
      exact Site.item_absent ⟨by decide, by decide, by decide⟩ (by decide) rfl rfl
  rw [absent file (by simpa [Profiles.go] using own)] at found
  cases found

theorem circleSite_below : ManifestBelow circleSite (.ofPlace [])
    [("loop", .link "loop"), ("backend", .directory [("go.mod", .file [])])] Profiles.go := by
  have child : ((Path.ofPlace []).child "backend").child "go.mod" =
    .ofPlace (["backend"] ++ ["go.mod"]) := by decide
  refine ⟨("backend", .directory [("go.mod", .file [])]), by simp, by decide, .inl ⟨_, rfl⟩,
    "go.mod", by decide, ?_⟩
  rw [child]
  exact ⟨by decide, _, Site.item_file ⟨by decide, by decide, by decide⟩ (by decide) rfl rfl⟩

theorem circleSite_hides_manifest :
    circleSite.list (.ofPlace []) =
        .ok [("loop", .link "loop"), ("backend", .directory [("go.mod", .file [])])] ∧
      Profiles.go ∈ standard.all ∧
      ManifestBelow circleSite (.ofPlace [])
        [("loop", .link "loop"), ("backend", .directory [("go.mod", .file [])])] Profiles.go ∧
      Profiles.go ∉ standard.detect circleSite (.ofPlace []) := by
  have listed : circleSite.list (.ofPlace []) =
      .ok [("loop", .link "loop"), ("backend", .directory [("go.mod", .file [])])] :=
    Site.list_directory ⟨by decide, by decide, by decide⟩ List.not_mem_nil rfl
  have known : Profiles.go ∈ standard.all :=
    ((sound_starting true).mem_all_iff Profiles.go).mpr rfl
  obtain ⟨_, members, _⟩ := detect_of_listed true [] listed
  refine ⟨listed, known, circleSite_below, fun detected => ?_⟩
  rcases ((members Profiles.go).mp detected).2 with here | ⟨told, _⟩
  · exact circleSite_bare here
  · exact told ("loop", .link "loop") List.mem_cons_self (by decide) circleSite_untold

end Registry

end SourceAtlas
