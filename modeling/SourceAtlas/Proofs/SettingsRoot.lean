import SourceAtlas.Indexing
import SourceAtlas.Proofs.LinkWays
import SourceAtlas.Proofs.NotedWork
import SourceAtlas.Proofs.SiteChanges
import SourceAtlas.Proofs.SiteWrites

/-!
The directory that settings are for. It is taken from the file of the settings after links have been
followed; so it is the directory that was asked for, unless the file is a link into another one.
-/
namespace SourceAtlas

open Text

namespace Site
variable {site : Site} {path : Path}

theorem place_of_isDirectory (there : site.isDirectory? path = .ok true) :
    hasNul path = false ∧ ∃ place entries, site.place .existing path = .ok place ∧
      site.root.get? place = some (.directory entries) := by
  unfold isDirectory? probe item at there
  split at there
  · cases there
  next clean =>
    refine ⟨Bool.eq_false_iff.mpr clean, ?_⟩
    cases placed : site.place .existing path with
    | error error =>
        rw [placed] at there
        simp only [bind, Except.bind] at there
        split at there <;> cases there
    | ok place =>
        rw [placed] at there
        simp only [bind, Except.bind] at there
        cases found : site.root.get? place with
        | none =>
            rw [found] at there
            cases there
        | some item =>
            rw [found] at there
            cases item with
            | directory entries => exact ⟨place, entries, rfl, found⟩
            | file _ | link _ => cases there

end Site

namespace Settings

theorem ofEntries_root {root : Path} {entries : List (Yaml.Value × Yaml.Value)}
    {settings : Settings} (done : ofEntries root entries = .ok settings) :
    settings.root = root := by
  unfold ofEntries at done
  obtain ⟨_, _, done⟩ := exists_of_bind done
  obtain ⟨_, _, done⟩ := exists_of_bind done
  obtain ⟨_, _, done⟩ := exists_of_bind done
  obtain ⟨_, _, done⟩ := exists_of_bind done
  obtain ⟨_, _, done⟩ := exists_of_bind done
  obtain ⟨_, _, done⟩ := exists_of_bind done
  obtain ⟨_, _, done⟩ := exists_of_bind done
  cases done
  rfl

theorem ofBytes_root {root : Path} {content : Bytes} {settings : Settings}
    (done : ofBytes root content = .ok settings) : settings.root = root := by
  unfold ofBytes at done
  split at done
  · cases done
  · dsimp only at done
    split at done
    · cases done
      rfl
    · split at done
      next value _ =>
        unfold ofValue at done
        split at done
        · cases done
          rfl
        · split at done
          · split at done
            next made =>
              cases done
              exact ofEntries_root made
            · cases done
          · cases done
      · cases done

theorem fileFor_directory {site : Site} {path expanded : Path}
    (home : site.expandHome path = .ok expanded) (there : site.isDirectory? expanded = .ok true) :
    fileFor site path = liftPath (site.resolve (expanded.child settingsName)) := by
  unfold fileFor
  rw [home]
  change (liftOs (site.isDirectory? expanded) >>= _) = _
  rw [there]
  rfl

theorem load_cases {site : Site} {path expanded : Path} {settings : Settings}
    (home : site.expandHome path = .ok expanded) (there : site.isDirectory? expanded = .ok true)
    (loaded : load site path = .ok settings) :
    ∃ file, site.resolve (expanded.child settingsName) = .ok file ∧
      site.resolve file.parent = .ok settings.root := by
  have lifted {α : Type} {result : Except PathFault α} {a : α} (done : liftPath result = .ok a) :
      result = .ok a := by
    cases result with
    | ok b => exact congrArg _ (Except.ok.inj done)
    | error fault => cases done
  unfold load at loaded
  rw [fileFor_directory home there] at loaded
  obtain ⟨file, first, loaded⟩ := exists_of_bind loaded
  obtain ⟨root, second, loaded⟩ := exists_of_bind loaded
  obtain ⟨present, _, loaded⟩ := exists_of_bind loaded
  refine ⟨file, lifted first, ?_⟩
  rw [lifted second]
  cases present with
  | false =>
      cases loaded
      rfl
  | true =>
      obtain ⟨content, _, loaded⟩ := exists_of_bind loaded
      rw [ofBytes_root loaded]

theorem properName_settingsName : ProperName settingsName :=
  ⟨by decide, by decide, by decide, by decide⟩

theorem namesOf_settings (site : Site) (path : Path) :
    site.namesOf (path.child settingsName) = site.namesOf path ++ [settingsName] := by
  have rooted : Path.isAbsolute { path with names := path.names ++ [settingsName] } =
    path.isAbsolute := rfl
  rw [properName_settingsName.child, Site.namesOf, Site.namesOf, rooted]
  split
  · rfl
  · exact (List.append_assoc _ _ _).symm

theorem root_of_way {site : Site} {file : Path} {settings : Settings} {path : Path}
    (resolved : site.resolve path = .ok file)
    (rooted : site.resolve file.parent = .ok settings.root) {n : Nat} {place : Place}
    (way : Way site.root n [] (site.namesOf path) place) :
    settings.root = .ofPlace place.dropLast ∧
      Indexing.rootOf site settings = .ok (.ofPlace place.dropLast) := by
  have ends := Site.eq_of_resolve way resolved
  have parent : file.parent = .ofPlace place.dropLast := congrArg Path.parent ends
  have above : Unlinked site.root ([] ++ place.dropLast) :=
    ((Unlinked.nil site.root).of_way way).dropLast
  rw [parent] at rooted
  have same : settings.root = .ofPlace place.dropLast := Site.eq_of_resolve above.way rooted
  refine ⟨same, ?_⟩
  unfold Indexing.rootOf
  rw [same] at rooted ⊢
  exact rooted

/-- The settings of a directory are for the directory itself exactly if their file is no link, or a
link that is resolved to a file of the directory. Otherwise they are for the directory that the
link leads into, and that one is indexed: where the link leads to something or to where something
can be made, and where it goes a way into directories that are not there. -/
theorem load_root_iff {site : Site} {path expanded : Path} {settings : Settings}
    (home : site.expandHome path = .ok expanded) (there : site.isDirectory? expanded = .ok true)
    (loaded : load site path = .ok settings) :
    ∃ place, site.resolve expanded = .ok (.ofPlace place) ∧
      (∃ entries, site.root.get? place = some (.directory entries)) ∧
      (settings.root = .ofPlace place ↔
        ∀ target, site.root.get? (place ++ [settingsName]) = some (.link target) →
          ∃ file, site.resolve (expanded.child settingsName) = .ok file ∧
            site.resolve file.parent = .ok (.ofPlace place)) ∧
      (∀ file, site.place .toMake (expanded.child settingsName) = .ok file →
        settings.root = .ofPlace file.dropLast ∧
          Indexing.rootOf site settings = .ok (.ofPlace file.dropLast)) ∧
      ∀ n file, Way site.root n place [settingsName] file →
        settings.root = .ofPlace file.dropLast ∧
          Indexing.rootOf site settings = .ok (.ofPlace file.dropLast) := by
  obtain ⟨clean, place, entries, placed, found⟩ := Site.place_of_isDirectory there
  obtain ⟨n, way⟩ := exists_way Reach.noConfusion (Site.locate_of_place placed)
  obtain ⟨file, resolved, rooted⟩ := load_cases home there loaded
  have further {k : Nat} {other : Place} (last : Way site.root k place [settingsName] other) :
      settings.root = .ofPlace other.dropLast ∧
        Indexing.rootOf site settings = .ok (.ofPlace other.dropLast) := by
    have whole := way.append last
    rw [← namesOf_settings] at whole
    exact root_of_way resolved rooted whole
  refine ⟨place, Site.resolve_of_way clean way, ⟨entries, found⟩,
    ⟨fun same target _ => ⟨file, resolved, same ▸ rooted⟩, fun inside => ?_⟩,
    fun other made => ?_, fun _ other last => further last⟩
  · by_cases linked : ∃ target, site.root.get? (place ++ [settingsName]) = some (.link target)
    · obtain ⟨target, linked⟩ := linked
      obtain ⟨same, again, answer⟩ := inside target linked
      cases resolved.symm.trans again
      exact Except.ok.inj (rooted.symm.trans answer)
    · have plain (target : String) :
          site.root.get? (place ++ [settingsName]) ≠ some (.link target) :=
        fun found => linked ⟨target, found⟩
      have same := (further (.enter properName_settingsName.double plain (.stop _))).1
      rwa [List.dropLast_concat] at same
  · obtain ⟨_, whole⟩ := exists_way Reach.noConfusion (Site.locate_of_place made)
    exact root_of_way resolved rooted whole

/-- A directory whose settings are a link to those of another one. -/
def linkedSite : Site where
  root := .directory [
    ("app", .directory [(settingsName, .link "../shared/.codeindex.yml")]),
    ("shared", .directory [(settingsName, .file [])])]

theorem linkedSite_located (links : Nat) :
    locate linkedSite.root .toMake (links + 1) [] ["app", settingsName] =
      .ok ["shared", settingsName] := by
  have target : Path.ofText "../shared/.codeindex.yml" = ⟨"", ["..", "shared", settingsName]⟩ := by
    decide
  simp +decide [locate, linkedSite, Item.get?, List.lookup_cons, target, settingsName]

theorem linkedSite_fits {name : String} (short : name = "app" ∨ name = "shared") :
    Fits (.ofPlace ([name] ++ [settingsName])) := by
  rcases short with rfl | rfl <;> exact ⟨by decide, by decide, by decide⟩

theorem linkedSite_there : linkedSite.isDirectory? (.ofPlace ["app"]) = .ok true :=
  Site.isDirectory_directory (linkedSite_fits (.inl rfl)).above (by decide) rfl

theorem linkedSite_placed :
    linkedSite.place .toMake ((Path.ofPlace ["app"]).child settingsName) =
      .ok (["shared"] ++ [settingsName]) := by
  have child : (Path.ofPlace ["app"]).child settingsName = .ofPlace (["app"] ++ [settingsName]) :=
    properName_settingsName.child _
  have located : locate linkedSite.root .toMake linkLimit [] (["app"] ++ [settingsName]) = _ :=
    linkedSite_located 39
  rw [child, Site.place_eq .toMake (linkedSite_fits (.inl rfl)), located]
  rfl

theorem linkedSite_item :
    linkedSite.item (.ofPlace (["shared"] ++ [settingsName])) = .ok (.file []) := by
  have shared : linkedSite.root.get? ["shared"] =
    some (.directory [(settingsName, .file [])]) := rfl
  exact Site.item_file (linkedSite_fits (.inr rfl)) (by decide) shared rfl

theorem linkedSite_loaded :
    load linkedSite (.ofPlace ["app"]) = .ok { root := .ofPlace ["shared"] } := by
  have clean : hasNul ((Path.ofPlace ["app"]).child settingsName) = false := by decide
  obtain ⟨_, way⟩ := exists_way Reach.noConfusion (Site.locate_of_place linkedSite_placed)
  have above : linkedSite.resolve (.ofPlace ["shared"]) = .ok (.ofPlace ["shared"]) :=
    Site.resolve_directory (linkedSite_fits (.inr rfl)).above (by decide) rfl
  have present := Site.probe_eq (linkedSite_fits (.inr rfl)).clean linkedSite_item
  unfold load
  rw [fileFor_directory rfl linkedSite_there, Site.resolve_of_way clean way]
  change (liftPath (linkedSite.resolve (.ofPlace ["shared"])) >>= _) = _
  rw [above]
  change (liftOs (linkedSite.exists? (.ofPlace (["shared"] ++ [settingsName]))) >>= _) = _
  rw [Site.exists?, present]
  have empty : linkedSite.read (.ofPlace (["shared"] ++ [settingsName])) = .ok [] :=
    Site.read_file (linkedSite_fits (.inr rfl)) (by decide) (rfl : linkedSite.root.get? ["shared"] =
      some (.directory [(settingsName, .file [])])) rfl rfl
  change (liftOs (linkedSite.read (.ofPlace (["shared"] ++ [settingsName]))) >>= _) = _
  rw [empty]
  change ofBytes (.ofPlace ["shared"]) [] = _
  have decoded : Utf8.decode [] = .ok "" := by
    rw [Utf8.decode, Utf8.fronts, Utf8.frontsFrom]
    rfl
  have blank : (strip (universalLines "")).isEmpty = true := by decide
  rw [ofBytes, decoded]
  exact if_pos blank

theorem linkedSite_root :
    linkedSite.expandHome (.ofPlace ["app"]) = .ok (.ofPlace ["app"]) ∧
    linkedSite.isDirectory? (.ofPlace ["app"]) = .ok true ∧
    ∃ settings, load linkedSite (.ofPlace ["app"]) = .ok settings ∧
      linkedSite.resolve (.ofPlace ["app"]) = .ok (.ofPlace ["app"]) ∧
      settings.root = .ofPlace ["shared"] ∧
      Indexing.rootOf linkedSite settings = .ok (.ofPlace ["shared"]) := by
  have home : linkedSite.expandHome (.ofPlace ["app"]) = .ok (.ofPlace ["app"]) := rfl
  have asked : linkedSite.resolve (.ofPlace ["app"]) = .ok (.ofPlace ["app"]) :=
    Site.resolve_directory (linkedSite_fits (.inl rfl)).above (by decide) rfl
  obtain ⟨_, _, _, _, leads, _⟩ := load_root_iff home linkedSite_there linkedSite_loaded
  obtain ⟨root, indexed⟩ := leads _ linkedSite_placed
  exact ⟨home, linkedSite_there, _, linkedSite_loaded, asked, root, indexed⟩

end Settings

end SourceAtlas
