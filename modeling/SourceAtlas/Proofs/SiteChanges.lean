import SourceAtlas.Proofs.FileChanges

/-!
What a site has after one content has been written to some paths. Whether the writing succeeds or
fails, what was there is there still, and each file that is new or has changed is what one of the
paths leads to and holds what the writing comes to there: the content, or a beginning of it where
the writing breaks off.
-/
namespace SourceAtlas

open Text

namespace Site

def holding? (site : Site) (place : Place) (content : Bytes) : Option Bytes :=
  match site.writing place with
  | .whole => some content
  | .refused _ => none
  | .cut kept _ => some (content.take kept)

def ending (site : Site) (place : Place) : Except WriteFault Unit :=
  match site.writing place with
  | .cut _ fault => .error (.cut fault)
  | _ => .ok ()

theorem holding_of_ending {site : Site} {place : Place} {content held : Bytes}
    (holds : site.holding? place content = some held) (whole : site.ending place = .ok ()) :
    held = content := by
  unfold holding? at holds
  unfold ending at whole
  cases written : site.writing place with
  | whole => rw [written] at holds; exact (Option.some.inj holds).symm
  | refused fault => rw [written] at holds; cases holds
  | cut kept fault => rw [written] at whole; cases whole

theorem holding_prefix {site : Site} {place : Place} {content held : Bytes}
    (holds : site.holding? place content = some held) : held <+: content := by
  unfold holding? at holds
  split at holds
  · exact Option.some.inj holds ▸ List.prefix_refl _
  · cases holds
  · exact Option.some.inj holds ▸ List.take_prefix _ _

theorem content_eq_ok {site : Site} {path : Path} {content : Bytes} :
    site.content path = .ok content ↔ ∃ place, site.place .existing path = .ok place ∧
      site.root.get? place = some (.file content) := by
  unfold Site.content item
  cases site.place .existing path with
  | error error => simp [bind, Except.bind]
  | ok place =>
      simp only [bind, Except.bind, Except.ok.injEq, exists_eq_left']
      cases site.root.get? place with
      | none => simp
      | some item => cases item <;> simp

theorem read_eq_ok {site : Site} {path : Path} {content : Bytes} :
    site.read path = .ok content ↔
      site.isUnreadable path = false ∧ site.content path = .ok content := by
  unfold read
  cases site.isUnreadable path with
  | true => simp
  | false => simp

end Site

/-- A tree that a site may come to have: all that is there stays, and what is new stands where
something can be written. -/
structure Onward (site : Site) (tree : Item) : Prop where
  kept : Item.Kept site.root tree
  free : ∀ place, tree.Present place →
    site.root.Present place ∨ ∀ fault, site.writing place ≠ .refused fault

structure Later (before after : Site) : Prop extends Onward before after.root where
  site : after = before.withRoot after.root

theorem Onward.refl (site : Site) : Onward site site.root := ⟨.refl _, fun _ there => .inl there⟩

namespace Later
variable {a b c : Site}

theorem refl (site : Site) : Later site site := ⟨.refl site, rfl⟩

theorem writing_eq (later : Later a b) : b.writing = a.writing := by
  rw [later.site]
  rfl

theorem trans (first : Later a b) (second : Later b c) : Later a c where
  site := by
    rw [second.site, first.site]
    rfl
  kept := first.kept.trans second.kept
  free place there := by
    rcases second.free place there with before | open'
    · exact first.free place before
    · exact .inr (first.writing_eq ▸ open')

theorem onward {tree : Item} (later : Later a b) (above : Onward a tree)
    (kept : Item.Kept b.root tree) : Onward b tree where
  kept := kept
  free place there := by
    rw [later.writing_eq]
    exact (above.free place there).imp_left later.kept.present

theorem namesOf_eq (later : Later a b) (path : Path) : b.namesOf path = a.namesOf path := by
  rw [later.site]
  rfl

theorem place_eq (later : Later a b) {reach : Reach} (follows : reach ≠ .itself) {path : Path}
    {place : Place} {content : Bytes} (file : b.root.get? place = some (.file content))
    (placed : a.place reach path = .ok place) : b.place .existing path = .ok place := by
  unfold Site.place at placed ⊢
  dsimp only at placed ⊢
  split at placed
  · cases placed
  next short =>
    split at placed
    next located =>
      cases placed
      rw [if_neg short, later.namesOf_eq, later.kept.locate_file follows file located]
    · cases placed

end Later

/-- Between the two sites no file has changed but those that the paths lead to, which hold now what
the writing of the content comes to. -/
structure Wrote (before after : Site) (paths : List Path) (content : Bytes) : Prop extends
    Later before after where
  files : ∀ place, Item.FilesAgree before.root after.root place ∨
    (∃ held, before.holding? place content = some held ∧
      after.root.get? place = some (.file held)) ∧
      ∃ path ∈ paths, after.place .existing path = .ok place

namespace Wrote
variable {a b c : Site} {paths more : List Path} {content : Bytes}

theorem refl (site : Site) (paths : List Path) (content : Bytes) :
    Wrote site site paths content where
  toLater := .refl site
  files _ := .inl fun _ => Iff.rfl

theorem holding_eq (wrote : Wrote a b paths content) (place : Place) (bytes : Bytes) :
    b.holding? place bytes = a.holding? place bytes := by
  unfold Site.holding?
  rw [wrote.writing_eq]

theorem held (wrote : Wrote a b paths content) {place : Place} {bytes : Bytes}
    (holds : a.holding? place content = some bytes)
    (found : a.root.get? place = some (.file bytes)) : b.root.get? place = some (.file bytes) := by
  rcases wrote.files place with same | ⟨⟨_, again, new⟩, _⟩
  · exact (same bytes).mp found
  · cases holds.symm.trans again
    exact new

theorem trans (first : Wrote a b paths content) (second : Wrote b c more content) :
    Wrote a c (paths ++ more) content where
  toLater := first.toLater.trans second.toLater
  files place := by
    rcases second.files place with same | ⟨⟨bytes, holds, new⟩, path, listed, leads⟩
    · rcases first.files place with before | ⟨⟨bytes, holds, new⟩, path, listed, leads⟩
      · exact .inl fun old => (before old).trans (same old)
      · have file := (same bytes).mp new
        exact .inr ⟨⟨bytes, holds, file⟩, path, List.mem_append_left _ listed,
          second.place_eq Reach.noConfusion file leads⟩
    · exact .inr ⟨⟨bytes, first.holding_eq place content ▸ holds, new⟩, path,
        List.mem_append_right _ listed, leads⟩

theorem mono (wrote : Wrote a b paths content) (listed : paths ⊆ more) :
    Wrote a b more content where
  toLater := wrote.toLater
  files place := (wrote.files place).imp_right fun ⟨new, path, member, leads⟩ =>
    ⟨new, path, listed member, leads⟩

theorem filesAgree (wrote : Wrote a b [] content) (place : Place) :
    Item.FilesAgree a.root b.root place := by
  rcases wrote.files place with same | ⟨_, _, never, _⟩
  · exact same
  · cases never

theorem filesAgree_of_refused (wrote : Wrote a b paths content) {place : Place} {fault : OsFault}
    (refused : a.writing place = .refused fault) : Item.FilesAgree a.root b.root place := by
  rcases wrote.files place with same | ⟨⟨_, holds, _⟩, _⟩
  · exact same
  · rw [Site.holding?, refused] at holds
    cases holds

theorem content_eq (wrote : Wrote a b paths content) {path : Path} {place : Place} {bytes : Bytes}
    (placed : a.place .existing path = .ok place) (holds : a.holding? place content = some bytes)
    (found : a.root.get? place = some (.file bytes)) : b.content path = .ok bytes := by
  have file := wrote.held holds found
  exact Site.content_eq_ok.mpr ⟨place, wrote.place_eq Reach.noConfusion file placed, file⟩

end Wrote

namespace Site
variable {site after : Site} {path : Path} {reach : Reach} {content : Bytes}

theorem locate_of_place {place : Place} (placed : site.place reach path = .ok place) :
    locate site.root reach linkLimit [] (site.namesOf path) = .ok place := by
  unfold Site.place at placed
  dsimp only at placed
  split at placed
  · cases placed
  · split at placed
    next located =>
      cases placed
      exact located
    · cases placed

theorem locate_of_missing {text : String}
    (missing : site.place reach path = .error ⟨.missing, text⟩) :
    locate site.root reach linkLimit [] (site.namesOf path) = .error .missing := by
  unfold Site.place at missing
  dsimp only at missing
  split at missing
  · cases missing
  · split at missing
    · cases missing
    next located =>
      cases missing
      exact located

theorem namesOf_parent (site : Site) (named : path.names ≠ []) :
    site.namesOf path = site.namesOf path.parent ++ [path.name] := by
  have whole : path.names = path.parent.names ++ [path.name] := by
    rw [Path.parent, Path.name, List.getLastD_eq_getLast?, List.getLast?_eq_some_getLast named]
    exact (List.dropLast_concat_getLast named).symm
  have rooted : path.parent.isAbsolute = path.isAbsolute := rfl
  unfold namesOf
  rw [rooted]
  split
  · exact whole
  · rw [whole, List.append_assoc]

theorem makeDirectory_cases (made : site.makeDirectory path = .ok after) :
    ∃ parent name entries, site.root.get? parent = some (.directory entries) ∧
      entries.lookup name = none ∧
      (∀ fault, site.writing (parent ++ [name]) ≠ .refused fault) ∧
      after = site.withRoot (site.root.put (parent ++ [name]) (.directory [])) := by
  unfold makeDirectory at made
  split at made
  · cases made
  next absent =>
    split at made
    · cases made
    next parent above =>
      dsimp only at made
      split at made
      · cases made
      next open' =>
      cases made
      have missing := locate_of_missing absent
      have present := locate_of_place above
      by_cases named : path.names = []
      · have same : path.parent = path := by
          rw [Path.parent, named]
          exact congrArg (Path.mk path.root) named.symm
        rw [same] at present
        obtain ⟨other, located⟩ := exists_itself present
        cases located.symm.trans missing
      · rw [namesOf_parent site named] at missing
        obtain ⟨entries, found, free⟩ := absent_of_missing present missing
        exact ⟨parent, path.name, entries, found, free, open', rfl⟩
  · cases made

theorem makeDirectory_wrote (made : site.makeDirectory path = .ok after) :
    Wrote site after [] content := by
  obtain ⟨parent, name, entries, found, free, open', rfl⟩ := makeDirectory_cases made
  exact {
    site := rfl
    kept := Item.kept_put_absent found free _
    free := fun place there => (Item.present_put found (fun _ _ => rfl) there).imp_right
      fun (same : place = _) => by rwa [same]
    files := fun place => .inl (Item.filesAgree_put_directory found free place) }

theorem makeDirectoriesFrom_wrote (fuel : Nat) (site : Site) (path : Path) (content : Bytes) :
    Wrote site (makeDirectoriesFrom fuel site path).1 [] content := by
  fun_induction makeDirectoriesFrom fuel site path
  case case1 made => exact makeDirectory_wrote made
  case case3 above ih | case5 above _ _ _ ih | case6 above _ _ _ _ ih | case7 above _ _ _ _ ih |
      case8 above _ _ _ _ _ ih =>
    rw [above] at ih
    exact ih
  case case4 above _ made ih =>
    rw [above] at ih
    exact ih.trans (makeDirectory_wrote made)
  case case2 | case9 | case10 | case11 | case12 => exact .refl _ _ _

theorem makeDirectories_wrote (site : Site) (path : Path) (content : Bytes) :
    Wrote site (site.makeDirectories path).1 [] content := by
  unfold makeDirectories
  split
  · exact .refl _ _ _
  · exact makeDirectoriesFrom_wrote _ _ _ _

theorem write_at {place : Place} (placed : site.place .toMake path = .ok place)
    (free : ∀ entries, site.root.get? place ≠ some (.directory entries)) (content : Bytes) :
    (∃ fault, site.writing place = .refused fault ∧
        site.write path content = (site, .error (.os ⟨fault, path.toText⟩))) ∨
      ∃ held, site.holding? place content = some held ∧
        site.write path content =
          (site.withRoot (site.root.put place (.file held)), site.ending place) := by
  have opened : site.write path content = match site.writing place with
      | .refused fault => (site, .error (.os ⟨fault, path.toText⟩))
      | .cut kept fault =>
          (site.withRoot (site.root.put place (.file (content.take kept))), .error (.cut fault))
      | .whole => (site.withRoot (site.root.put place (.file content)), .ok ()) := by
    unfold write
    rw [placed]
    dsimp only
    cases found : site.root.get? place with
    | none => cases site.writing place <;> rfl
    | some item =>
        cases item with
        | directory listed => exact absurd found (free listed)
        | file _ | link _ => cases site.writing place <;> rfl
  rw [opened, holding?, ending]
  cases site.writing place with
  | refused fault => exact .inl ⟨fault, rfl, rfl⟩
  | cut kept fault => exact .inr ⟨_, rfl, rfl⟩
  | whole => exact .inr ⟨_, rfl, rfl⟩

theorem write_cases (named : path.names ≠ []) (site : Site) (content : Bytes) :
    (∃ error, site.write path content = (site, .error (.os error))) ∨
      ∃ parent name entries held, site.place .toMake path = .ok (parent ++ [name]) ∧
        site.root.get? parent = some (.directory entries) ∧
        (∀ item, entries.lookup name = some item → ∃ content, item = .file content) ∧
        site.holding? (parent ++ [name]) content = some held ∧
        site.write path content =
          (site.withRoot (site.root.put (parent ++ [name]) (.file held)),
            site.ending (parent ++ [name])) := by
  cases placed : site.place .toMake path with
  | error error =>
      refine .inl ⟨error, ?_⟩
      rw [write, placed]
  | ok place =>
      have located := locate_of_place placed
      obtain ⟨first, rest, whole⟩ : ∃ first rest, site.namesOf path = first :: rest := by
        refine List.exists_cons_of_ne_nil ?_
        rw [namesOf_parent site named]
        exact List.append_ne_nil_of_right_ne_nil _ (List.cons_ne_nil _ _)
      have start := directory_of_locate (whole ▸ located)
      by_cases directory : ∃ listed, site.root.get? place = some (.directory listed)
      · obtain ⟨listed, found⟩ := directory
        refine .inl ⟨⟨.isDirectory, path.toText⟩, ?_⟩
        rw [write, placed]
        dsimp only
        rw [found]
      rw [not_exists] at directory
      rcases reached_of_locate Reach.noConfusion (.inl start) located with
        ⟨entries, found⟩ | ⟨parent, name, entries, rfl, found, plain⟩
      · exact absurd found (directory entries)
      rcases write_at placed directory content with ⟨fault, _, refused⟩ | ⟨held, holds, wrote⟩
      · exact .inl ⟨_, refused⟩
      refine .inr ⟨parent, name, entries, held, rfl, found, fun item inside => ?_, holds, wrote⟩
      cases item with
      | file old => exact ⟨old, rfl⟩
      | link target => exact absurd inside (plain target)
      | directory listed => exact absurd ((Item.get?_snoc found name).trans inside) (directory _)

theorem write_wrote (named : path.names ≠ []) (site : Site) (content : Bytes) :
    (∃ error, site.write path content = (site, .error (.os error))) ∨
      ∃ place held after, site.holding? place content = some held ∧
        site.write path content = (after, site.ending place) ∧
        after.place .existing path = .ok place ∧ after.root.get? place = some (.file held) ∧
        Wrote site after [path] content := by
  refine (write_cases named site content).imp_right ?_
  rintro ⟨parent, name, entries, held, placed, found, free, holds, wrote⟩
  have stands : (site.root.put (parent ++ [name]) (.file held)).get? (parent ++ [name]) =
      some (.file held) := by
    have below := Item.get?_put_below found name (.file held) []
    rwa [List.append_nil, Item.get?_nil] at below
  have open' (fault : OsFault) : site.writing (parent ++ [name]) ≠ .refused fault := by
    intro refused
    rw [holding?, refused] at holds
    cases holds
  have later : Later site (site.withRoot (site.root.put (parent ++ [name]) (.file held))) :=
    ⟨⟨Item.kept_put_file found free held, fun place there =>
      (Item.present_put found (fun _ _ => rfl) there).imp_right
        fun (same : place = _) => by rwa [same]⟩, rfl⟩
  have leads := later.place_eq Reach.noConfusion stands placed
  refine ⟨_, held, _, holds, wrote, leads, stands, later, fun place => ?_⟩
  by_cases same : place = parent ++ [name]
  · rw [same]
    exact .inr ⟨⟨held, holds, stands⟩, path, List.mem_singleton_self path, leads⟩
  · exact .inl (Item.filesAgree_put_file found free held same)

theorem exists_withRoot_of_write (site : Site) (path : Path) (content : Bytes) :
    ∃ root, (site.write path content).1 = site.withRoot root := by
  unfold write
  split
  · exact ⟨site.root, rfl⟩
  · split
    · exact ⟨site.root, rfl⟩
    · exact ⟨site.root, rfl⟩
    · exact ⟨_, rfl⟩
    · exact ⟨_, rfl⟩

theorem exists_withRoot_of_writeFile (site : Site) (path : Path) (content : Bytes) :
    ∃ root, (Store.writeFile site path content).1 = site.withRoot root := by
  have made := (makeDirectories_wrote site path.parent content).site
  unfold Store.writeFile
  split
  · exact ⟨site.root, rfl⟩
  · split
    next stopped =>
      rw [stopped] at made
      exact ⟨_, made⟩
    next between ready =>
      rw [ready] at made
      change between = _ at made
      split
      · exact ⟨_, made⟩
      · obtain ⟨root, put⟩ := exists_withRoot_of_write between path content
        exact ⟨root, by rw [put, made]; rfl⟩

theorem writeFile_wrote (named : path.names ≠ []) (site : Site) (content : Bytes) :
    (∃ place held, site.holding? place content = some held ∧
        (Store.writeFile site path content).2 = site.ending place ∧
        (Store.writeFile site path content).1.place .existing path = .ok place ∧
        (Store.writeFile site path content).1.root.get? place = some (.file held) ∧
        Wrote site (Store.writeFile site path content).1 [path] content) ∨
      (∃ fault, (Store.writeFile site path content).2 = .error fault ∧ ∀ cut, fault ≠ .cut cut) ∧
        Wrote site (Store.writeFile site path content).1 [] content := by
  have made := makeDirectories_wrote site path.parent content
  unfold Store.writeFile
  split
  · exact .inr ⟨⟨_, rfl, nofun⟩, .refl _ _ _⟩
  · split
    next between error stopped =>
      rw [stopped] at made
      exact .inr ⟨⟨_, rfl, nofun⟩, made⟩
    next between ready =>
      rw [ready] at made
      split
      · exact .inr ⟨⟨_, rfl, nofun⟩, made⟩
      · rcases write_wrote named between content with ⟨error, refused⟩ |
          ⟨place, held, after, holds, wrote, leads, stands, changed⟩
        · rw [refused]
          exact .inr ⟨⟨_, rfl, nofun⟩, made⟩
        · rw [wrote]
          have still : site.holding? place content = some held :=
            made.holding_eq place content ▸ holds
          have ends : between.ending place = site.ending place := by
            rw [ending, made.writing_eq]
            rfl
          exact .inl ⟨place, held, still, ends, leads, stands, made.trans changed⟩

end Site

end SourceAtlas
