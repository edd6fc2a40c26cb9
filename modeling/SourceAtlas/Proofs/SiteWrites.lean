import SourceAtlas.Store
import SourceAtlas.Proofs.SiteChanges
import SourceAtlas.Proofs.TwinSites

/-!
What writing a file does to a site whose directories are real ones. A path that can be written at
all has neither a name that is too long nor a character that no path may have; then its directory is
made if it is not there, and the file is put into it.
-/
namespace SourceAtlas

open Text

/-- A path that is short enough for the system, as a whole and in each of its names. -/
structure Fits (path : Path) : Prop where
  clean : hasNul path = false
  short : path.toText.utf8ByteSize < Site.pathLimit
  names : ∀ name ∈ path.names, name.utf8ByteSize ≤ nameLimit

theorem short_of_locate {tree : Item} {reach : Reach} {links : Nat} {here : Place}
    {names : List String} {place : Place}
    (located : locate tree reach links here names = .ok place) :
    ∀ name ∈ names, name.utf8ByteSize ≤ nameLimit := by
  have double : "..".utf8ByteSize ≤ nameLimit := by decide
  fun_induction locate tree reach links here names
  case case1 => simp
  case case2 up ih =>
    rw [beq_iff_eq.mp up]
    exact List.forall_mem_cons.mpr ⟨double, ih located⟩
  case case3 | case5 | case7 | case10 => cases located
  case case4 short _ last | case6 short _ _ last =>
    rw [Bool.and_eq_true, List.isEmpty_iff] at last
    rw [last.1]
    simpa using short
  case case8 short _ _ _ _ _ ih =>
    exact List.forall_mem_cons.mpr ⟨Nat.not_lt.mp short, fun name member =>
      ih located name (List.mem_append_right _ member)⟩
  case case9 short _ _ _ ih =>
    exact List.forall_mem_cons.mpr ⟨Nat.not_lt.mp short, ih located⟩

theorem Site.namesOf_ofPlace (site : Site) (names : Place) :
    site.namesOf (.ofPlace names) = names := rfl

theorem fits_of_writeFile {site after : Site} {names : Place} {content : Bytes}
    (written : Store.writeFile site (.ofPlace names) content = (after, .ok ())) :
    Fits (.ofPlace names) := by
  unfold Store.writeFile at written
  split at written
  · cases written
  · split at written
    · cases written
    next between made =>
      split at written
      · cases written
      next clean =>
        unfold Site.write at written
        cases placed : between.place .toMake (.ofPlace names) with
        | error error =>
            rw [placed] at written
            cases written
        | ok place =>
            unfold Site.place at placed
            simp only at placed
            split at placed
            · cases placed
            next short =>
              split at placed
              next located =>
                exact ⟨Bool.eq_false_iff.mpr clean, Nat.not_le.mp short, short_of_locate located⟩
              · cases placed

theorem hasNul_append {first second : Place}
    (clean : hasNul (.ofPlace (first ++ second)) = false) : hasNul (.ofPlace first) = false := by
  unfold hasNul Path.ofPlace at clean ⊢
  rw [List.any_append, Bool.or_eq_false_iff] at clean
  exact clean.1

theorem size_join_le (first second : List String) :
    (join "/" first).utf8ByteSize ≤ (join "/" (first ++ second)).utf8ByteSize := by
  by_cases left : first = []
  · simp [left, join]
  · by_cases right : second = []
    · simp [right]
    · rw [join, join, String.intercalate_append_of_ne_nil left right, String.utf8ByteSize_append,
        String.utf8ByteSize_append]
      omega

theorem Fits.above {first second : Place} (fits : Fits (.ofPlace (first ++ second))) :
    Fits (.ofPlace first) where
  clean := hasNul_append fits.clean
  short := by
    have whole := fits.short
    have less := size_join_le first second
    have text (names : Place) : (Path.ofPlace names).toText = "/" ++ join "/" names := rfl
    rw [text, String.utf8ByteSize_append] at whole ⊢
    omega
  names name member := fits.names name (List.mem_append_left _ member)

namespace Site
variable {site : Site} {names : Place} {entries : List (String × Item)}

theorem place_eq (reach : Reach) (fits : Fits (.ofPlace names)) :
    site.place reach (.ofPlace names) =
      match locate site.root reach linkLimit [] names with
      | .ok place => .ok place
      | .error fault => .error ⟨fault, (Path.ofPlace names).toText⟩ := by
  unfold place
  rw [if_neg (Nat.not_le.mpr fits.short)]
  rfl

theorem locate_below (fits : Fits (.ofPlace names)) (down : ".." ∉ names)
    (found : site.root.get? names = some (.directory entries)) (reach : Reach)
    (more : List String) :
    locate site.root reach linkLimit [] (names ++ more) =
      locate site.root reach linkLimit names more := by
  have short : names.all (·.utf8ByteSize ≤ nameLimit) = true :=
    List.all_eq_true.mpr fun name member => decide_eq_true (fits.names name member)
  rw [locate_through [] found down, short, if_pos rfl, List.nil_append]

theorem place_directory (fits : Fits (.ofPlace names)) (down : ".." ∉ names)
    (found : site.root.get? names = some (.directory entries)) (reach : Reach) :
    site.place reach (.ofPlace names) = .ok names := by
  have located := locate_below fits down found reach []
  rw [List.append_nil] at located
  rw [place_eq reach fits, located, locate]

theorem item_directory (fits : Fits (.ofPlace names)) (down : ".." ∉ names)
    (found : site.root.get? names = some (.directory entries)) :
    site.item (.ofPlace names) = .ok (.directory entries) := by
  rw [item, place_directory fits down found]
  dsimp only [Bind.bind, Except.bind]
  rw [found]

theorem list_directory (fits : Fits (.ofPlace names)) (down : ".." ∉ names)
    (found : site.root.get? names = some (.directory entries)) :
    site.list (.ofPlace names) =
      if site.isLocked names then .error ⟨.denied, (Path.ofPlace names).toText⟩
      else .ok entries := by
  unfold list
  rw [namesOf_ofPlace, place_directory fits down found]
  split
  · rfl
  · dsimp only [Bind.bind, Except.bind]
    rw [found]

theorem probe_eq {found : Item} (clean : hasNul (.ofPlace names) = false)
    (reached : site.item (.ofPlace names) = .ok found) :
    site.probe (.ofPlace names) = .ok (some found) := by
  rw [probe, if_neg (Bool.eq_false_iff.mp clean), reached]

theorem exists_directory (fits : Fits (.ofPlace names)) (down : ".." ∉ names)
    (found : site.root.get? names = some (.directory entries)) :
    site.exists? (.ofPlace names) = .ok true := by
  rw [exists?, probe_eq fits.clean (item_directory fits down found)]
  rfl

theorem isDirectory_directory (fits : Fits (.ofPlace names)) (down : ".." ∉ names)
    (found : site.root.get? names = some (.directory entries)) :
    site.isDirectory? (.ofPlace names) = .ok true := by
  rw [isDirectory?, probe_eq fits.clean (item_directory fits down found)]
  rfl

theorem resolve_directory (fits : Fits (.ofPlace names)) (down : ".." ∉ names)
    (found : site.root.get? names = some (.directory entries)) :
    site.resolve (.ofPlace names) = .ok (.ofPlace names) := by
  have enough : names.length ≤ names.length + site.root.linkSteps + 1 := by omega
  have self : resolveFrom site.root (names.length + site.root.linkSteps + 1) [] []
      (names.map .name) = ([] ++ names, true) :=
    resolveFrom_self found (fun target => Item.noConfusion) down enough []
  have located := locate_below fits down found .existing []
  rw [List.append_nil, locate] at located
  unfold resolve
  rw [if_neg (Bool.eq_false_iff.mp fits.clean), namesOf_ofPlace]
  simp only [self, List.nil_append, located]

theorem makeDirectories_present (fits : Fits (.ofPlace names)) (down : ".." ∉ names)
    (found : site.root.get? names = some (.directory entries)) :
    site.makeDirectories (.ofPlace names) = (site, .ok ()) := by
  rw [makeDirectories, isDirectory_directory fits down found]
  rfl

theorem locate_absent {name : String} (fits : Fits (.ofPlace (names ++ [name])))
    (down : ".." ∉ names ++ [name]) (found : site.root.get? names = some (.directory entries))
    (absent : entries.lookup name = none) (reach : Reach) :
    locate site.root reach linkLimit [] (names ++ [name]) =
      if reach == .toMake then .ok (names ++ [name]) else .error .missing := by
  rw [List.mem_append, not_or, List.mem_singleton] at down
  have named : ¬(name == "..") = true := fun same => down.2 (beq_iff_eq.mp same).symm
  have short : ¬name.utf8ByteSize > nameLimit :=
    Nat.not_lt.mpr (fits.names name (List.mem_append_right _ List.mem_cons_self))
  rw [locate_below fits.above down.1 found, locate_cons, Item.outlineAt_directory found,
    Item.outlineAt_snoc found, absent]
  simp only [if_neg named, if_neg short, Option.map_none, List.isEmpty_nil, Bool.true_and]

theorem locate_file {name : String} {content : Bytes} (fits : Fits (.ofPlace (names ++ [name])))
    (down : ".." ∉ names ++ [name]) (found : site.root.get? names = some (.directory entries))
    (there : entries.lookup name = some (.file content)) (reach : Reach) :
    locate site.root reach linkLimit [] (names ++ [name]) = .ok (names ++ [name]) := by
  rw [List.mem_append, not_or, List.mem_singleton] at down
  have named : ¬(name == "..") = true := fun same => down.2 (beq_iff_eq.mp same).symm
  have short : ¬name.utf8ByteSize > nameLimit :=
    Nat.not_lt.mpr (fits.names name (List.mem_append_right _ List.mem_cons_self))
  rw [locate_below fits.above down.1 found, locate_cons, Item.outlineAt_directory found,
    Item.outlineAt_snoc found, there]
  simp only [if_neg named, if_neg short, Option.map_some, Item.outline, locate]

theorem item_file {name : String} {content : Bytes} (fits : Fits (.ofPlace (names ++ [name])))
    (down : ".." ∉ names ++ [name]) (found : site.root.get? names = some (.directory entries))
    (there : entries.lookup name = some (.file content)) :
    site.item (.ofPlace (names ++ [name])) = .ok (.file content) := by
  rw [Site.item, place_eq .existing fits, locate_file fits down found there]
  dsimp only [Bind.bind, Except.bind]
  rw [Item.get?_snoc found, there]

theorem content_file {name : String} {content : Bytes} (fits : Fits (.ofPlace (names ++ [name])))
    (down : ".." ∉ names ++ [name]) (found : site.root.get? names = some (.directory entries))
    (there : entries.lookup name = some (.file content)) :
    site.content (.ofPlace (names ++ [name])) = .ok content := by
  rw [Site.content, item_file fits down found there]
  rfl

theorem read_file {name : String} {content : Bytes} (fits : Fits (.ofPlace (names ++ [name])))
    (down : ".." ∉ names ++ [name]) (found : site.root.get? names = some (.directory entries))
    (there : entries.lookup name = some (.file content))
    (readable : site.unreadable.contains (names ++ [name]) = false) :
    site.read (.ofPlace (names ++ [name])) = .ok content := by
  have placed : site.place .existing (.ofPlace (names ++ [name])) = .ok (names ++ [name]) := by
    rw [place_eq .existing fits, locate_file fits down found there]
  have allowed : site.isUnreadable (.ofPlace (names ++ [name])) = false := by
    rw [isUnreadable, placed]
    exact readable
  rw [Site.read, allowed, content_file fits down found there]
  rfl

theorem parent_ofPlace (names : Place) (name : String) :
    (Path.ofPlace (names ++ [name])).parent = .ofPlace names := by
  rw [Path.parent, Path.ofPlace, List.dropLast_concat]
  rfl

theorem name_ofPlace (names : Place) (name : String) :
    (Path.ofPlace (names ++ [name])).name = name := by
  rw [Path.name, Path.ofPlace, List.getLastD_concat]

theorem place_absent {name : String} (fits : Fits (.ofPlace (names ++ [name])))
    (down : ".." ∉ names ++ [name]) (found : site.root.get? names = some (.directory entries))
    (absent : entries.lookup name = none) {reach : Reach} (other : ¬(reach == .toMake) = true) :
    site.place reach (.ofPlace (names ++ [name])) =
      .error ⟨.missing, (Path.ofPlace (names ++ [name])).toText⟩ := by
  rw [place_eq reach fits, locate_absent fits down found absent, if_neg other]

theorem item_absent {name : String} (fits : Fits (.ofPlace (names ++ [name])))
    (down : ".." ∉ names ++ [name]) (found : site.root.get? names = some (.directory entries))
    (absent : entries.lookup name = none) :
    site.item (.ofPlace (names ++ [name])) =
      .error ⟨.missing, (Path.ofPlace (names ++ [name])).toText⟩ := by
  rw [Site.item, place_absent fits down found absent (by decide)]
  rfl

theorem read_absent {name : String} (fits : Fits (.ofPlace (names ++ [name])))
    (down : ".." ∉ names ++ [name]) (found : site.root.get? names = some (.directory entries))
    (absent : entries.lookup name = none) :
    site.read (.ofPlace (names ++ [name])) =
      .error ⟨.missing, (Path.ofPlace (names ++ [name])).toText⟩ := by
  have allowed : site.isUnreadable (.ofPlace (names ++ [name])) = false := by
    rw [isUnreadable, place_absent fits down found absent (by decide)]
  rw [Site.read, allowed, Site.content, item_absent fits down found absent]
  rfl

theorem makeDirectories_absent {name : String} (fits : Fits (.ofPlace (names ++ [name])))
    (down : ".." ∉ names ++ [name]) (found : site.root.get? names = some (.directory entries))
    (absent : entries.lookup name = none)
    (open' : ∀ fault, site.writing (names ++ [name]) ≠ .refused fault) :
    site.makeDirectories (.ofPlace (names ++ [name])) =
      (site.withRoot (site.root.put (names ++ [name]) (.directory [])), .ok ()) := by
  have above := place_directory fits.above (fun member => down (List.mem_append_left _ member))
    found .existing
  have item := item_absent fits down found absent
  have unseen : site.isDirectory? (.ofPlace (names ++ [name])) = .ok false := by
    rw [isDirectory?, probe, if_neg (Bool.eq_false_iff.mp fits.clean), item]
    rfl
  have made : site.makeDirectory (.ofPlace (names ++ [name])) =
      .ok (site.withRoot (site.root.put (names ++ [name]) (.directory []))) := by
    rw [makeDirectory, place_absent fits down found absent (by decide), parent_ofPlace, above,
      name_ofPlace]
    dsimp only
    split
    next fault refused => exact absurd refused (open' fault)
    next => rfl
  rw [makeDirectories, unseen]
  unfold makeDirectoriesFrom
  rw [made]
  rfl

theorem place_toMake {name : String} (fits : Fits (.ofPlace (names ++ [name])))
    (down : ".." ∉ names ++ [name]) (found : site.root.get? names = some (.directory entries))
    (free : ∀ item, entries.lookup name = some item → ∃ content, item = .file content) :
    site.place .toMake (.ofPlace (names ++ [name])) = .ok (names ++ [name]) := by
  rw [place_eq .toMake fits]
  cases there : entries.lookup name with
  | none => rw [locate_absent fits down found there, if_pos (by decide)]
  | some item =>
      obtain ⟨content, rfl⟩ := free item there
      rw [locate_file fits down found there]

theorem holding_of_whole {place : Place} (whole : site.writing place = .whole) (content : Bytes) :
    site.holding? place content = some content := by
  rw [holding?, whole]

theorem ending_of_whole {place : Place} (whole : site.writing place = .whole) :
    site.ending place = .ok () := by
  rw [ending, whole]

theorem write_holding {name : String} {content held : Bytes}
    (fits : Fits (.ofPlace (names ++ [name]))) (down : ".." ∉ names ++ [name])
    (found : site.root.get? names = some (.directory entries))
    (free : ∀ item, entries.lookup name = some item → ∃ content, item = .file content)
    (holds : site.holding? (names ++ [name]) content = some held) :
    site.write (.ofPlace (names ++ [name])) content =
      (site.withRoot (site.root.put (names ++ [name]) (.file held)),
        site.ending (names ++ [name])) := by
  have placed := place_toMake fits down found free
  have no : ∀ listed, site.root.get? (names ++ [name]) ≠ some (.directory listed) := by
    intro listed stands
    rw [Item.get?_snoc found] at stands
    obtain ⟨_, same⟩ := free _ stands
    cases same
  rcases write_at placed no content with ⟨fault, refused, _⟩ | ⟨other, also, wrote⟩
  · rw [holding?, refused] at holds
    cases holds
  · rw [wrote, Option.some.inj (also.symm.trans holds)]

theorem writeFile_of_made {name : String} {content : Bytes} {made : Site}
    (fits : Fits (.ofPlace (names ++ [name])))
    (directories : site.makeDirectories (.ofPlace names) = (made, .ok ())) :
    Store.writeFile site (.ofPlace (names ++ [name])) content =
      made.write (.ofPlace (names ++ [name])) content := by
  unfold Store.writeFile
  rw [parent_ofPlace, if_neg (Bool.eq_false_iff.mp (hasNul_append fits.clean)), directories]
  simp only [if_neg (Bool.eq_false_iff.mp fits.clean)]

theorem writeFile_holding {name : String} {content held : Bytes}
    (fits : Fits (.ofPlace (names ++ [name]))) (down : ".." ∉ names ++ [name])
    (found : site.root.get? names = some (.directory entries))
    (free : ∀ item, entries.lookup name = some item → ∃ content, item = .file content)
    (holds : site.holding? (names ++ [name]) content = some held) :
    Store.writeFile site (.ofPlace (names ++ [name])) content =
      (site.withRoot (site.root.put (names ++ [name]) (.file held)),
        site.ending (names ++ [name])) := by
  have present := makeDirectories_present fits.above
    (fun member => down (List.mem_append_left _ member)) found
  rw [writeFile_of_made fits present, write_holding fits down found free holds]

theorem writeFile_present {name : String} (fits : Fits (.ofPlace (names ++ [name])))
    (down : ".." ∉ names ++ [name]) (found : site.root.get? names = some (.directory entries))
    (free : ∀ item, entries.lookup name = some item → ∃ content, item = .file content)
    (whole : site.writing (names ++ [name]) = .whole) (content : Bytes) :
    Store.writeFile site (.ofPlace (names ++ [name])) content =
      (site.withRoot (site.root.put (names ++ [name]) (.file content)), .ok ()) := by
  rw [writeFile_holding fits down found free (holding_of_whole whole content),
    ending_of_whole whole]

theorem writeFile_absent {directory name : String}
    (fits : Fits (.ofPlace (names ++ [directory] ++ [name])))
    (down : ".." ∉ names ++ [directory] ++ [name])
    (found : site.root.get? names = some (.directory entries))
    (absent : entries.lookup directory = none)
    (open' : ∀ fault, site.writing (names ++ [directory]) ≠ .refused fault)
    (whole : site.writing (names ++ [directory] ++ [name]) = .whole) (content : Bytes) :
    Store.writeFile site (.ofPlace (names ++ [directory] ++ [name])) content =
      (site.withRoot (site.root.put (names ++ [directory]) (.directory [(name, .file content)])),
        .ok ()) := by
  have above : ".." ∉ names ++ [directory] := fun member => down (List.mem_append_left _ member)
  have made := makeDirectories_absent fits.above above found absent open'
  have empty : (site.withRoot (site.root.put (names ++ [directory]) (.directory []))).root.get?
      (names ++ [directory]) = some (.directory []) := by
    have below := Item.get?_put_below found directory (.directory []) []
    rwa [List.append_nil, Item.get?_nil] at below
  have still : (site.withRoot (site.root.put (names ++ [directory]) (.directory []))).writing
      (names ++ [directory] ++ [name]) = .whole := whole
  rw [writeFile_of_made fits made, write_holding fits down empty
    (fun item there => by simp at there) (holding_of_whole still content), ending_of_whole still]
  simp only [withRoot, Item.put_put found]

theorem makeDirectories_file {name : String} {content : Bytes}
    (fits : Fits (.ofPlace (names ++ [name]))) (down : ".." ∉ names ++ [name])
    (found : site.root.get? names = some (.directory entries))
    (there : entries.lookup name = some (.file content)) :
    site.makeDirectories (.ofPlace (names ++ [name])) =
      (site, .error ⟨.exists, (Path.ofPlace (names ++ [name])).toText⟩) := by
  have placed (reach : Reach) :
      site.place reach (.ofPlace (names ++ [name])) = .ok (names ++ [name]) := by
    rw [place_eq reach fits, locate_file fits down found there]
  have unseen : site.isDirectory? (.ofPlace (names ++ [name])) = .ok false := by
    rw [isDirectory?, probe_eq fits.clean (item_file fits down found there)]
    rfl
  have taken : site.makeDirectory (.ofPlace (names ++ [name])) =
      .error ⟨.exists, (Path.ofPlace (names ++ [name])).toText⟩ := by
    rw [makeDirectory, placed]
  rw [makeDirectories, unseen]
  unfold makeDirectoriesFrom
  rw [taken, unseen]
  rfl

theorem directory_of_writeFile {directory name : String} {content : Bytes} {after : Site}
    (fits : Fits (.ofPlace (names ++ [directory] ++ [name])))
    (down : ".." ∉ names ++ [directory] ++ [name])
    (found : site.root.get? names = some (.directory entries))
    (written : Store.writeFile site (.ofPlace (names ++ [directory] ++ [name])) content =
      (after, .ok ())) {item : Item} (there : entries.lookup directory = some item)
    (real : ∀ target, item ≠ .link target) : ∃ listed, item = .directory listed := by
  cases item with
  | directory listed => exact ⟨listed, rfl⟩
  | link target => exact absurd rfl (real target)
  | file old =>
      have failed := makeDirectories_file fits.above
        (fun member => down (List.mem_append_left _ member)) found there
      unfold Store.writeFile at written
      rw [parent_ofPlace, if_neg (Bool.eq_false_iff.mp (hasNul_append fits.clean)), failed]
        at written
      cases written

theorem file_of_writeFile {name : String} {content : Bytes} {after : Site}
    (fits : Fits (.ofPlace (names ++ [name]))) (down : ".." ∉ names ++ [name])
    (found : site.root.get? names = some (.directory entries))
    (written : Store.writeFile site (.ofPlace (names ++ [name])) content = (after, .ok ()))
    {item : Item} (there : entries.lookup name = some item)
    (real : ∀ target, item ≠ .link target) : ∃ content, item = .file content := by
  cases item with
  | file old => exact ⟨old, rfl⟩
  | link target => exact absurd rfl (real target)
  | directory listed =>
      have stands : site.root.get? (names ++ [name]) = some (.directory listed) :=
        (Item.get?_snoc found name).trans there
      have made := makeDirectories_present fits.above
        (fun member => down (List.mem_append_left _ member)) found
      have refused : site.write (.ofPlace (names ++ [name])) content =
          (site, .error (.os ⟨.isDirectory, (Path.ofPlace (names ++ [name])).toText⟩)) := by
        rw [write, place_directory fits down stands]
        dsimp only
        rw [stands]
      rw [writeFile_of_made fits made, refused] at written
      cases written

theorem whole_of_write {path : Path} {place : Place} {content : Bytes}
    (placed : site.place .toMake path = .ok place)
    (done : (site.write path content).2 = .ok ()) : site.writing place = .whole := by
  unfold write at done
  rw [placed] at done
  dsimp only at done
  split at done <;> first | assumption | cases done

theorem whole_of_writeFile {name : String} {content : Bytes} {after : Site}
    (fits : Fits (.ofPlace (names ++ [name]))) (down : ".." ∉ names ++ [name])
    (found : site.root.get? names = some (.directory entries))
    (free : ∀ item, entries.lookup name = some item → ∃ content, item = .file content)
    (written : Store.writeFile site (.ofPlace (names ++ [name])) content = (after, .ok ())) :
    site.writing (names ++ [name]) = .whole := by
  have present := makeDirectories_present fits.above
    (fun member => down (List.mem_append_left _ member)) found
  rw [writeFile_of_made fits present] at written
  exact whole_of_write (place_toMake fits down found free) (congrArg Prod.snd written)

theorem makeDirectories_refused {name : String} {fault : OsFault}
    (fits : Fits (.ofPlace (names ++ [name]))) (down : ".." ∉ names ++ [name])
    (found : site.root.get? names = some (.directory entries))
    (absent : entries.lookup name = none)
    (refused : site.writing (names ++ [name]) = .refused fault) :
    site.makeDirectories (.ofPlace (names ++ [name])) =
      (site, .error ⟨fault, (Path.ofPlace (names ++ [name])).toText⟩) := by
  have inner : ".." ∉ names := fun member => down (List.mem_append_left _ member)
  have above (reach : Reach) := place_directory fits.above inner found reach
  have unseen : site.isDirectory? (.ofPlace (names ++ [name])) = .ok false := by
    rw [isDirectory?, probe, if_neg (Bool.eq_false_iff.mp fits.clean),
      item_absent fits down found absent]
    rfl
  have unmade : site.makeDirectory (.ofPlace (names ++ [name])) =
      .error ⟨fault, (Path.ofPlace (names ++ [name])).toText⟩ := by
    rw [makeDirectory, place_absent fits down found absent (by decide), parent_ofPlace, above,
      name_ofPlace]
    dsimp only
    rw [refused]
  have there (fuel : Nat) : makeDirectoriesFrom fuel site (.ofPlace names) = (site, .ok ()) := by
    unfold makeDirectoriesFrom
    rw [makeDirectory, above, isDirectory_directory fits.above inner found]
  have named : ¬(Path.ofPlace (names ++ [name])).names.isEmpty = true := by simp [Path.ofPlace]
  rw [makeDirectories, unseen]
  unfold makeDirectoriesFrom
  rw [unmade, unseen, parent_ofPlace]
  simp only [there, unmade, if_neg named]
  cases fault <;> rfl

theorem open_of_writeFile {directory name : String} {content : Bytes} {after : Site}
    (fits : Fits (.ofPlace (names ++ [directory] ++ [name])))
    (down : ".." ∉ names ++ [directory] ++ [name])
    (found : site.root.get? names = some (.directory entries))
    (absent : entries.lookup directory = none)
    (written : Store.writeFile site (.ofPlace (names ++ [directory] ++ [name])) content =
      (after, .ok ())) :
    (∀ fault, site.writing (names ++ [directory]) ≠ .refused fault) ∧
      site.writing (names ++ [directory] ++ [name]) = .whole := by
  have above : ".." ∉ names ++ [directory] := fun member => down (List.mem_append_left _ member)
  have open' (fault : OsFault) : site.writing (names ++ [directory]) ≠ .refused fault := by
    intro refused
    have failed := makeDirectories_refused fits.above above found absent refused
    unfold Store.writeFile at written
    rw [parent_ofPlace, if_neg (Bool.eq_false_iff.mp (hasNul_append fits.clean)), failed]
      at written
    cases written
  refine ⟨open', ?_⟩
  have made := makeDirectories_absent fits.above above found absent open'
  have empty : (site.withRoot (site.root.put (names ++ [directory]) (.directory []))).root.get?
      (names ++ [directory]) = some (.directory []) := by
    have below := Item.get?_put_below found directory (.directory []) []
    rwa [List.append_nil, Item.get?_nil] at below
  rw [writeFile_of_made fits made] at written
  have whole := whole_of_write (place_toMake fits down empty fun item there => by simp at there)
    (congrArg Prod.snd written)
  exact whole

end Site

end SourceAtlas
