import SourceAtlas.Scan
import SourceAtlas.Proofs.AddedFile
import SourceAtlas.Proofs.LanguageDetection

/-!
A site in which a file was written into a directory of some place, the directory being made if it
was not there. Whoever does not ask for the file or its directory by name sees no difference: paths
are resolved, read and probed as before, and the same languages are detected.
-/
namespace SourceAtlas

open Text

/-- A tree in which a file has been written, and where it differs from the one before: in one item,
which is the file or its directory. -/
structure Written (site : Site) (place : Place) (directory name : String) where
  tree : Item
  entries : List (String × Item)
  item : Item
  parent : Place
  last : String
  found : site.root.get? place = some (.directory entries)
  there : tree.get? place = some (.directory (Item.putEntry directory item entries))
  holds : ∃ listed content, item = .directory listed ∧ listed.lookup name = some (.file content)
  twins : Twins site.root tree parent last
  links : SameLinks site.root tree
  way : ∃ rest, parent ++ [last] = place ++ directory :: rest
  before : ∀ more item, site.root.get? (parent ++ [last] ++ more) = some item →
    parent ++ [last] ++ more = place ++ [directory, name]
  grows : ∀ walk : Walk, walk.site = site → walk.root = place →
    walk.rules.isEligible name = false →
      Findings.Grows 1 (walk.added directory name (site.root.get? (place ++ [directory, name])))
        (walk.all entries) ((walk.withTree tree).all (Item.putEntry directory item entries))

def newName (site : Site) (place : Place) (directory name : String) : String :=
  if (site.root.get? (place ++ [directory])).isSome then name else directory

namespace Written
variable {site : Site} {place : Place} {directory name : String}

theorem exists_made {entries : List (String × Item)} (content : Bytes)
    (proper : site.root.Proper) (fits : Fits (.ofPlace (place ++ [directory] ++ [name])))
    (named : ProperName directory) (down : ".." ∉ place ++ [directory] ++ [name])
    (found : site.root.get? place = some (.directory entries))
    (absent : entries.lookup directory = none)
    (unnamed : ∀ other target, site.root.get? other = some (.link target) →
      directory ∉ (Path.ofText target).names)
    (open' : ∀ fault, site.writing (place ++ [directory]) ≠ .refused fault)
    (whole : site.writing (place ++ [directory] ++ [name]) = .whole) :
    ∃ written : Written site place directory name, written.last = directory ∧
      Store.writeFile site (.ofPlace (place ++ [directory] ++ [name])) content =
        (site.withRoot written.tree, .ok ()) := by
  let new : Item := .directory [(name, .file content)]
  have nothing : site.root.get? (place ++ [directory]) = none :=
    (Item.get?_snoc found directory).trans absent
  have below (rest : Place) : site.root.get? (place ++ [directory] ++ rest) = none := by
    rw [Item.get?_append, nothing, Option.bind_none]
  have twins : Twins site.root (site.root.put (place ++ [directory]) new) place directory :=
    ⟨fun other outside => (Item.look_put found directory new outside).symm, unnamed⟩
  refine ⟨{
    tree := site.root.put (place ++ [directory]) new
    entries := entries
    item := new
    parent := place
    last := directory
    found := found
    there := by
      rw [Item.get?_put_above found (List.cons_ne_nil directory []) new, Item.put]
    holds := ⟨_, content, rfl, List.lookup_cons_self⟩
    twins := twins
    links := sameLinks_put found absent (Item.linkless_single name content) rfl
    way := ⟨[], rfl⟩
    before := fun more item stood => absurd (stood.symm.trans (below more)) (Option.some_ne_none _)
    grows := fun walk same root unread => by
      subst same root
      have none : walk.site.root.get? (walk.root ++ [directory, name]) = none := by
        have deeper := below [name]
        rwa [List.append_assoc] at deeper
      rw [none]
      exact Walk.all_grows_made twins proper found absent named unread content }, rfl, ?_⟩
  exact Site.writeFile_absent fits down found absent open' whole content

theorem exists_placed {entries listed : List (String × Item)} (content : Bytes)
    (proper : site.root.Proper) (fits : Fits (.ofPlace (place ++ [directory] ++ [name])))
    (down : ".." ∉ place ++ [directory] ++ [name])
    (found : site.root.get? place = some (.directory entries))
    (inside : entries.lookup directory = some (.directory listed))
    (free : ∀ item, listed.lookup name = some item → ∃ content, item = .file content)
    (unnamed : ∀ other target, site.root.get? other = some (.link target) →
      name ∉ (Path.ofText target).names)
    (whole : site.writing (place ++ [directory] ++ [name]) = .whole) :
    ∃ written : Written site place directory name, written.last = name ∧
      Store.writeFile site (.ofPlace (place ++ [directory] ++ [name])) content =
        (site.withRoot written.tree, .ok ()) := by
  have stands : site.root.get? (place ++ [directory]) = some (.directory listed) :=
    (Item.get?_snoc found directory).trans inside
  have before : site.root.get? (place ++ [directory, name]) = listed.lookup name := by
    have deeper := Item.get?_snoc stands name
    rwa [List.append_assoc] at deeper
  have twins : Twins site.root (site.root.put (place ++ [directory] ++ [name]) (.file content))
      (place ++ [directory]) name :=
    ⟨fun other outside => (Item.look_put stands name (.file content) outside).symm, unnamed⟩
  have unlinked (rest : Place) (target : String) :
      site.root.get? (place ++ [directory] ++ [name] ++ rest) ≠ some (.link target) := by
    rw [Item.get?_append, Item.get?_snoc stands]
    cases there : listed.lookup name with
    | none => simp
    | some item =>
        obtain ⟨old, rfl⟩ := free item there
        exact Item.linkless_file old rest target
  refine ⟨{
    tree := site.root.put (place ++ [directory] ++ [name]) (.file content)
    entries := entries
    item := .directory (Item.putEntry name (.file content) listed)
    parent := place ++ [directory]
    last := name
    found := found
    there := by
      rw [List.append_assoc, List.singleton_append,
        Item.get?_put_above found (List.cons_ne_nil directory [name])]
      exact congrArg some (Item.put_cons inside (List.cons_ne_nil name []) (.file content))
    holds := ⟨_, content, rfl, Item.lookup_putEntry_self name _ listed⟩
    twins := twins
    links := {
      links := fun other target => (Item.link_put_iff stands unlinked
        (Item.linkless_file content) other target).symm
      steps := by
        refine (Item.linkSteps_put stands ?_).symm
        cases there : listed.lookup name with
        | none => rfl
        | some item =>
            obtain ⟨old, rfl⟩ := free item there
            rfl }
    way := ⟨[name], by simp⟩
    before := fun more item stood => by
      rw [Item.get?_append, Item.get?_snoc stands] at stood
      obtain ⟨old, there, below⟩ := Option.bind_eq_some_iff.mp stood
      obtain ⟨content, rfl⟩ := free old there
      cases more with
      | nil => simp
      | cons next rest => cases below
    grows := fun walk same root unread => by
      subst same root
      rw [before]
      exact Walk.all_grows_placed twins proper found inside free unread content }, rfl, ?_⟩
  exact Site.writeFile_present fits down stands free whole content

theorem exists_written {entries : List (String × Item)} (content : Bytes)
    (proper : site.root.Proper) (fits : Fits (.ofPlace (place ++ [directory] ++ [name])))
    (named : ProperName directory) (file : ProperName name)
    (found : site.root.get? place = some (.directory entries))
    (real : ∀ item, site.root.get? (place ++ [directory]) = some item →
      ∃ listed, item = .directory listed)
    (free : ∀ item, site.root.get? (place ++ [directory, name]) = some item →
      ∃ content, item = .file content)
    (unnamed : ∀ other target, site.root.get? other = some (.link target) →
      newName site place directory name ∉ (Path.ofText target).names)
    (open' : site.root.get? (place ++ [directory]) = none →
      ∀ fault, site.writing (place ++ [directory]) ≠ .refused fault)
    (whole : site.writing (place ++ [directory] ++ [name]) = .whole) :
    ∃ written : Written site place directory name,
      written.last = newName site place directory name ∧
        Store.writeFile site (.ofPlace (place ++ [directory] ++ [name])) content =
          (site.withRoot written.tree, .ok ()) := by
  have down : ".." ∉ place ++ [directory] ++ [name] :=
    (((proper.of_get? found).1.snoc named).snoc file).down
  have stands := Item.get?_snoc found directory
  unfold newName at unnamed ⊢
  cases inside : entries.lookup directory with
  | none =>
      rw [inside] at stands
      simp only [stands] at unnamed ⊢
      exact exists_made content proper fits named down found inside unnamed (open' stands) whole
  | some item =>
      rw [inside] at stands
      obtain ⟨listed, rfl⟩ := real item stands
      simp only [stands] at unnamed ⊢
      refine exists_placed content proper fits down found inside (fun item there => ?_) unnamed
        whole
      refine free item ?_
      have deeper := Item.get?_snoc stands name
      rw [List.append_assoc] at deeper
      exact deeper.trans there

variable (written : Written site place directory name)

def after : Site := site.withRoot written.tree

theorem outside_place : ¬written.parent ++ [written.last] <+: place := by
  obtain ⟨rest, way⟩ := written.way
  rw [way]
  intro below
  have longer := below.length_le
  rw [List.length_append, List.length_cons] at longer
  omega

theorem outside_entry {other : String} (apart : other ≠ directory) :
    ¬written.parent ++ [written.last] <+: place ++ [other] := by
  obtain ⟨rest, way⟩ := written.way
  rw [way]
  exact Walk.not_prefix_of_ne apart

theorem agree_child (proper : site.root.Proper) {here : Place} {item : Item}
    (stands : site.root.get? here = some item)
    (outside : ¬written.parent ++ [written.last] <+: here) (text : String)
    (unnamed : written.last ∉ (Path.ofText text).names) :
    Agree site.root written.tree (site.namesOf ((Path.ofPlace here).child text)) := by
  have down : ".." ∉ here := (proper.of_get? stands).1.down
  unfold Path.child Path.append
  cases absolute : (Path.ofText text).isAbsolute with
  | true =>
      rw [if_pos rfl, Site.namesOf, if_pos absolute]
      exact written.twins.agree unnamed
  | false => exact written.twins.agree_from stands down outside unnamed

theorem agree_place (proper : site.root.Proper) (text : String)
    (unnamed : written.last ∉ (Path.ofText text).names) :
    Agree site.root written.tree (site.namesOf ((Path.ofPlace place).child text)) :=
  written.agree_child proper written.found written.outside_place text unnamed

theorem agree_root (proper : site.root.Proper) : Agree site.root written.tree place :=
  written.twins.agree_item written.found
    (proper.of_get? written.found).1.down written.outside_place

theorem ignoreFile_eq (proper : site.root.Proper) (other : written.last ≠ ".gitignore") :
    Scan.ignoreFile written.after (.ofPlace place) = Scan.ignoreFile site (.ofPlace place) := by
  have agree := written.agree_place proper ".gitignore" fun member =>
    other (List.mem_singleton.mp member)
  have same : written.after.read ((Path.ofPlace place).child ".gitignore") =
      site.read ((Path.ofPlace place).child ".gitignore") := agree.read_eq
  unfold Scan.ignoreFile
  dsimp only
  rw [same]

theorem filter_putEntry {p : String × Item → Bool} (name : String)
    (dropped : ∀ item, p (name, item) = false) (new : Item) (entries : List (String × Item)) :
    (Item.putEntry name new entries).filter p = entries.filter p := by
  induction entries with
  | nil => simp [Item.putEntry, dropped]
  | cons entry rest ih =>
      obtain ⟨n, i⟩ := entry
      unfold Item.putEntry
      split
      next same => simp [beq_iff_eq.mp same, dropped]
      next => simp only [List.filter_cons, ih]

theorem filterM_congr {α ε : Type} {p q : α → Except ε Bool} {list : List α}
    (same : ∀ a ∈ list, p a = q a) : list.filterM p = list.filterM q := by
  have onward (kept : List α) : list.filterAuxM p kept = list.filterAuxM q kept := by
    induction list generalizing kept with
    | nil => rfl
    | cons a rest ih =>
        rw [List.forall_mem_cons] at same
        simp only [List.filterAuxM, same.1, ih same.2]
  rw [List.filterM, List.filterM, onward]

theorem isDirectory_eq (proper : site.root.Proper) {entry : String × Item}
    (member : entry ∈ written.entries) (apart : entry.1 ≠ directory) :
    Detection.isDirectory written.after (.ofPlace place) entry =
      Detection.isDirectory site (.ofPlace place) entry := by
  have stands := proper.get?_entry written.found member
  have named : ProperName entry.1 :=
    (proper.of_get? stands).1 entry.1 (List.mem_append_right _ List.mem_cons_self)
  have agree := written.twins.agree_item stands
    (proper.of_get? stands).1.down (written.outside_entry apart)
  have child : (Path.ofPlace place).child entry.1 = .ofPlace (place ++ [entry.1]) :=
    named.child (.ofPlace place)
  have faces : ((written.after).item ((Path.ofPlace place).child entry.1)).map Item.face =
      (site.item ((Path.ofPlace place).child entry.1)).map Item.face :=
    Agree.item_face (child ▸ agree)
  have seen (item : Item) : item.face.isDirectory = item.isDirectory := by cases item <;> rfl
  unfold Detection.isDirectory
  cases entry.2 with
  | file _ | directory _ => rfl
  | link target =>
      dsimp only
      cases before : site.item ((Path.ofPlace place).child entry.1) <;>
        cases later : written.after.item ((Path.ofPlace place).child entry.1) <;>
          simp only [before, later, Except.map, Except.ok.injEq, Except.error.injEq, reduceCtorEq]
            at faces ⊢
      · rw [faces]
      · rw [← seen, faces, seen]

theorem list_before (proper : site.root.Proper) (fits : Fits (.ofPlace place)) :
    site.list (.ofPlace place) =
      if site.isLocked place then .error ⟨.denied, (Path.ofPlace place).toText⟩
      else .ok written.entries :=
  Site.list_directory fits
    (proper.of_get? written.found).1.down written.found

theorem list_after (proper : site.root.Proper) (fits : Fits (.ofPlace place)) :
    written.after.list (.ofPlace place) =
      if site.isLocked place then .error ⟨.denied, (Path.ofPlace place).toText⟩
      else .ok (Item.putEntry directory written.item written.entries) :=
  Site.list_directory fits
    (proper.of_get? written.found).1.down written.there

theorem subdirectories_eq (proper : site.root.Proper) (fits : Fits (.ofPlace place))
    (hidden : startsWith directory "." = true) :
    Detection.subdirectories written.after (.ofPlace place) =
      Detection.subdirectories site (.ofPlace place) := by
  have before := written.list_before proper fits
  have later := written.list_after proper fits
  have visible := filter_putEntry (p := fun entry => !startsWith entry.1 ".") directory
    (fun _ => by simp [hidden]) written.item written.entries
  have apart : ∀ entry ∈ written.entries.filter fun entry => !startsWith entry.1 ".",
      entry.1 ≠ directory := by
    intro entry member same
    have shown := (List.mem_filter.mp member).2
    simp [same, hidden] at shown
  have directories := filterM_congr fun entry member =>
    written.isDirectory_eq proper (List.mem_filter.mp member).1 (apart entry member)
  unfold Detection.subdirectories
  rw [before, later]
  cases site.isLocked place with
  | true => rfl
  | false =>
      simp only [Bool.false_eq_true, if_false, visible]
      rw [directories]

theorem mem_subdirectories {path : Path} (proper : site.root.Proper) (fits : Fits (.ofPlace place))
    (member : path ∈ Detection.subdirectories site (.ofPlace place)) :
    ∃ entry ∈ written.entries, startsWith entry.1 "." = false ∧
      path = .ofPlace (place ++ [entry.1]) := by
  obtain ⟨entries, listed, _, entry, inside, shown, _, rfl⟩ :=
    Detection.mem_subdirectories_iff.mp member
  rw [written.list_before proper fits] at listed
  split at listed
  · cases listed
  · cases listed
    have stands := proper.get?_entry written.found inside
    have named : ProperName entry.1 :=
      (proper.of_get? stands).1 entry.1 (List.mem_append_right _ List.mem_cons_self)
    exact ⟨entry, inside, shown, named.child (.ofPlace place)⟩

theorem detect_eq (proper : site.root.Proper) (fits : Fits (.ofPlace place))
    (hidden : startsWith directory "." = true) {registry : Registry}
    (manifests : ∀ adapter ∈ registry.adapters, ∀ file ∈ adapter.detectionFiles,
      written.last ∉ (Path.ofText file).names) :
    registry.detect written.after (.ofPlace place) = registry.detect site (.ofPlace place) := by
  refine Registry.detect_congr (fun path => ?_) fun adapter known file listed path member => ?_
  · rw [written.subdirectories_eq proper fits hidden]
  · have unnamed := manifests adapter known file listed
    have agree : Agree site.root written.tree (site.namesOf (path.child file)) := by
      rcases List.mem_cons.mp member with rfl | below
      · exact written.agree_place proper file unnamed
      · obtain ⟨entry, inside, shown, rfl⟩ := written.mem_subdirectories proper fits below
        have apart : entry.1 ≠ directory := by
          intro same
          simp [same, hidden] at shown
        exact written.agree_child proper (proper.get?_entry written.found inside)
          (written.outside_entry apart) file unnamed
    exact agree.exists_eq

end Written

end SourceAtlas
