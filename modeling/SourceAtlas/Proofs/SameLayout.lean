import SourceAtlas.Proofs.LanguageDetection
import SourceAtlas.Proofs.NotedWork
import SourceAtlas.Proofs.SiteWrites
import SourceAtlas.Proofs.TextOrder
import SourceAtlas.Proofs.WalkFindings
import SourceAtlas.Proofs.WalkSelection
import Mathlib.Data.List.Nodup

/-!
Two sites in which a directory has the same layout: the same directories, files and links stand
below it, what its paths lead to is of the same kind, and the same places may not be listed or read.
What the files hold may differ. The walk of a scan and the detection of languages do not see that.
-/
namespace SourceAtlas

open Text

namespace Item

def sight (tree : Item) (names : List String) : Except OsFault (Option Item) :=
  (locate tree .existing linkLimit [] names).map tree.outlineAt

theorem outline_file {item : Item} {content : Bytes}
    (same : item.outline = (Item.file content).outline) : ∃ other, item = .file other := by
  cases item with
  | file other => exact ⟨other, rfl⟩
  | link _ | directory _ => cases same

theorem outline_link {item : Item} {target : String}
    (same : item.outline = (Item.link target).outline) : item = .link target := by
  cases item with
  | link other => exact same
  | file _ | directory _ => cases same

theorem outline_directory {item : Item} {entries : List (String × Item)}
    (same : item.outline = (Item.directory entries).outline) :
    ∃ others, item = .directory others := by
  cases item with
  | directory others => exact ⟨others, rfl⟩
  | file _ | link _ => cases same

theorem isDirectory_outline (item : Item) : item.outline.isDirectory = item.isDirectory := by
  cases item <;> rfl

end Item

/-- The second site shows the same as the first below a place, apart from what files hold. The way
up from the place may lead to anything. -/
structure SameLayout (a b : Site) (place : Place) : Prop where
  before : a.root.Proper
  after : b.root.Proper
  directory : ∃ entries, a.root.get? place = some (.directory entries)
  stands : ∀ names, b.root.outlineAt (place ++ names) = a.root.outlineAt (place ++ names)
  leads : ∀ names, ".." ∉ names → b.root.sight (place ++ names) = a.root.sight (place ++ names)
  locked : ∀ names, ".." ∉ names → b.isLocked (place ++ names) = a.isLocked (place ++ names)
  readable : ∀ names, ".." ∉ names →
    b.isUnreadable (.ofPlace (place ++ names)) = a.isUnreadable (.ofPlace (place ++ names))

namespace Site
variable {a b : Site} {path : Path}

theorem item_outline (site : Site) (names : Place) :
    (site.item (.ofPlace names)).map Item.outline =
      if (Path.ofPlace names).toText.utf8ByteSize ≥ Site.pathLimit then
        .error ⟨.nameTooLong, (Path.ofPlace names).toText⟩
      else match site.root.sight names with
        | .error fault => .error ⟨fault, (Path.ofPlace names).toText⟩
        | .ok none => .error ⟨.missing, (Path.ofPlace names).toText⟩
        | .ok (some item) => .ok item := by
  unfold item place Item.sight
  dsimp only
  rw [namesOf_ofPlace]
  split
  · rfl
  · cases locate site.root .existing linkLimit [] names with
    | error fault => rfl
    | ok place =>
        dsimp only [Bind.bind, Except.bind, Except.map, Item.outlineAt]
        cases site.root.get? place <;> rfl

theorem item_cases (same : (b.item path).map Item.outline = (a.item path).map Item.outline) :
    (∃ found other, a.item path = .ok found ∧ b.item path = .ok other ∧
      other.outline = found.outline) ∨
    ∃ error, a.item path = .error error ∧ b.item path = .error error := by
  cases before : a.item path with
  | ok found =>
      rw [before] at same
      cases later : b.item path with
      | ok other =>
          rw [later] at same
          exact .inl ⟨found, other, rfl, rfl, Except.ok.inj same⟩
      | error error =>
          rw [later] at same
          cases same
  | error error =>
      rw [before] at same
      cases later : b.item path with
      | ok other =>
          rw [later] at same
          cases same
      | error fault =>
          rw [later] at same
          exact .inr ⟨error, rfl, congrArg _ (Except.error.inj same)⟩

theorem exists_of_outline (same : (b.item path).map Item.outline = (a.item path).map Item.outline) :
    b.exists? path = a.exists? path := by
  unfold exists? probe
  split
  · rfl
  · rcases item_cases same with ⟨_, _, before, later, _⟩ | ⟨_, before, later⟩ <;>
      rw [before, later]
    rfl

theorem read_of_outline (same : (b.item path).map Item.outline = (a.item path).map Item.outline)
    (readable : b.isUnreadable path = a.isUnreadable path) :
    (∃ first second, a.read path = .ok first ∧ b.read path = .ok second) ∨
      ∃ error, a.read path = .error error ∧ b.read path = .error error := by
  unfold read content
  rw [readable]
  split
  · exact .inr ⟨_, rfl, rfl⟩
  rcases item_cases same with ⟨found, other, before, later, outline⟩ | ⟨error, before, later⟩
  · rw [before, later]
    cases found with
    | file content =>
        obtain ⟨held, rfl⟩ := Item.outline_file outline
        exact .inl ⟨content, held, rfl, rfl⟩
    | link target =>
        rw [Item.outline_link outline]
        exact .inr ⟨_, rfl, rfl⟩
    | directory entries =>
        obtain ⟨others, rfl⟩ := Item.outline_directory outline
        exact .inr ⟨_, rfl, rfl⟩
  · rw [before, later]
    exact .inr ⟨error, rfl, rfl⟩

theorem fits_of_exists {site : Site} {names : Place}
    (there : site.exists? (.ofPlace names) = .ok true) : Fits (.ofPlace names) := by
  unfold exists? probe at there
  split at there
  · cases there
  next clean =>
    cases reached : site.item (.ofPlace names) with
    | error error =>
        rw [reached] at there
        dsimp only at there
        split at there <;> cases there
    | ok item =>
        obtain ⟨place, placed, _⟩ := exists_of_bind reached
        unfold Site.place at placed
        dsimp only at placed
        split at placed
        · cases placed
        next short =>
          split at placed
          next located =>
            exact ⟨Bool.eq_false_iff.mpr clean, Nat.not_le.mp short, short_of_locate located⟩
          · cases placed

end Site

namespace SameLayout
variable {a b : Site} {place : Place} (alike : SameLayout a b place) {names : Place}
include alike

theorem item_outline (down : ".." ∉ names) :
    (b.item (.ofPlace (place ++ names))).map Item.outline =
      (a.item (.ofPlace (place ++ names))).map Item.outline := by
  rw [Site.item_outline, Site.item_outline, alike.leads names down]

theorem exists_eq (down : ".." ∉ names) :
    b.exists? (.ofPlace (place ++ names)) = a.exists? (.ofPlace (place ++ names)) :=
  Site.exists_of_outline (alike.item_outline down)

theorem reads (down : ".." ∉ names) :
    (∃ first second, a.read (.ofPlace (place ++ names)) = .ok first ∧
      b.read (.ofPlace (place ++ names)) = .ok second) ∨
    ∃ error, a.read (.ofPlace (place ++ names)) = .error error ∧
      b.read (.ofPlace (place ++ names)) = .error error :=
  Site.read_of_outline (alike.item_outline down) (alike.readable names down)

theorem exists_item {item : Item}
    (found : a.root.get? (place ++ names) = some item) :
    ∃ other, b.root.get? (place ++ names) = some other ∧ other.outline = item.outline := by
  have same := alike.stands names
  unfold Item.outlineAt at same
  rw [found] at same
  obtain ⟨other, there, outline⟩ := Option.map_eq_some_iff.mp same
  exact ⟨other, there, outline⟩

omit alike in
theorem symm (alike : SameLayout a b place) : SameLayout b a place where
  before := alike.after
  after := alike.before
  directory := by
    obtain ⟨entries, found⟩ := alike.directory
    rw [← List.append_nil place] at found ⊢
    obtain ⟨other, there, outline⟩ := alike.exists_item found
    obtain ⟨others, rfl⟩ := Item.outline_directory outline
    exact ⟨others, there⟩
  stands names := (alike.stands names).symm
  leads names down := (alike.leads names down).symm
  locked names down := (alike.locked names down).symm
  readable names down := (alike.readable names down).symm

omit alike in
theorem of_outlineAt (before : a.root.Proper) (after : b.root.Proper)
    (directory : ∃ entries, a.root.get? place = some (.directory entries))
    (same : ∀ place, b.root.outlineAt place = a.root.outlineAt place)
    (locked : b.locked = a.locked) (unreadable : b.unreadable = a.unreadable) :
    SameLayout a b place := by
  have located (names : List String) : locate b.root .existing linkLimit [] names =
      locate a.root .existing linkLimit [] names :=
    @locate_congr b.root a.root (fun _ _ => True)
      (fun here name _ _ => ⟨same here, same (here ++ [name])⟩) (fun _ _ _ _ => trivial)
      (fun _ _ _ _ => trivial) (fun _ _ _ _ _ _ => trivial) .existing linkLimit [] names trivial
  exact {
    before := before
    after := after
    directory := directory
    stands := fun names => same _
    leads := fun names _ => by rw [Item.sight, Item.sight, located, funext same]
    locked := fun names _ => by rw [Site.isLocked, Site.isLocked, locked]
    readable := fun names _ => by
      unfold Site.isUnreadable Site.place
      rw [Site.namesOf_ofPlace, Site.namesOf_ofPlace, located, unreadable] }

omit alike in
theorem of_put {site : Site} (proper : site.root.Proper)
    (directory : ∃ entries, site.root.get? place = some (.directory entries)) {parent : Place}
    {name : String} {old : Bytes} (found : site.root.get? (parent ++ [name]) = some (.file old))
    (content : Bytes) :
    SameLayout site { site with root := site.root.put (parent ++ [name]) (.file content) } place :=
  of_outlineAt proper (proper.put found (.file content)) directory
    (Item.outlineAt_put_file found content) rfl rfl

end SameLayout

theorem Findings.gather_eq_of_perm {found others : List (String × Findings)}
    (perm : found.Perm others) (apart : (found.map Prod.fst).Nodup) :
    gather found = gather others := by
  unfold gather
  rw [mergeSort_eq_of_perm Prod.fst perm fun _ left _ right same =>
    List.inj_on_of_nodup_map apart left right same]

theorem perm_of_entries {α β γ : Type} {f : String × α → γ} {g : String × β → γ}
    {first : List (String × α)} {second : List (String × β)}
    (left : (first.map Prod.fst).Nodup) (right : (second.map Prod.fst).Nodup)
    (onward : ∀ x ∈ first, ∃ y, (x.1, y) ∈ second ∧ g (x.1, y) = f x)
    (back : ∀ y ∈ second, ∃ x, (y.1, x) ∈ first ∧ f (y.1, x) = g y) :
    (second.map fun y => (y.1, g y)).Perm (first.map fun x => (x.1, f x)) := by
  have apart {δ : Type} (h : String × δ → γ) {list : List (String × δ)}
      (names : (list.map Prod.fst).Nodup) : (list.map fun z => (z.1, h z)).Nodup := by
    refine List.Nodup.of_map Prod.fst ?_
    rw [List.map_map]
    exact names
  rw [List.perm_ext_iff_of_nodup (apart g right) (apart f left)]
  intro pair
  simp only [List.mem_map]
  constructor
  · rintro ⟨y, member, rfl⟩
    obtain ⟨x, inside, same⟩ := back y member
    exact ⟨_, inside, by rw [same]⟩
  · rintro ⟨x, member, rfl⟩
    obtain ⟨y, inside, same⟩ := onward x member
    exact ⟨_, inside, by rw [same]⟩

namespace SameLayout
variable {a b : Site} {place : Place} (alike : SameLayout a b place)
include alike

theorem proper {names : Place} {item : Item} (found : a.root.get? (place ++ names) = some item) :
    ProperNames names := fun name member =>
  (alike.before.of_get? found).1 name (List.mem_append_right _ member)

theorem exists_entry {names : Place} {entries others : List (String × Item)}
    (found : a.root.get? (place ++ names) = some (.directory entries))
    (there : b.root.get? (place ++ names) = some (.directory others)) :
    ∀ entry ∈ entries, ∃ other, (entry.1, other) ∈ others ∧ other.outline = entry.2.outline ∧
      a.root.get? (place ++ (names ++ [entry.1])) = some entry.2 ∧
      b.root.get? (place ++ (names ++ [entry.1])) = some other := by
  intro entry member
  have stands := alike.before.get?_entry found member
  rw [List.append_assoc] at stands
  obtain ⟨other, inside, outline⟩ := alike.exists_item stands
  have listed := inside
  rw [← List.append_assoc, Item.get?_snoc there] at listed
  exact ⟨other, mem_of_lookup listed, outline, stands, inside⟩

section Walks
variable (rules : ScanRules)

theorem leadsToFile_eq {names : Place} (proper : ProperNames names) :
    (⟨b, place, rules⟩ : Walk).leadsToFile (join "/" names) =
      (⟨a, place, rules⟩ : Walk).leadsToFile (join "/" names) := by
  refine Walk.leadsToFile_of_outline ?_
  rw [Walk.placeOf_join _ proper, Walk.placeOf_join _ proper]
  exact alike.item_outline proper.down

theorem gather_entries_eq {names : Place} {entries others : List (String × Item)}
    (found : a.root.get? (place ++ names) = some (.directory entries))
    (there : b.root.get? (place ++ names) = some (.directory others))
    (each : ∀ entry ∈ entries, ∀ other, a.root.get? (place ++ (names ++ [entry.1])) = some entry.2 →
      b.root.get? (place ++ (names ++ [entry.1])) = some other →
      ∀ depth, (⟨b, place, rules⟩ : Walk).item entry.1 (join "/" (names ++ [entry.1])) depth other =
        (⟨a, place, rules⟩ : Walk).item entry.1 (join "/" (names ++ [entry.1])) depth entry.2)
    (depth : Nat) :
    Findings.gather ((⟨b, place, rules⟩ : Walk).entries (join "/" names) depth others) =
      Findings.gather ((⟨a, place, rules⟩ : Walk).entries (join "/" names) depth entries) := by
  have left := alike.before.nodup found
  have right := alike.after.nodup there
  simp only [Walk.entries_eq_map, Walk.childPath_join (alike.proper found)]
  refine Findings.gather_eq_of_perm (perm_of_entries left right ?_ ?_) ?_
  · intro entry member
    obtain ⟨other, inside, _, stands, placed⟩ := alike.exists_entry found there entry member
    exact ⟨other, inside, each entry member other stands placed _⟩
  · intro entry member
    obtain ⟨other, inside, _, placed, stands⟩ := alike.symm.exists_entry there found entry member
    exact ⟨other, inside, (each (entry.1, other) inside entry.2 stands placed _).symm⟩
  · rw [List.map_map]
    exact right

theorem item_eq (content : Item) : ∀ names other,
    a.root.get? (place ++ names) = some content → b.root.get? (place ++ names) = some other →
    ∀ name depth, (⟨b, place, rules⟩ : Walk).item name (join "/" names) depth other =
      (⟨a, place, rules⟩ : Walk).item name (join "/" names) depth content := by
  -- on the item of the first site; what stands there in the second is of the same kind
  induction content using Item.induction with
  | file content =>
      intro names other found there name depth
      obtain ⟨held, rfl⟩ : ∃ held, other = .file held := by
        obtain ⟨same, again, outline⟩ := alike.exists_item found
        cases there.symm.trans again
        exact Item.outline_file outline
      rfl
  | link target =>
      intro names other found there name depth
      obtain rfl : other = .link target := by
        obtain ⟨same, again, outline⟩ := alike.exists_item found
        cases there.symm.trans again
        exact Item.outline_link outline
      rw [Walk.item, Walk.item, alike.leadsToFile_eq rules (alike.proper found)]
      rfl
  | directory entries ih =>
      intro names other found there name depth
      obtain ⟨others, rfl⟩ : ∃ others, other = .directory others := by
        obtain ⟨same, again, outline⟩ := alike.exists_item found
        cases there.symm.trans again
        exact Item.outline_directory outline
      have proper := alike.proper found
      have listed : b.listFault? ((⟨b, place, rules⟩ : Walk).placeOf (join "/" names)) =
          a.listFault? ((⟨a, place, rules⟩ : Walk).placeOf (join "/" names)) := by
        rw [Walk.placeOf_join _ proper, Walk.placeOf_join _ proper]
        unfold Site.listFault?
        rw [alike.locked names proper.down]
      have below := alike.gather_entries_eq rules found there
        (fun entry member other stands placed depth =>
          ih entry member _ other stands placed entry.1 depth) (depth + 1)
      rw [Walk.item, Walk.item]
      dsimp only
      rw [listed, below]
      rfl

theorem all_eq {entries others : List (String × Item)}
    (found : a.root.get? place = some (.directory entries))
    (there : b.root.get? place = some (.directory others)) :
    (⟨b, place, rules⟩ : Walk).all others = (⟨a, place, rules⟩ : Walk).all entries := by
  rw [← List.append_nil place] at found there
  exact alike.gather_entries_eq rules found there (fun entry _ other stands placed depth =>
    alike.item_eq rules entry.2 _ other stands placed entry.1 depth) 1

end Walks

end SameLayout

def SameOutside (registry : Registry) (a b : Site) (place : Place) : Prop :=
  ∀ adapter ∈ registry.adapters, ∀ file ∈ adapter.detectionFiles,
    (Path.ofText file).isAbsolute = true ∨ ".." ∈ (Path.ofText file).names →
      ∀ names, ".." ∉ names → b.exists? ((Path.ofPlace (place ++ names)).child file) =
        a.exists? ((Path.ofPlace (place ++ names)).child file)

theorem standard_sameOutside (a b : Site) (place : Place) :
    SameOutside Registry.standard a b place := by
  have known : Registry.standard.adapters = Profiles.all := rfl
  have inside : (Profiles.all.all fun adapter => adapter.detectionFiles.all fun file =>
      !(Path.ofText file).isAbsolute && !(Path.ofText file).names.contains "..") = true := by
    decide +kernel
  intro adapter member file listed apart
  rw [known] at member
  have below := List.all_eq_true.mp (List.all_eq_true.mp inside adapter member) file listed
  rw [Bool.and_eq_true, Bool.not_eq_true', Bool.not_eq_true', Bool.eq_false_iff,
    Bool.eq_false_iff] at below
  rcases apart with absolute | up
  · exact absurd absolute below.1
  · exact absurd (List.contains_iff_mem.mpr up) below.2

namespace SameLayout
variable {a b : Site} {place : Place} (alike : SameLayout a b place)
include alike

theorem isDirectory_eq {name : String} {item other : Item}
    (found : a.root.get? (place ++ [name]) = some item) (outline : other.outline = item.outline) :
    Detection.isDirectory b (.ofPlace place) (name, other) =
      Detection.isDirectory a (.ofPlace place) (name, item) := by
  have proper := alike.proper found
  have child : (Path.ofPlace place).child name = .ofPlace (place ++ [name]) :=
    (proper name List.mem_cons_self).child (.ofPlace place)
  unfold Detection.isDirectory
  cases item with
  | file content =>
      obtain ⟨held, rfl⟩ := Item.outline_file outline
      rfl
  | directory entries =>
      obtain ⟨others, rfl⟩ := Item.outline_directory outline
      rfl
  | link target =>
      rw [Item.outline_link outline]
      dsimp only
      rw [child]
      rcases Site.item_cases (alike.item_outline proper.down) with
        ⟨led, same, before, later, kind⟩ | ⟨error, before, later⟩
      · rw [before, later]
        dsimp only
        rw [← same.isDirectory_outline, kind, led.isDirectory_outline]
      · rw [before, later]

theorem list_cases (fits : Fits (.ofPlace place)) :
    (∃ entries others, a.root.get? place = some (.directory entries) ∧
      b.root.get? place = some (.directory others) ∧
      a.list (.ofPlace place) = .ok entries ∧ b.list (.ofPlace place) = .ok others) ∨
    ∃ error, a.list (.ofPlace place) = .error error ∧ b.list (.ofPlace place) = .error error := by
  obtain ⟨entries, found⟩ := alike.directory
  obtain ⟨others, there⟩ := alike.symm.directory
  have down : ".." ∉ place := (alike.before.of_get? found).1.down
  have locked := alike.locked [] List.not_mem_nil
  rw [List.append_nil] at locked
  rw [Site.list_directory fits down found, Site.list_directory fits down there, locked]
  split
  · exact .inr ⟨_, rfl, rfl⟩
  · exact .inl ⟨entries, others, found, there, rfl, rfl⟩

theorem mem_subdirectories (fits : Fits (.ofPlace place)) {path : Path}
    (member : path ∈ Detection.subdirectories a (.ofPlace place)) :
    path ∈ Detection.subdirectories b (.ofPlace place) ∧
      ∃ name, ProperName name ∧ path = .ofPlace (place ++ [name]) := by
  obtain ⟨entries, listed, told, entry, inside, visible, is, rfl⟩ :=
    Detection.mem_subdirectories_iff.mp member
  rcases alike.list_cases fits with ⟨_, others, found, there, given, again⟩ | ⟨_, refused, _⟩
  · cases listed.symm.trans given
    rw [← List.append_nil place] at found there
    have stands := alike.before.get?_entry found inside
    rw [List.append_nil] at stands
    have named : ProperName entry.1 := alike.proper stands entry.1 List.mem_cons_self
    refine ⟨Detection.mem_subdirectories_iff.mpr ⟨others, again, ?_, ?_⟩, entry.1, named,
      named.child (.ofPlace place)⟩
    · intro other member shown
      obtain ⟨like, inEntries, outline, _, stands⟩ :=
        alike.symm.exists_entry there found other member
      obtain ⟨answer, asked⟩ := told (other.1, like) inEntries shown
      refine ⟨answer, ?_⟩
      rw [← asked, alike.isDirectory_eq stands outline.symm]
    · obtain ⟨other, member, outline, stands, _⟩ := alike.exists_entry found there entry inside
      refine ⟨(entry.1, other), member, visible, ?_, rfl⟩
      rw [alike.isDirectory_eq stands outline]
      exact is
  · cases listed.symm.trans refused

theorem detect_eq (fits : Fits (.ofPlace place)) {registry : Registry}
    (outside : SameOutside registry a b place) :
    registry.detect b (.ofPlace place) = registry.detect a (.ofPlace place) := by
  have exists_eq {names : Place} (proper : ProperNames names) {adapter : Adapter}
      (known : adapter ∈ registry.adapters) {file : String}
      (listed : file ∈ adapter.detectionFiles) :
      b.exists? ((Path.ofPlace (place ++ names)).child file) =
        a.exists? ((Path.ofPlace (place ++ names)).child file) := by
    by_cases apart : (Path.ofText file).isAbsolute = true ∨ ".." ∈ (Path.ofText file).names
    · exact outside adapter known file listed apart names proper.down
    · obtain ⟨relative, down⟩ := not_or.mp apart
      have below : ".." ∉ names ++ (Path.ofText file).names := fun member =>
        (List.mem_append.mp member).elim proper.down down
      have same := alike.exists_eq below
      unfold Path.child Path.append
      rw [if_neg relative]
      rw [← List.append_assoc] at same
      exact same
  refine Registry.detect_congr (fun path => ?_) fun adapter known file listed path member => ?_
  · exact ⟨fun inside => (alike.symm.mem_subdirectories fits inside).1,
      fun inside => (alike.mem_subdirectories fits inside).1⟩
  · rcases List.mem_cons.mp member with rfl | below
    · have same := exists_eq .nil known listed
      rw [List.append_nil] at same
      exact same
    · obtain ⟨name, named, rfl⟩ := (alike.mem_subdirectories fits below).2
      have single : ProperNames [name] := List.forall_mem_singleton.mpr named
      exact exists_eq single known listed

end SameLayout

end SourceAtlas
