import SourceAtlas.Proofs.TreeChanges
import SourceAtlas.Proofs.WalkFindings
import Mathlib.Data.List.Nodup

/-!
Which files a walk selects, said without the walk: those that the names of a path lead to, if the
walk enters every directory on the way and does not ignore the file. Selected files are to be read
or only counted, as their names are eligible or not. The walk finds each of them once and nothing
else.
-/
namespace SourceAtlas

open Text

namespace Walk

def NamesFile (walk : Walk) (tree : Item) (names : List String) : Prop :=
  (∃ content, tree.get? names = some (.file content)) ∨
    (∃ target, tree.get? names = some (.link target)) ∧
      ∃ content, walk.site.item (.ofPlace (walk.root ++ names)) = .ok (.file content)

/-- Names below the root end at a directory that the walk goes into: a real one, which may be listed
and is not ignored. -/
structure Enters (walk : Walk) (tree : Item) (names : List String) : Prop where
  real : ∃ entries, tree.get? names = some (.directory entries)
  listed : walk.site.listFault? (walk.root ++ names) = none
  kept : walk.rules.ignoresDirectory (names.getLastD "") (join "/" names) = false

structure Selects (walk : Walk) (tree : Item) (path : String) : Prop where
  written : join "/" (Path.ofText path).names = path
  file : walk.NamesFile tree (Path.ofText path).names
  entered : ∀ names, names ≠ [] → names <+: (Path.ofText path).names →
    names ≠ (Path.ofText path).names → walk.Enters tree names
  kept : walk.rules.ignoresFile path = false

end Walk

def Findings.paths (eligible : Bool) (found : Findings) : List String :=
  if eligible then found.work.map (·.path) else found.others

namespace Findings

theorem part_paths (eligible : Bool) : Part (paths eligible) where
  empty := by cases eligible <;> rfl
  append a b := by
    cases eligible with
    | false => exact part_others.append a b
    | true => exact (congrArg _ (part_work.append a b)).trans List.map_append

theorem not_mem_paths {eligible : Bool} {found : Findings} {path : String}
    (unread : found.work = []) (uncounted : found.others = []) : path ∉ found.paths eligible := by
  cases eligible <;> simp [paths, unread, uncounted]

theorem paths_asEntry (eligible : Bool) (found : Findings) (name path : String) (depth : Nat) :
    (found.asEntry name path depth).paths eligible = found.paths eligible := rfl

end Findings

namespace Walk
open Findings

variable (walk : Walk) {tree : Item} {eligible : Bool}

theorem childPath_join {names : List String} (proper : ProperNames names) (name : String) :
    childPath (join "/" names) name = join "/" (names ++ [name]) := by
  by_cases empty : names = []
  · subst empty
    simp [childPath, join]
  · have filled := proper.join_ne_empty empty
    rw [childPath, if_neg (by simpa using filled), join, join,
      String.intercalate_append_of_ne_nil empty (List.cons_ne_nil _ _),
      String.intercalate_singleton]

theorem leadsToFile_iff {path : String} : walk.leadsToFile path = true ↔
    ∃ content, walk.site.item (.ofPlace (walk.placeOf path)) = .ok (.file content) := by
  rw [leadsToFile]
  split
  next content found => exact iff_of_true rfl ⟨content, found⟩
  next other => exact iff_of_false Bool.false_ne_true fun ⟨content, found⟩ => other content found

theorem leadsToFile_of_outline {walk other : Walk} {path : String}
    (same : (other.site.item (.ofPlace (other.placeOf path))).map Item.outline =
      (walk.site.item (.ofPlace (walk.placeOf path))).map Item.outline) :
    other.leadsToFile path = walk.leadsToFile path := by
  have seen (walk : Walk) : walk.leadsToFile path = true ↔
      (walk.site.item (.ofPlace (walk.placeOf path))).map Item.outline = .ok (.file []) := by
    rw [leadsToFile_iff]
    cases walk.site.item (.ofPlace (walk.placeOf path)) with
    | error error => simp [Except.map]
    | ok item => cases item <;> simp [Except.map, Item.outline]
  exact Bool.eq_iff_iff.mpr (by rw [seen, seen, same])

theorem placeOf_join {names : List String} (proper : ProperNames names) :
    walk.placeOf (join "/" names) = walk.root ++ names := by
  rw [placeOf, proper.ofText_join]

theorem mem_fileFindings {name path other : String} :
    other ∈ (walk.fileFindings name path).paths eligible ↔
      other = path ∧ walk.rules.ignoresFile path = false ∧
        walk.rules.isEligible name = eligible := by
  unfold fileFindings
  cases walk.rules.ignoresFile path <;> cases walk.rules.isEligible name <;> cases eligible <;>
    simp [paths]

structure SelectsFrom (tree : Item) (eligible : Bool) (start names : List String) : Prop where
  file : walk.NamesFile tree names
  entered : ∀ between, start <+: between → between <+: names → between ≠ names →
    walk.Enters tree between
  kept : walk.rules.ignoresFile (join "/" names) = false
  eligible : walk.rules.isEligible (names.getLastD "") = eligible

theorem NamesFile.eq_nil {walk : Walk} {item : Item} {here more : List String}
    (file : walk.NamesFile tree (here ++ more)) (found : tree.get? here = some item)
    (leaf : ∀ entries, item ≠ .directory entries) : more = [] := by
  cases more with
  | nil => rfl
  | cons name rest =>
      have below (other : Item) : tree.get? (here ++ name :: rest) ≠ some other := by
        rw [Item.get?_append, found]
        intro inside
        obtain ⟨entries, _, same, _⟩ := Item.exists_entry inside
        exact leaf entries same
      rcases file with ⟨content, inside⟩ | ⟨⟨target, inside⟩, _⟩ <;> exact absurd inside (below _)

theorem NamesFile.exists_child {walk : Walk} {entries : List (String × Item)}
    {here rest : List String} {name : String} (file : walk.NamesFile tree (here ++ name :: rest))
    (found : tree.get? here = some (.directory entries)) :
    ∃ child, entries.lookup name = some child := by
  rcases file with ⟨content, inside⟩ | ⟨⟨target, inside⟩, _⟩
  · exact Item.exists_child inside found
  · exact Item.exists_child inside found

theorem NamesFile.ne_directory {walk : Walk} {entries : List (String × Item)}
    {names : List String} (file : walk.NamesFile tree names) :
    tree.get? names ≠ some (.directory entries) := by
  rcases file with ⟨content, found⟩ | ⟨⟨target, found⟩, _⟩ <;> simp [found]

theorem mem_fileFindings_iff {item : Item} {here : List String} {path : String}
    (found : tree.get? here = some item) (leaf : ∀ entries, item ≠ .directory entries)
    (file : walk.NamesFile tree here) :
    path ∈ (walk.fileFindings (here.getLastD "") (join "/" here)).paths eligible ↔
      ∃ more, path = join "/" (here ++ more) ∧
        walk.SelectsFrom tree eligible here (here ++ more) := by
  rw [mem_fileFindings]
  constructor
  · rintro ⟨rfl, kept, chosen⟩
    refine ⟨[], by rw [List.append_nil], ?_⟩
    rw [List.append_nil]
    refine ⟨file, fun between first last other => ?_, kept, chosen⟩
    exact absurd (last.eq_of_length_le first.length_le) other
  · rintro ⟨more, rfl, selected⟩
    have ends := selected.file.eq_nil found leaf
    subst ends
    rw [List.append_nil] at selected ⊢
    exact ⟨rfl, selected.kept, selected.eligible⟩

theorem item_entry {here : List String} (names : ProperNames here) (depth : Nat)
    (entry : String × Item) :
    walk.item entry.1 (childPath (join "/" here) entry.1) depth entry.2 =
      walk.item ((here ++ [entry.1]).getLastD "") (join "/" (here ++ [entry.1])) depth entry.2 := by
  rw [childPath_join names, List.getLastD_concat]

theorem mem_entries_iff {entries : List (String × Item)} (here : List String) {depth : Nat}
    {path : String} (proper : tree.Proper) (found : tree.get? here = some (.directory entries))
    (items : ∀ entry ∈ entries,
      (path ∈ (walk.item ((here ++ [entry.1]).getLastD "") (join "/" (here ++ [entry.1])) depth
          entry.2).paths eligible ↔
        ∃ more, path = join "/" (here ++ [entry.1] ++ more) ∧
          walk.SelectsFrom tree eligible (here ++ [entry.1]) (here ++ [entry.1] ++ more))) :
    path ∈ (gather (walk.entries (join "/" here) depth entries)).paths eligible ↔
      ∃ name more, path = join "/" (here ++ [name] ++ more) ∧
        walk.SelectsFrom tree eligible (here ++ [name]) (here ++ [name] ++ more) := by
  have names := (proper.of_get? found).1
  rw [walk.mem_gather_entries (part_paths eligible)]
  constructor
  · rintro ⟨entry, member, inside⟩
    rw [walk.item_entry names] at inside
    exact ⟨entry.1, (items entry member).mp inside⟩
  · rintro ⟨name, more, same, selected⟩
    have file := selected.file
    rw [List.append_assoc] at file
    obtain ⟨child, listed⟩ := file.exists_child found
    refine ⟨(name, child), mem_of_lookup listed, ?_⟩
    rw [walk.item_entry names]
    exact (items (name, child) (mem_of_lookup listed)).mpr ⟨more, same, selected⟩

theorem selectsFrom_directory {here names : List String} {name : String}
    (below : here ++ [name] <+: names) :
    walk.SelectsFrom tree eligible here names ↔
      walk.Enters tree here ∧ walk.SelectsFrom tree eligible (here ++ [name]) names := by
  have start : here <+: names := (List.prefix_append here [name]).trans below
  have apart : here ≠ names := by
    intro same
    have longer := below.length_le
    rw [← same, List.length_append, List.length_singleton] at longer
    omega
  constructor
  · rintro ⟨file, entered, kept, chosen⟩
    refine ⟨entered here (List.prefix_refl _) start apart, file, fun between first => ?_, kept,
      chosen⟩
    exact entered between ((List.prefix_append here [name]).trans first)
  · rintro ⟨enters, file, entered, kept, chosen⟩
    refine ⟨file, fun between first last other => ?_, kept, chosen⟩
    obtain ⟨more, rfl⟩ := first
    cases more with
    | nil => simpa using enters
    | cons next rest =>
        exact entered _ (List.prefix_of_prefix_length_le below last (by simp)) last other

theorem exists_selectsFrom_directory {entries : List (String × Item)} {here : List String}
    {path : String} (found : tree.get? here = some (.directory entries)) :
    (∃ more, path = join "/" (here ++ more) ∧
        walk.SelectsFrom tree eligible here (here ++ more)) ↔
      walk.Enters tree here ∧ ∃ name more, path = join "/" (here ++ [name] ++ more) ∧
        walk.SelectsFrom tree eligible (here ++ [name]) (here ++ [name] ++ more) := by
  constructor
  · rintro ⟨more, same, selected⟩
    cases more with
    | nil => exact absurd (by simpa using found) selected.file.ne_directory
    | cons name more =>
        have below : here ++ [name] <+: here ++ name :: more := by simp
        obtain ⟨enters, after⟩ := (walk.selectsFrom_directory below).mp selected
        exact ⟨enters, name, more, by simpa using same, by simpa using after⟩
  · rintro ⟨enters, name, more, same, selected⟩
    have below : here ++ [name] <+: here ++ name :: more := by simp
    refine ⟨name :: more, by simpa using same, ?_⟩
    exact (walk.selectsFrom_directory below).mpr ⟨enters, by simpa using selected⟩

theorem mem_item_directory {entries : List (String × Item)} {here : List String} {depth : Nat}
    {path : String} (names : ProperNames here)
    (found : tree.get? here = some (.directory entries)) :
    path ∈ (walk.item (here.getLastD "") (join "/" here) depth (.directory entries)).paths
        eligible ↔ walk.Enters tree here ∧
      path ∈ (gather (walk.entries (join "/" here) (depth + 1) entries)).paths eligible := by
  rw [Walk.item, walk.placeOf_join names]
  split
  next ignored =>
    refine iff_of_false (not_mem_paths rfl rfl) fun entered => ?_
    exact absurd ignored (Bool.eq_false_iff.mp entered.1.kept)
  next kept =>
    split
    next fault refused =>
      refine iff_of_false (not_mem_paths rfl rfl) fun entered => ?_
      rw [entered.1.listed] at refused
      cases refused
    next listed =>
      have enters : walk.Enters tree here :=
        ⟨⟨entries, found⟩, listed, Bool.eq_false_iff.mpr kept⟩
      rw [paths_asEntry, and_iff_right enters]

theorem namesFile_link {target : String} {here : List String} (names : ProperNames here)
    (found : tree.get? here = some (.link target)) :
    walk.NamesFile tree here ↔ walk.leadsToFile (join "/" here) = true := by
  rw [leadsToFile_iff, walk.placeOf_join names, NamesFile, found]
  simp

theorem mem_item_link {target : String} {here : List String} {depth : Nat} {path : String}
    (names : ProperNames here) (found : tree.get? here = some (.link target)) :
    path ∈ (walk.item (here.getLastD "") (join "/" here) depth (.link target)).paths eligible ↔
      walk.NamesFile tree here ∧
        path ∈ (walk.fileFindings (here.getLastD "") (join "/" here)).paths eligible := by
  rw [Walk.item, walk.namesFile_link names found]
  split
  next reached => rw [and_iff_right reached]
  next astray =>
    exact iff_of_false (not_mem_paths rfl rfl) fun inside => astray inside.1

theorem mem_item_iff (proper : tree.Proper) (content : Item) {here : List String} {depth : Nat}
    {path : String} (found : tree.get? here = some content) :
    path ∈ (walk.item (here.getLastD "") (join "/" here) depth content).paths eligible ↔
      ∃ more, path = join "/" (here ++ more) ∧
        walk.SelectsFrom tree eligible here (here ++ more) := by
  have names := (proper.of_get? found).1
  induction content using Item.induction generalizing here depth with
  | file content =>
      rw [Walk.item]
      exact walk.mem_fileFindings_iff found (by simp) (.inl ⟨content, found⟩)
  | link target =>
      rw [walk.mem_item_link names found]
      by_cases file : walk.NamesFile tree here
      · rw [and_iff_right file]
        exact walk.mem_fileFindings_iff found (by simp) file
      · refine iff_of_false (fun inside => file inside.1) ?_
        rintro ⟨more, _, selected⟩
        have ends := selected.file.eq_nil found (by simp)
        exact file (by simpa [ends] using selected.file)
  | directory entries ih =>
      rw [walk.mem_item_directory names found, walk.exists_selectsFrom_directory found]
      refine and_congr_right fun _ => walk.mem_entries_iff here proper found ?_
      intro entry member
      have place := proper.get?_entry found member
      exact ih entry member place (proper.of_get? place).1

theorem NamesFile.proper {walk : Walk} {names : List String} (file : walk.NamesFile tree names)
    (proper : tree.Proper) : ProperNames names := by
  rcases file with ⟨_, found⟩ | ⟨⟨_, found⟩, _⟩ <;> exact (proper.of_get? found).1

theorem through_of_mem_item {entries : List (String × Item)} {here : List String} {depth : Nat}
    (proper : tree.Proper) (found : tree.get? here = some (.directory entries))
    {entry : String × Item} (member : entry ∈ entries) {path : String}
    (inside : path ∈ (walk.item entry.1 (childPath (join "/" here) entry.1) depth entry.2).paths
      eligible) :
    ∃ more, path = join "/" (here ++ entry.1 :: more) ∧ ProperNames (here ++ entry.1 :: more) := by
  rw [walk.item_entry (proper.of_get? found).1] at inside
  have place := proper.get?_entry found member
  obtain ⟨more, same, selected⟩ := (walk.mem_item_iff proper entry.2 place).mp inside
  have whole : here ++ [entry.1] ++ more = here ++ entry.1 :: more := by simp
  rw [whole] at same selected
  exact ⟨more, same, selected.file.proper proper⟩

theorem disjoint_items {entries : List (String × Item)} {here : List String} {depth : Nat}
    (proper : tree.Proper) (found : tree.get? here = some (.directory entries))
    {a b : String × Item} (left : a ∈ entries) (right : b ∈ entries) (apart : a.1 ≠ b.1) :
    List.Disjoint ((walk.item a.1 (childPath (join "/" here) a.1) depth a.2).paths eligible)
      ((walk.item b.1 (childPath (join "/" here) b.1) depth b.2).paths eligible) := by
  intro path inLeft inRight
  obtain ⟨more, same, first⟩ := walk.through_of_mem_item proper found left inLeft
  obtain ⟨others, equal, second⟩ := walk.through_of_mem_item proper found right inRight
  have names := first.join_inj second (same.symm.trans equal)
  exact apart (List.cons.inj (List.append_cancel_left names)).1

theorem nodup_entries {entries : List (String × Item)} {here : List String} {depth : Nat}
    (proper : tree.Proper) (found : tree.get? here = some (.directory entries))
    (items : ∀ entry ∈ entries,
      ((walk.item entry.1 (childPath (join "/" here) entry.1) depth entry.2).paths
        eligible).Nodup) :
    ((gather (walk.entries (join "/" here) depth entries)).paths eligible).Nodup := by
  have whole := (proper.of_get? found).2
  cases whole with
  | directory _ apart _ =>
      have perm := List.mergeSort_perm (walk.entries (join "/" here) depth entries)
        fun a b => precedes a.1 b.1
      rw [(part_paths eligible).gather, List.nodup_flatMap]
      constructor
      · intro one member
        rw [perm.mem_iff, walk.entries_eq_map] at member
        obtain ⟨entry, inside, rfl⟩ := List.mem_map.mp member
        exact items entry inside
      · refine (perm.pairwise_iff List.disjoint_symm).mpr ?_
        rw [walk.entries_eq_map, List.pairwise_map]
        exact (List.pairwise_map.mp apart).imp_of_mem fun left right =>
          walk.disjoint_items proper found left right

theorem nodup_item (proper : tree.Proper) (content : Item) {here : List String} {depth : Nat}
    (found : tree.get? here = some content) :
    ((walk.item (here.getLastD "") (join "/" here) depth content).paths eligible).Nodup := by
  have once (name path : String) : ((walk.fileFindings name path).paths eligible).Nodup := by
    unfold fileFindings
    cases eligible <;> split <;> try split
    all_goals simp [paths]
  have names := (proper.of_get? found).1
  induction content using Item.induction generalizing here depth with
  | file content =>
      rw [Walk.item]
      exact once _ _
  | link target =>
      rw [Walk.item]
      split
      · exact once _ _
      · cases eligible <;> exact List.nodup_nil
  | directory entries ih =>
      have below : ((gather (walk.entries (join "/" here) (depth + 1) entries)).paths
          eligible).Nodup := by
        refine walk.nodup_entries proper found fun entry member => ?_
        have place := proper.get?_entry found member
        rw [walk.item_entry names]
        exact ih entry member place (proper.of_get? place).1
      rw [Walk.item]
      split
      · cases eligible <;> exact List.nodup_nil
      · split
        · cases eligible <;> exact List.nodup_nil
        · exact below

theorem mem_all_iff {entries : List (String × Item)} {path : String}
    (proper : (Item.directory entries).Proper) :
    path ∈ (walk.all entries).paths eligible ↔ ∃ name more, path = join "/" (name :: more) ∧
      walk.SelectsFrom (.directory entries) eligible [name] (name :: more) := by
  refine walk.mem_entries_iff [] proper (Item.get?_nil _) fun entry member => ?_
  exact walk.mem_item_iff proper entry.2 (proper.get?_entry (Item.get?_nil _) member)

theorem nodup_all {entries : List (String × Item)} (proper : (Item.directory entries).Proper)
    (eligible : Bool) : ((walk.all entries).paths eligible).Nodup := by
  have root := Item.get?_nil (.directory entries)
  refine walk.nodup_entries proper root fun entry member => ?_
  rw [walk.item_entry .nil]
  exact walk.nodup_item proper entry.2 (proper.get?_entry root member)

theorem selects_iff (proper : tree.Proper) (root : ∃ entries, tree = .directory entries)
    {path : String} :
    (walk.Selects tree path ∧ walk.rules.isEligible (Path.ofText path).name = eligible) ↔
      ∃ name more, path = join "/" (name :: more) ∧
        walk.SelectsFrom tree eligible [name] (name :: more) := by
  constructor
  · rintro ⟨⟨written, file, entered, kept⟩, chosen⟩
    rw [Path.name] at chosen
    generalize (Path.ofText path).names = names at written file entered chosen
    cases names with
    | nil =>
        obtain ⟨entries, rfl⟩ := root
        exact absurd (Item.get?_nil _) file.ne_directory
    | cons name more =>
        refine ⟨name, more, written.symm, file, fun between first last other => ?_, ?_, chosen⟩
        · exact entered between (by rintro rfl; simp at first) last other
        · exact (congrArg walk.rules.ignoresFile written).trans kept
  · rintro ⟨name, more, rfl, file, entered, kept, chosen⟩
    have back := (file.proper proper).ofText_join
    have last : (Path.ofText (join "/" (name :: more))).name = (name :: more).getLastD "" := by
      rw [Path.name, back]
    refine ⟨⟨by rw [back], by rwa [back], ?_, kept⟩,
      (congrArg walk.rules.isEligible last).trans chosen⟩
    rw [back]
    intro between filled last other
    obtain ⟨next, rest, rfl⟩ := List.exists_cons_of_ne_nil filled
    have same := (List.cons_prefix_cons.mp last).1
    exact entered _ (by simp [same]) last other

theorem mem_paths_iff {entries : List (String × Item)}
    (proper : (Item.directory entries).Proper) (eligible : Bool) (path : String) :
    path ∈ (walk.all entries).paths eligible ↔
      walk.Selects (.directory entries) path ∧
        walk.rules.isEligible (Path.ofText path).name = eligible := by
  rw [walk.mem_all_iff proper, walk.selects_iff proper ⟨entries, rfl⟩]

/-- The walk over a tree finds the files that are selected, each once: the eligible ones are to be
read and the others only counted. So nothing is found below a directory that is ignored or below a
link, whatever an ignore file says about it. -/
theorem walk_finds_selected (walk : Walk) (entries : List (String × Item))
    (proper : (Item.directory entries).Proper) :
    (∀ path, path ∈ (walk.all entries).work.map (·.path) ↔
      walk.Selects (.directory entries) path ∧
        walk.rules.isEligible (Path.ofText path).name = true) ∧
    (∀ path, path ∈ (walk.all entries).others ↔
      walk.Selects (.directory entries) path ∧
        walk.rules.isEligible (Path.ofText path).name = false) ∧
    ((walk.all entries).work.map (·.path)).Nodup ∧ (walk.all entries).others.Nodup ∧
    ∀ path above, above ≠ [] → above <+: (Path.ofText path).names →
      above ≠ (Path.ofText path).names →
      walk.rules.ignoresDirectory (above.getLastD "") (join "/" above) = true ∨
        (∃ target, (Item.directory entries).get? above = some (.link target)) →
      path ∉ (walk.all entries).work.map (·.path) ∧ path ∉ (walk.all entries).others := by
  have toRead := walk.mem_paths_iff proper true
  have counted := walk.mem_paths_iff proper false
  refine ⟨toRead, counted, walk.nodup_all proper true, walk.nodup_all proper false, ?_⟩
  intro path above filled front other outside
  have unselected : ¬walk.Selects (.directory entries) path := by
    intro selected
    obtain ⟨⟨below, real⟩, _, kept⟩ := selected.entered above filled front other
    rcases outside with ignored | ⟨target, linked⟩
    · exact absurd ignored (Bool.eq_false_iff.mp kept)
    · simp [real] at linked
  exact ⟨fun inside => unselected ((toRead path).mp inside).1,
    fun inside => unselected ((counted path).mp inside).1⟩

/-- A file, a link to it, a directory, a link to the directory, and a directory that an ignore file
takes out before it asks for a file below it. -/
def sampleEntries : List (String × Item) :=
  [("a", .file []), ("b", .link "a"), ("c", .directory [("x", .file [])]), ("d", .link "c"),
    ("e", .directory [("z", .file [])])]

def sampleWalk : Walk where
  site := { root := .directory sampleEntries }
  root := []
  rules := { ignoreFile := Rule.ofText "e/\n!e/z\n", configs := ["*"] }

theorem sampleEntries_proper : (Item.directory sampleEntries).Proper := by
  refine .directory ?_ (by decide) ?_ <;>
    simp only [sampleEntries, List.forall_mem_cons, List.not_mem_nil, IsEmpty.forall_iff,
      implies_true, and_true]
  · refine ⟨?_, ?_, ?_, ?_, ?_⟩ <;> constructor <;> decide
  · exact ⟨.file _, .link _, .single ⟨by decide, by decide, by decide, by decide⟩ (.file _),
      .link _, .single ⟨by decide, by decide, by decide, by decide⟩ (.file _)⟩

theorem sampleWalk_selects : sampleWalk.Selects (.directory sampleEntries) "c/x" where
  written := by decide
  file := .inl ⟨[], rfl⟩
  entered names filled front other := by
    have parts : (Path.ofText "c/x").names = ["c", "x"] := by decide
    rw [parts] at front other
    obtain rfl : names = ["c"] := by
      rcases names with _ | ⟨first, _ | ⟨second, rest⟩⟩
      · exact absurd rfl filled
      · rw [(List.cons_prefix_cons.mp front).1]
      · simp_all
    exact ⟨⟨_, rfl⟩, rfl, by decide +kernel⟩
  kept := by decide +kernel

theorem sampleWalk_finds_selected :
    (Item.directory sampleEntries).Proper ∧
      "c/x" ∈ (sampleWalk.all sampleEntries).work.map (·.path) ∧
      ("e/z" ∉ (sampleWalk.all sampleEntries).work.map (·.path) ∧
        "e/z" ∉ (sampleWalk.all sampleEntries).others) ∧
      ("d/x" ∉ (sampleWalk.all sampleEntries).work.map (·.path) ∧
        "d/x" ∉ (sampleWalk.all sampleEntries).others) := by
  obtain ⟨toRead, _, _, _, outside⟩ :=
    walk_finds_selected sampleWalk sampleEntries sampleEntries_proper
  refine ⟨sampleEntries_proper, (toRead "c/x").mpr ⟨sampleWalk_selects, by decide +kernel⟩, ?_, ?_⟩
  · exact outside "e/z" ["e"] (by decide) (by decide) (by decide) (.inl (by decide +kernel))
  · exact outside "d/x" ["d"] (by decide) (by decide) (by decide) (.inr ⟨"c", rfl⟩)

end Walk

end SourceAtlas
