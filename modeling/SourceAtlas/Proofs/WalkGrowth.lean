import Mathlib.Data.List.Nodup
import SourceAtlas.Proofs.TextOrder
import SourceAtlas.Proofs.TwinSites
import SourceAtlas.Proofs.WalkSelection

/-!
What a walk finds when one more file stands in its tree, or one that it does not read has changed. A
file that is not to be read adds to the other files and to the number of files, and a directory that
holds nothing else adds to nothing that is shown.
-/
namespace SourceAtlas

open Text

namespace Findings

theorem append_assoc (a b c : Findings) : a ++ b ++ c = a ++ (b ++ c) := by
  change append (append a b) c = append a (append b c)
  simp only [append, List.append_assoc, Nat.add_assoc, Nat.max_assoc]

theorem empty_append (a : Findings) : {} ++ a = a := by
  change append {} a = a
  simp only [append, List.nil_append, Nat.zero_add, Nat.zero_max]

theorem append_empty (a : Findings) : a ++ {} = a := by
  change append a {} = a
  simp only [append, List.append_nil, Nat.add_zero, Nat.max_zero]

def sum : List Findings → Findings
  | [] => {}
  | first :: rest => first ++ sum rest

theorem sum_append (first second : List Findings) :
    sum (first ++ second) = sum first ++ sum second := by
  induction first with
  | nil => rw [List.nil_append, sum, empty_append]
  | cons one rest ih => rw [List.cons_append, sum, sum, ih, append_assoc]

theorem foldl_eq (found : List (String × Findings)) (all : Findings) :
    found.foldl (fun all (_, one) => all ++ one) all = all ++ sum (found.map Prod.snd) := by
  induction found generalizing all with
  | nil => exact (append_empty all).symm
  | cons one rest ih => rw [List.foldl_cons, ih, List.map_cons, sum, append_assoc]

theorem gather_map (find : String → Item → Findings) (entries : List (String × Item)) :
    gather (entries.map fun entry => (entry.1, find entry.1 entry.2)) =
      sum ((entries.mergeSort fun a b => precedes a.1 b.1).map fun entry =>
        find entry.1 entry.2) := by
  have sorted := List.map_mergeSort (r := fun a b => precedes a.1 b.1)
    (s := fun a b => precedes a.1 b.1) (f := fun entry => (entry.1, find entry.1 entry.2))
    (l := entries) (fun _ _ _ _ => rfl)
  rw [gather, foldl_eq, empty_append, ← sorted, List.map_map]
  rfl

/-- The second findings count some more files than the first ones, none of them to be read, and
directories that nest no deeper or only so deep. -/
structure Grows (deep : Nat) (added : List String) (f g : Findings) : Prop where
  work : g.work = f.work
  files : g.files = f.files
  children : g.children = f.children
  others : g.others.Perm (added ++ f.others)
  total : g.totalFiles = added.length + f.totalFiles
  levels : g.levels ≤ max f.levels deep

namespace Grows
variable {deep : Nat} {added : List String} {f g : Findings}

theorem refl (deep : Nat) (f : Findings) : Grows deep [] f f :=
  ⟨rfl, rfl, rfl, .refl _, (Nat.zero_add _).symm, Nat.le_max_left _ _⟩

theorem between (grows : Grows deep added f g) (before after : Findings) :
    Grows deep added (before ++ (f ++ after)) (before ++ (g ++ after)) := by
  change Grows deep added (append before (append f after)) (append before (append g after))
  refine ⟨?_, ?_, ?_, ?_, ?_, ?_⟩ <;> simp only [append]
  · rw [grows.work]
  · rw [grows.files]
  · rw [grows.children]
  · refine ((grows.others.append_right _).append_left _).trans ?_
    rw [List.append_assoc]
    exact List.perm_append_comm_assoc _ _ _
  · have total := grows.total
    omega
  · have levels := grows.levels
    omega

theorem asEntry (grows : Grows deep added f g) (name path : String) (depth : Nat) :
    Grows (deep + 1) added (f.asEntry name path depth) (g.asEntry name path depth) where
  work := grows.work
  files := rfl
  children := by
    unfold Findings.asEntry
    simp only [grows.files, grows.children]
  others := grows.others
  total := grows.total
  levels := by
    have levels := grows.levels
    simp only [Findings.asEntry]
    omega

theorem asEntry_bare (grows : Grows deep added {} g) (name path : String) (depth : Nat) :
    Grows (deep + 1) added {} (g.asEntry name path depth) where
  work := grows.work
  files := rfl
  children := by
    unfold Findings.asEntry
    simp [grows.files, grows.children]
  others := grows.others
  total := grows.total
  levels := by
    have levels : g.levels ≤ max 0 deep := grows.levels
    change g.levels + 1 ≤ max 0 (deep + 1)
    omega

theorem sum_between (grows : Grows deep added f g) (before after : List Findings) :
    Grows deep added (sum (before ++ f :: after)) (sum (before ++ g :: after)) := by
  simp only [sum_append, sum]
  exact grows.between _ _

end Grows

end Findings

theorem putEntry_of_absent {name : String} {entries : List (String × Item)}
    (absent : entries.lookup name = none) (new : Item) :
    Item.putEntry name new entries = entries ++ [(name, new)] := by
  induction entries with
  | nil => rfl
  | cons entry rest ih =>
      obtain ⟨n, i⟩ := entry
      rw [List.lookup_cons] at absent
      cases same : name == n with
      | true => simp [same] at absent
      | false =>
          simp only [same] at absent
          have other : ¬(n == name) = true := fun equal =>
            absurd (beq_iff_eq.mp equal) (Ne.symm (ne_of_beq_false same))
          rw [Item.putEntry, if_neg other, ih absent, List.cons_append]

theorem ne_of_mem_beside {name : String} {old : Item} {before after : List (String × Item)}
    (apart : ((before ++ (name, old) :: after).map Prod.fst).Nodup) {entry : String × Item}
    (member : entry ∈ before ++ after) : entry.1 ≠ name := by
  intro same
  have key : entry.1 ∈ (before ++ after).map Prod.fst := List.mem_map_of_mem member
  rw [(List.perm_middle.map Prod.fst).nodup_iff, List.map_cons, List.nodup_cons] at apart
  exact apart.1 (same ▸ key)

theorem putEntry_of_present {name : String} {old : Item} {before after : List (String × Item)}
    (apart : ((before ++ (name, old) :: after).map Prod.fst).Nodup) (new : Item) :
    Item.putEntry name new (before ++ (name, old) :: after) = before ++ (name, new) :: after := by
  induction before with
  | nil => simp [Item.putEntry]
  | cons entry rest ih =>
      obtain ⟨n, i⟩ := entry
      rw [List.cons_append, List.map_cons, List.nodup_cons] at apart
      have other : ¬(n == name) = true := by
        intro same
        refine apart.1 ?_
        rw [beq_iff_eq.mp same, List.map_append]
        exact List.mem_append_right _ List.mem_cons_self
      rw [List.cons_append, Item.putEntry, if_neg other, ih apart.2, List.cons_append]

namespace Findings

variable {first second : String → Item → Findings} {deep : Nat} {added : List String}
  {name : String}

theorem gather_added {entries : List (String × Item)} (apart : (entries.map Prod.fst).Nodup)
    {new : Item} (absent : entries.lookup name = none)
    (others : ∀ entry ∈ entries, entry.1 ≠ name → second entry.1 entry.2 = first entry.1 entry.2)
    (grows : Grows deep added {} (second name new)) :
    Grows deep added (gather (entries.map fun entry => (entry.1, first entry.1 entry.2)))
      (gather ((entries ++ [(name, new)]).map fun entry => (entry.1, second entry.1 entry.2))) := by
  have unnamed : ∀ entry ∈ entries, entry.1 ≠ name := by
    intro entry member same
    have listed := lookup_of_mem apart (same ▸ member : (name, entry.2) ∈ entries)
    rw [absent] at listed
    cases listed
  obtain ⟨before, after, whole, parts, _⟩ := List.mergeSort_cons
    (fun a b c => precedes_trans a.1 b.1 c.1) (fun a b => precedes_total a.1 b.1)
    (name, new) entries
  have moved : ((entries ++ [(name, new)]).mergeSort fun a b => precedes a.1 b.1) =
      before ++ (name, new) :: after := by
    have distinct : ((entries ++ [(name, new)]).map Prod.fst).Nodup := by
      rw [List.map_append, List.nodup_append]
      refine ⟨apart, List.nodup_singleton _, fun a left b right => ?_⟩
      obtain ⟨entry, member, rfl⟩ := List.mem_map.mp left
      rw [List.map_singleton, List.mem_singleton] at right
      exact right ▸ unnamed entry member
    rw [← whole]
    exact mergeSort_eq_of_perm Prod.fst (List.perm_append_singleton _ _)
      fun x left y right same => List.inj_on_of_nodup_map distinct left right same
  have kept {list : List (String × Item)} (part : ∀ entry ∈ list, entry ∈ before ++ after) :
      list.map (fun entry => second entry.1 entry.2) =
        list.map fun entry => first entry.1 entry.2 := by
    refine List.map_congr_left fun entry member => ?_
    have listed : entry ∈ entries := List.mem_mergeSort.mp (parts ▸ part entry member)
    exact others entry listed (unnamed entry listed)
  have grown := grows.sum_between (before.map fun entry => first entry.1 entry.2)
    (after.map fun entry => first entry.1 entry.2)
  rw [sum_append, sum, empty_append, ← sum_append] at grown
  rw [gather_map, gather_map, moved, parts, List.map_append, List.map_append, List.map_cons,
    kept fun entry member => List.mem_append_left after member,
    kept fun entry member => List.mem_append_right before member]
  exact grown

theorem gather_replaced {old new : Item} {front back : List (String × Item)}
    (apart : ((front ++ (name, old) :: back).map Prod.fst).Nodup)
    (others : ∀ entry ∈ front ++ (name, old) :: back, entry.1 ≠ name →
      second entry.1 entry.2 = first entry.1 entry.2)
    (grows : Grows deep added (first name old) (second name new)) :
    Grows deep added
      (gather ((front ++ (name, old) :: back).map fun entry => (entry.1, first entry.1 entry.2)))
      (gather ((front ++ (name, new) :: back).map fun entry =>
        (entry.1, second entry.1 entry.2))) := by
  -- the new item is found where the old one stands, so that both lists are sorted alike
  let there (n : String) (item : Item) := if n = name then second name new else first n item
  have replaced : (front ++ (name, new) :: back).map
      (fun entry => (entry.1, second entry.1 entry.2)) =
        (front ++ (name, old) :: back).map fun entry => (entry.1, there entry.1 entry.2) := by
    have same {list : List (String × Item)} (part : ∀ entry ∈ list, entry ∈ front ++ back) :
        list.map (fun entry => (entry.1, second entry.1 entry.2)) =
          list.map fun entry => (entry.1, there entry.1 entry.2) := by
      refine List.map_congr_left fun entry member => ?_
      have named := ne_of_mem_beside apart (part entry member)
      have listed : entry ∈ front ++ (name, old) :: back :=
        List.perm_middle.mem_iff.mpr (List.mem_cons_of_mem _ (part entry member))
      simp only [there, if_neg named, others entry listed named]
    rw [List.map_append, List.map_cons, List.map_append, List.map_cons,
      same fun entry member => List.mem_append_left back member,
      same fun entry member => List.mem_append_right front member]
    simp only [there, if_true]
  have sorted := List.mergeSort_perm (front ++ (name, old) :: back) fun a b => precedes a.1 b.1
  obtain ⟨before, after, whole⟩ := List.append_of_mem
    (sorted.mem_iff.mpr (List.mem_append_right front List.mem_cons_self))
  have order : ((before ++ (name, old) :: after).map Prod.fst).Nodup := by
    rw [← whole, (sorted.map Prod.fst).nodup_iff]
    exact apart
  have same {list : List (String × Item)} (part : ∀ entry ∈ list, entry ∈ before ++ after) :
      list.map (fun entry => there entry.1 entry.2) =
        list.map fun entry => first entry.1 entry.2 := by
    refine List.map_congr_left fun entry member => ?_
    simp only [there, if_neg (ne_of_mem_beside order (part entry member))]
  rw [replaced, gather_map, gather_map, whole, List.map_append, List.map_append, List.map_cons,
    List.map_cons, same fun entry member => List.mem_append_left after member,
    same fun entry member => List.mem_append_right before member]
  simp only [there, if_true]
  exact grows.sum_between _ _

theorem gather_putEntry (first second : String → Item → Findings)
    {entries : List (String × Item)} (apart : (entries.map Prod.fst).Nodup) {new : Item}
    (others : ∀ entry ∈ entries, entry.1 ≠ name → second entry.1 entry.2 = first entry.1 entry.2)
    (grows : Grows deep added ((entries.lookup name).elim {} (first name)) (second name new)) :
    Grows deep added (gather (entries.map fun entry => (entry.1, first entry.1 entry.2)))
      (gather ((Item.putEntry name new entries).map fun entry =>
        (entry.1, second entry.1 entry.2))) := by
  cases inside : entries.lookup name with
  | none =>
      rw [inside] at grows
      rw [putEntry_of_absent inside]
      exact gather_added apart inside others grows
  | some old =>
      rw [inside] at grows
      obtain ⟨front, back, rfl, _⟩ := List.lookup_eq_some_iff.mp inside
      rw [putEntry_of_present apart]
      exact gather_replaced apart others grows

end Findings

namespace Walk
open Findings

variable {walk : Walk} {other : Item}

def withTree (walk : Walk) (other : Item) : Walk :=
  { walk with site := walk.site.withRoot other }

theorem leadsToFile_eq {path : String} (agree : Agree walk.site.root other (walk.placeOf path)) :
    (walk.withTree other).leadsToFile path = walk.leadsToFile path := by
  have outlined (found : Except OsError Item) :
      found.map Item.outline = (found.map Item.face).map Item.outline := by
    cases found with
    | error error => rfl
    | ok item => cases item <;> rfl
  have faces : ((walk.site.withRoot other).item (.ofPlace (walk.placeOf path))).map Item.face =
      (walk.site.item (.ofPlace (walk.placeOf path))).map Item.face := Agree.item_face agree
  exact leadsToFile_of_outline <| (outlined _).trans <|
    (congrArg (Except.map Item.outline) faces).trans (outlined _).symm

theorem fileFindings_withTree (walk : Walk) (other : Item) (name path : String) :
    (walk.withTree other).fileFindings name path = walk.fileFindings name path := rfl

theorem item_withTree {parent : Place} {last : String}
    (twins : Twins walk.site.root other parent last) (proper : walk.site.root.Proper)
    (content : Item) {here : List String} (name : String) (depth : Nat)
    (found : walk.site.root.get? (walk.root ++ here) = some content)
    (apart : ∀ more, ¬parent ++ [last] <+: walk.root ++ here ++ more) :
    (walk.withTree other).item name (join "/" here) depth content =
      walk.item name (join "/" here) depth content := by
  have whole := (proper.of_get? found).1
  have names : ProperNames here := fun name member => whole name (List.mem_append_right _ member)
  induction content using Item.induction generalizing here name depth with
  | file content => rfl
  | link target =>
      have outside := apart []
      rw [List.append_nil] at outside
      have agree := twins.agree_item found whole.down outside
      rw [Walk.item, Walk.item, leadsToFile_eq (walk.placeOf_join names ▸ agree)]
      rfl
  | directory entries ih =>
      have below : (walk.withTree other).entries (join "/" here) (depth + 1) entries =
          walk.entries (join "/" here) (depth + 1) entries := by
        rw [entries_eq_map, entries_eq_map]
        refine List.map_congr_left fun entry member => ?_
        have there := proper.get?_entry found member
        rw [List.append_assoc] at there
        have named := (proper.of_get? there).1
        rw [childPath_join names, ih entry member entry.1 (depth + 1) there
          (fun more => by simpa using apart (entry.1 :: more)) named
          fun name member => named name (List.mem_append_right _ member)]
      rw [Walk.item, Walk.item, below]
      rfl

/-- A walk counts what stands in a directory of its root under a name. -/
structure Counts (walk : Walk) (directory name : String) : Prop where
  entered : walk.rules.ignoresDirectory directory directory = false
  listed : walk.site.listFault? (walk.root ++ [directory]) = none
  kept : walk.rules.ignoresFile (directory ++ "/" ++ name) = false

instance (walk : Walk) (directory name : String) : Decidable (walk.Counts directory name) :=
  decidable_of_iff (walk.rules.ignoresDirectory directory directory = false ∧
      walk.site.listFault? (walk.root ++ [directory]) = none ∧
        walk.rules.ignoresFile (directory ++ "/" ++ name) = false)
    ⟨fun ⟨entered, listed, kept⟩ => ⟨entered, listed, kept⟩,
      fun counts => ⟨counts.entered, counts.listed, counts.kept⟩⟩

def added (walk : Walk) (directory name : String) (before : Option Item) : List String :=
  if before.isNone ∧ walk.Counts directory name then [directory ++ "/" ++ name] else []

variable {directory name : String}

theorem childPath_root (name : String) : childPath "" name = name := rfl

theorem placeOf_name (walk : Walk) (proper : ProperName name) :
    walk.placeOf name = walk.root ++ [name] := by
  have single := (ProperNames.nil.snoc proper).ofText_join
  rw [List.nil_append, join, String.intercalate_singleton] at single
  rw [placeOf, single]

theorem childPath_name (proper : ProperName directory) (name : String) :
    childPath directory name = directory ++ "/" ++ name :=
  if_neg (by simpa using proper.filled)

theorem grows_fileFindings {path : String} (unread : walk.rules.isEligible name = false) :
    Grows 0 (if walk.rules.ignoresFile path = false then [path] else []) {}
      (walk.fileFindings name path) := by
  unfold fileFindings
  cases walk.rules.ignoresFile path with
  | true => exact ⟨rfl, rfl, rfl, .refl _, rfl, Nat.le_refl _⟩
  | false =>
      rw [unread]
      exact ⟨rfl, rfl, rfl, .refl _, rfl, Nat.le_refl _⟩

theorem item_directory (walk : Walk) (proper : ProperName directory)
    (entries : List (String × Item)) :
    walk.item directory directory 1 (.directory entries) =
      if walk.rules.ignoresDirectory directory directory then { ignoredDirs := 1 }
      else match walk.site.listFault? (walk.root ++ [directory]) with
        | some fault =>
            ({ notes := [walk.unlisted directory fault] } : Findings).asEntry directory directory 1
        | none => (gather (walk.entries directory 2 entries)).asEntry directory directory 1 := by
  rw [← walk.placeOf_name proper]
  rfl

def passedOn (walk : Walk) (directory : String) (added : List String) : List String :=
  if walk.rules.ignoresDirectory directory directory then []
  else if (walk.site.listFault? (walk.root ++ [directory])).isSome then [] else added

theorem grows_directory {more : List String} {old new : List (String × Item)}
    (proper : ProperName directory)
    (inside : Grows 0 more (gather (walk.entries directory 2 old))
      (gather ((walk.withTree other).entries directory 2 new))) :
    Grows 1 (walk.passedOn directory more) (walk.item directory directory 1 (.directory old))
      ((walk.withTree other).item directory directory 1 (.directory new)) := by
  rw [item_directory _ proper, item_directory _ proper, passedOn]
  change Grows _ _ _ (if walk.rules.ignoresDirectory directory directory then _
    else match walk.site.listFault? (walk.root ++ [directory]) with
      | some fault => _
      | none => _)
  split
  · exact .refl _ _
  · cases walk.site.listFault? (walk.root ++ [directory]) with
    | some fault => exact .refl _ _
    | none => exact inside.asEntry directory directory 1

theorem grows_made {more : List String} {new : List (String × Item)} (proper : ProperName directory)
    (inside : Grows 0 more {} (gather (walk.entries directory 2 new))) :
    Grows 1 (walk.passedOn directory more) {}
      (walk.item directory directory 1 (.directory new)) := by
  rw [item_directory _ proper, passedOn]
  split
  · exact ⟨rfl, rfl, rfl, .refl _, rfl, Nat.zero_le _⟩
  · cases walk.site.listFault? (walk.root ++ [directory]) with
    | some fault => exact ⟨rfl, rfl, rfl, .refl _, rfl, Nat.le_refl _⟩
    | none => exact inside.asEntry_bare directory directory 1

theorem added_eq (walk : Walk) (directory name : String) (before : Option Item) :
    walk.added directory name before = walk.passedOn directory
      (if before.isNone then
        if walk.rules.ignoresFile (directory ++ "/" ++ name) = false then
          [directory ++ "/" ++ name]
        else []
      else []) := by
  unfold added passedOn
  have counts : walk.Counts directory name ↔
      walk.rules.ignoresDirectory directory directory = false ∧
        walk.site.listFault? (walk.root ++ [directory]) = none ∧
          walk.rules.ignoresFile (directory ++ "/" ++ name) = false :=
    ⟨fun counts => ⟨counts.entered, counts.listed, counts.kept⟩,
      fun ⟨entered, listed, kept⟩ => ⟨entered, listed, kept⟩⟩
  simp only [counts]
  cases before.isNone <;> cases walk.rules.ignoresDirectory directory directory <;>
    cases walk.site.listFault? (walk.root ++ [directory]) <;> simp

theorem not_prefix_of_ne {base rest more : List String} {first second : String}
    (other : second ≠ first) : ¬base ++ first :: rest <+: base ++ second :: more := by
  rw [List.prefix_append_right_inj, List.cons_prefix_cons]
  exact fun both => other both.1.symm

theorem items_withTree {parent : Place} {last : String}
    (twins : Twins walk.site.root other parent last) (proper : walk.site.root.Proper)
    {entries : List (String × Item)} {here : List String} {inner : String} {rest : List String}
    (found : walk.site.root.get? (walk.root ++ here) = some (.directory entries))
    (changed : parent ++ [last] = walk.root ++ here ++ inner :: rest) (depth : Nat) :
    ∀ entry ∈ entries, entry.1 ≠ inner →
      (walk.withTree other).item entry.1 (childPath (join "/" here) entry.1) depth entry.2 =
        walk.item entry.1 (childPath (join "/" here) entry.1) depth entry.2 := by
  intro entry member named
  have there := proper.get?_entry found member
  have names := (proper.of_get? found).1
  rw [childPath_join fun name inside => names name (List.mem_append_right _ inside)]
  rw [List.append_assoc] at there
  refine item_withTree twins proper entry.2 entry.1 depth there fun more => ?_
  rw [changed, ← List.append_assoc walk.root here, List.append_assoc _ [entry.1],
    List.singleton_append]
  exact not_prefix_of_ne named

theorem all_grows_made {entries : List (String × Item)}
    (twins : Twins walk.site.root other walk.root directory) (proper : walk.site.root.Proper)
    (found : walk.site.root.get? walk.root = some (.directory entries))
    (absent : entries.lookup directory = none) (named : ProperName directory)
    (unread : walk.rules.isEligible name = false) (content : Bytes) :
    Grows 1 (walk.added directory name none) (walk.all entries)
      ((walk.withTree other).all
        (Item.putEntry directory (.directory [(name, .file content)]) entries)) := by
  have base : walk.site.root.get? (walk.root ++ []) = some (.directory entries) := by
    simpa only [List.append_nil] using found
  have changed : walk.root ++ [directory] = walk.root ++ [] ++ [directory] := by
    rw [List.append_nil]
  have inside : Grows 0 (if walk.rules.ignoresFile (directory ++ "/" ++ name) = false then
      [directory ++ "/" ++ name] else []) {}
        (gather ((walk.withTree other).entries directory 2 [(name, .file content)])) := by
    have only : gather ((walk.withTree other).entries directory 2 [(name, .file content)]) =
        walk.fileFindings name (directory ++ "/" ++ name) := by
      rw [entries_eq_map, List.map_singleton, childPath_name named, Walk.item,
        fileFindings_withTree, gather, List.mergeSort_singleton, List.foldl_cons, List.foldl_nil]
      exact empty_append _
    exact only ▸ grows_fileFindings unread
  rw [all, all, entries_eq_map, entries_eq_map, added_eq]
  refine gather_putEntry (fun n item => walk.item n (childPath "" n) 1 item)
    (fun n item => (walk.withTree other).item n (childPath "" n) 1 item) (proper.nodup found)
    (items_withTree twins proper base changed 1) ?_
  rw [absent]
  exact grows_made named inside

theorem all_grows_placed {entries listed : List (String × Item)}
    (twins : Twins walk.site.root other (walk.root ++ [directory]) name)
    (proper : walk.site.root.Proper)
    (found : walk.site.root.get? walk.root = some (.directory entries))
    (inside : entries.lookup directory = some (.directory listed))
    (free : ∀ item, listed.lookup name = some item → ∃ content, item = .file content)
    (unread : walk.rules.isEligible name = false) (content : Bytes) :
    Grows 1 (walk.added directory name (listed.lookup name)) (walk.all entries)
      ((walk.withTree other).all (Item.putEntry directory
        (.directory (Item.putEntry name (.file content) listed)) entries)) := by
  have base : walk.site.root.get? (walk.root ++ []) = some (.directory entries) := by
    simpa only [List.append_nil] using found
  have changed : walk.root ++ [directory] ++ [name] = walk.root ++ [] ++ [directory, name] := by
    simp
  have there : walk.site.root.get? (walk.root ++ [directory]) = some (.directory listed) :=
    (Item.get?_snoc found directory).trans inside
  have named : ProperName directory :=
    (proper.of_get? there).1 directory (List.mem_append_right _ List.mem_cons_self)
  have single : join "/" [directory] = directory := String.intercalate_singleton
  have deeper : Grows 0 (if (listed.lookup name).isNone then
      if walk.rules.ignoresFile (directory ++ "/" ++ name) = false then
        [directory ++ "/" ++ name] else [] else [])
      (gather (walk.entries directory 2 listed))
      (gather ((walk.withTree other).entries directory 2
        (Item.putEntry name (.file content) listed))) := by
    have same := items_withTree twins proper there rfl 2
    rw [single] at same
    rw [entries_eq_map, entries_eq_map]
    refine gather_putEntry (fun n item => walk.item n (childPath directory n) 2 item)
      (fun n item => (walk.withTree other).item n (childPath directory n) 2 item)
      (proper.nodup there) same ?_
    rw [childPath_name named]
    cases before : listed.lookup name with
    | none => exact grows_fileFindings unread
    | some item =>
        obtain ⟨old, rfl⟩ := free item before
        exact .refl _ _
  rw [all, all, entries_eq_map, entries_eq_map, added_eq]
  refine gather_putEntry (fun n item => walk.item n (childPath "" n) 1 item)
    (fun n item => (walk.withTree other).item n (childPath "" n) 1 item) (proper.nodup found)
    (items_withTree twins proper base changed 1) ?_
  rw [inside]
  exact grows_directory named deeper

end Walk

end SourceAtlas
