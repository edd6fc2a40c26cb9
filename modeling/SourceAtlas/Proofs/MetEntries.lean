import Mathlib
import SourceAtlas.Proofs.WalkGrowth

/-!
How many files and directories a walk meets. It meets the entries of the directories that it lists:
of its root, and of each directory that it enters after all of those above. Every file that it meets
is counted as taken or as ignored, and so is every directory, so the counts add up to the numbers of
these entries, whatever the rules are.
-/
namespace SourceAtlas

open Text

theorem encard_biUnion {α β : Type} {part : α → Set β} {xs : List α}
    (apart : xs.Pairwise fun a b => Disjoint (part a) (part b)) :
    (⋃ a ∈ xs, part a).encard = (xs.map fun a => (part a).encard).sum := by
  induction xs with
  | nil => simp
  | cons a rest ih =>
      obtain ⟨first, later⟩ := List.pairwise_cons.mp apart
      have parts : (⋃ b ∈ a :: rest, part b) = part a ∪ ⋃ b ∈ rest, part b := by
        simp [Set.iUnion_or, Set.iUnion_union_distrib]
      rw [parts, Set.encard_union_eq (Set.disjoint_iUnion₂_right.mpr first), ih later,
        List.map_cons, List.sum_cons]

namespace Findings

def count (directories : Bool) (found : Findings) : Nat :=
  if directories then found.totalDirs + found.ignoredDirs
  else found.totalFiles + found.ignoredFiles

variable {directories : Bool}

/-- A number among the findings, for which those of two directories add up. -/
structure Tally (number : Findings → Nat) : Prop where
  empty : number {} = 0
  append : ∀ a b, number (a ++ b) = number a + number b

theorem tally_totalFiles : Tally totalFiles := ⟨rfl, fun _ _ => rfl⟩

theorem tally_count (directories : Bool) : Tally (count directories) where
  empty := by cases directories <;> rfl
  append a b := by cases directories <;> exact Nat.add_add_add_comm ..

theorem tally_length : Tally fun found => found.work.length + found.others.length where
  empty := rfl
  append a b := by
    rw [part_work.append, part_others.append, List.length_append, List.length_append,
      Nat.add_add_add_comm]

theorem Tally.sum {number : Findings → Nat} (law : Tally number) (all : List Findings) :
    number (Findings.sum all) = (all.map number).sum := by
  induction all with
  | nil => exact law.empty
  | cons first rest ih => rw [Findings.sum, law.append, ih, List.map_cons, List.sum_cons]

theorem Tally.gather {number : Findings → Nat} (law : Tally number)
    (found : List (String × Findings)) :
    number (gather found) = (found.map fun one => number one.2).sum := by
  rw [Findings.gather, foldl_eq, empty_append, law.sum, List.map_map]
  exact ((List.mergeSort_perm found _).map _).sum_eq

theorem count_asEntry (found : Findings) (name path : String) (depth : Nat) :
    (found.asEntry name path depth).count directories =
      directories.toNat + found.count directories := by
  cases directories with
  | false => exact (Nat.zero_add _).symm
  | true => exact (Nat.add_right_comm ..).trans (Nat.add_comm ..)

end Findings

namespace Walk
open Findings

/-- The walk lists a directory that it enters, after all of those above it. It lists its root. -/
def Lists (walk : Walk) (tree : Item) (names : List String) : Prop :=
  ∀ above, above ≠ [] → above <+: names → walk.Enters tree above

def IsKind (walk : Walk) (tree : Item) (directories : Bool) (names : List String) : Prop :=
  if directories then ∃ entries, tree.get? names = some (.directory entries)
  else walk.NamesFile tree names

def met (walk : Walk) (tree : Item) (directories : Bool) : Set Place :=
  {place | ∃ directory name, place = directory ++ [name] ∧ walk.Lists tree directory ∧
    walk.IsKind tree directories place}

def metFrom (walk : Walk) (tree : Item) (directories : Bool) (here : Place) : Set Place :=
  {place | here <+: place ∧ walk.IsKind tree directories place ∧
    ∀ between, here <+: between → between <+: place → between ≠ place → walk.Enters tree between}

variable (walk : Walk) {tree : Item} {directories : Bool}

theorem IsKind.exists_item {walk : Walk} {names : List String}
    (kind : walk.IsKind tree directories names) : ∃ item, tree.get? names = some item := by
  cases directories with
  | true =>
      obtain ⟨entries, found⟩ := kind
      exact ⟨_, found⟩
  | false => exact kind.elim (fun ⟨_, found⟩ => ⟨_, found⟩) fun ⟨⟨_, found⟩, _⟩ => ⟨_, found⟩

theorem mem_metFrom_leaf {item : Item} {here place : List String}
    (found : tree.get? here = some item) (leaf : ∀ entries, item ≠ .directory entries) :
    place ∈ walk.metFrom tree directories here ↔
      place = here ∧ walk.IsKind tree directories here := by
  constructor
  · rintro ⟨start, kind, entered⟩
    obtain same | other := eq_or_ne here place
    · exact ⟨same.symm, same ▸ kind⟩
    · obtain ⟨entries, real⟩ := (entered here (List.prefix_refl _) start other).real
      exact absurd (Option.some.inj (found.symm.trans real)) (leaf entries)
  · rintro ⟨rfl, kind⟩
    refine ⟨List.prefix_refl _, kind, fun between first last other => ?_⟩
    exact absurd (last.eq_of_length_le first.length_le) other

theorem mem_metFrom_directory {entries : List (String × Item)} {here place : List String}
    (found : tree.get? here = some (.directory entries)) :
    place ∈ walk.metFrom tree directories here ↔ (place = here ∧ directories = true) ∨
      walk.Enters tree here ∧ ∃ entry ∈ entries,
        place ∈ walk.metFrom tree directories (here ++ [entry.1]) := by
  constructor
  · rintro ⟨⟨more, rfl⟩, kind, entered⟩
    cases more with
    | nil =>
        rw [List.append_nil] at kind ⊢
        cases directories with
        | true => exact .inl ⟨rfl, rfl⟩
        | false => exact absurd found (NamesFile.ne_directory kind)
    | cons name rest =>
        obtain ⟨_, stands⟩ := kind.exists_item
        obtain ⟨child, listed⟩ := Item.exists_child stands found
        have enters := entered here (List.prefix_refl _) (List.prefix_append _ _) (by simp)
        refine .inr ⟨enters, (name, child), mem_of_lookup listed, ⟨rest, by simp⟩, kind,
          fun between first => ?_⟩
        exact entered between ((List.prefix_append _ _).trans first)
  · rintro (⟨rfl, rfl⟩ | ⟨enters, entry, _, start, kind, entered⟩)
    · refine ⟨List.prefix_refl _, ⟨entries, found⟩, fun between first last other => ?_⟩
      exact absurd (last.eq_of_length_le first.length_le) other
    · refine ⟨(List.prefix_append _ _).trans start, kind, fun between first last other => ?_⟩
      obtain ⟨more, rfl⟩ := first
      cases more with
      | nil => simpa using enters
      | cons next rest =>
          exact entered _ (List.prefix_of_prefix_length_le start last (by simp)) last other

theorem disjoint_metFrom {here : List String} {a b : String} (apart : a ≠ b) :
    Disjoint (walk.metFrom tree directories (here ++ [a]))
      (walk.metFrom tree directories (here ++ [b])) := by
  rw [Set.disjoint_left]
  rintro place ⟨left, _⟩ ⟨right, _⟩
  have same := List.prefix_of_prefix_length_le left right (by simp)
  exact apart (by simpa using same)

theorem count_fileFindings (name path : String) :
    (walk.fileFindings name path).count directories = (!directories).toNat := by
  unfold fileFindings
  split
  · cases directories <;> rfl
  · split <;> cases directories <;> rfl

section Numbers
variable {here : List String}

theorem encard_place (here : Place) (kind : Bool) :
    {place : Place | place = here ∧ kind = true}.encard = kind.toNat := by
  cases kind <;> simp

theorem encard_metFrom_leaf {item : Item} (found : tree.get? here = some item)
    (leaf : ∀ entries, item ≠ .directory entries) {file : Bool}
    (is : walk.NamesFile tree here ↔ file = true) :
    (walk.metFrom tree directories here).encard = (!directories && file).toNat := by
  rw [← encard_place here]
  congr
  ext place
  rw [walk.mem_metFrom_leaf found leaf]
  refine and_congr_right fun _ => ?_
  cases directories with
  | true => simpa [IsKind, found] using leaf
  | false => simpa [IsKind] using is

variable {entries : List (String × Item)} (found : tree.get? here = some (.directory entries))
include found

theorem encard_metFrom_unentered (unentered : ¬walk.Enters tree here) :
    (walk.metFrom tree directories here).encard = directories.toNat := by
  rw [← encard_place here]
  congr
  ext place
  rw [walk.mem_metFrom_directory found]
  exact or_iff_left fun both => unentered both.1

theorem encard_metFrom_entered (enters : walk.Enters tree here) :
    (walk.metFrom tree directories here).encard = directories.toNat +
      (⋃ entry ∈ entries, walk.metFrom tree directories (here ++ [entry.1])).encard := by
  rw [← encard_place here, ← Set.encard_union_eq]
  · congr
    ext place
    simp [walk.mem_metFrom_directory found, enters]
  · rw [Set.disjoint_iUnion₂_right]
    intro entry _
    rw [Set.disjoint_left]
    rintro place ⟨rfl, _⟩ ⟨below, _⟩
    simpa using below.length_le

theorem encard_entries {depth : Nat} (proper : tree.Proper)
    (items : ∀ entry ∈ entries, (walk.metFrom tree directories (here ++ [entry.1])).encard =
      (walk.item entry.1 (childPath (join "/" here) entry.1) depth entry.2).count directories) :
    (⋃ entry ∈ entries, walk.metFrom tree directories (here ++ [entry.1])).encard =
      (gather (walk.entries (join "/" here) depth entries)).count directories := by
  have apart : entries.Pairwise fun a b =>
      Disjoint (walk.metFrom tree directories (here ++ [a.1]))
        (walk.metFrom tree directories (here ++ [b.1])) :=
    (List.pairwise_map.mp (proper.nodup found)).imp walk.disjoint_metFrom
  rw [encard_biUnion apart, List.map_congr_left items, (tally_count _).gather, walk.entries_eq_map,
    List.map_map, Nat.cast_list_sum, List.map_map]
  rfl

end Numbers

theorem encard_metFrom (proper : tree.Proper) (content : Item) {here : List String} {depth : Nat}
    (found : tree.get? here = some content) :
    (walk.metFrom tree directories here).encard =
      (walk.item (here.getLastD "") (join "/" here) depth content).count directories := by
  have names := (proper.of_get? found).1
  induction content using Item.induction generalizing here depth with
  | file content =>
      have file : walk.NamesFile tree here ↔ true = true := iff_of_true (.inl ⟨_, found⟩) rfl
      rw [walk.encard_metFrom_leaf found (by simp) file, Walk.item, count_fileFindings,
        Bool.and_true]
  | link target =>
      rw [walk.encard_metFrom_leaf found (by simp) (walk.namesFile_link names found), Walk.item]
      cases walk.leadsToFile (join "/" here) with
      | true => rw [if_pos rfl, count_fileFindings, Bool.and_true]
      | false => cases directories <;> rfl
  | directory entries ih =>
      rw [Walk.item, walk.placeOf_join names]
      split
      next ignored =>
        rw [walk.encard_metFrom_unentered found fun enters =>
          absurd ignored (Bool.eq_false_iff.mp enters.kept)]
        cases directories <;> rfl
      next kept =>
        split
        next fault refused =>
          have barred : ¬walk.Enters tree here := by
            intro enters
            rw [enters.listed] at refused
            cases refused
          rw [walk.encard_metFrom_unentered found barred, count_asEntry]
          cases directories <;> rfl
        next listed =>
          have enters : walk.Enters tree here :=
            ⟨⟨entries, found⟩, listed, Bool.eq_false_iff.mpr kept⟩
          rw [walk.encard_metFrom_entered found enters, count_asEntry, Nat.cast_add,
            walk.encard_entries found proper]
          intro entry member
          have place := proper.get?_entry found member
          rw [walk.item_entry names]
          exact ih entry member place (proper.of_get? place).1

theorem met_eq (entries : List (String × Item)) :
    walk.met (.directory entries) directories =
      ⋃ entry ∈ entries, walk.metFrom (.directory entries) directories ([] ++ [entry.1]) := by
  ext place
  simp only [Set.mem_iUnion, exists_prop]
  constructor
  · rintro ⟨directory, name, rfl, lists, kind⟩
    obtain ⟨_, stands⟩ := kind.exists_item
    obtain ⟨first, rest, whole⟩ := List.exists_cons_of_ne_nil
      (List.append_ne_nil_of_right_ne_nil directory (List.cons_ne_nil name []))
    rw [whole] at stands
    obtain ⟨child, listed⟩ := @Item.exists_child _ _ entries [] rest first stands (Item.get?_nil _)
    refine ⟨(first, child), mem_of_lookup listed, ⟨rest, whole.symm⟩, kind,
      fun between start last other => ?_⟩
    refine lists between (by rintro rfl; simp at start) ?_
    exact (List.prefix_concat_iff.mp last).resolve_left other
  · rintro ⟨entry, member, ⟨more, rfl⟩, kind, entered⟩
    obtain ⟨directory, name, whole⟩ :=
      (List.eq_nil_or_concat' ([] ++ [entry.1] ++ more)).resolve_left (List.cons_ne_nil _ _)
    refine ⟨directory, name, whole, fun above filled front => ?_, kind⟩
    rw [whole] at entered
    have last := front.trans (List.prefix_append directory [name])
    refine entered above ?_ last fun same => ?_
    · obtain ⟨first, rest, rfl⟩ := List.exists_cons_of_ne_nil filled
      rw [← whole] at last
      simpa using (List.cons_prefix_cons.mp last).1.symm
    · have length := front.length_le
      rw [same, List.length_append, List.length_singleton] at length
      omega

theorem encard_met {entries : List (String × Item)} (proper : (Item.directory entries).Proper) :
    (walk.met (.directory entries) directories).encard =
      (walk.all entries).count directories := by
  have root := Item.get?_nil (.directory entries)
  rw [walk.met_eq]
  refine walk.encard_entries root proper fun entry member => ?_
  rw [walk.item_entry .nil]
  exact walk.encard_metFrom proper entry.2 (proper.get?_entry root member)

end Walk

end SourceAtlas
