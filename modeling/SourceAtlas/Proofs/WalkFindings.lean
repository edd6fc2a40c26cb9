import SourceAtlas.Walk

/-!
What a walk finds in a directory is what it finds at the entries, in the order of their names. Each
list among the findings is put together in the same way, so one law serves them all. The directories
that are entered nest no deeper than the tree.
-/
namespace SourceAtlas

theorem Item.induction {motive : Item → Prop} (file : ∀ content, motive (.file content))
    (link : ∀ target, motive (.link target))
    (directory : ∀ entries, (∀ entry ∈ entries, motive entry.2) → motive (.directory entries))
    (item : Item) : motive item :=
  @Item.rec motive (fun entries => ∀ entry ∈ entries, motive entry.2) (fun entry => motive entry.2)
    file link directory (fun _ member => absurd member List.not_mem_nil)
    (fun _ _ first rest entry member => by
      rcases List.mem_cons.mp member with rfl | later
      · exact first
      · exact rest entry later)
    (fun _ _ second => second) item

namespace Findings

/-- A list among the findings, for which those of two directories are put together. -/
structure Part {α : Type} (part : Findings → List α) : Prop where
  empty : part {} = []
  append : ∀ a b, part (a ++ b) = part a ++ part b

theorem part_work : Part Findings.work := ⟨rfl, fun _ _ => rfl⟩

theorem part_others : Part Findings.others := ⟨rfl, fun _ _ => rfl⟩

variable {α : Type} {part : Findings → List α}

theorem Part.foldl (law : Part part) (found : List (String × Findings)) (all : Findings) :
    part (found.foldl (fun all (_, one) => all ++ one) all) =
      part all ++ found.flatMap fun one => part one.2 := by
  induction found generalizing all with
  | nil => simp
  | cons one rest ih => rw [List.foldl_cons, ih, law.append, List.flatMap_cons, List.append_assoc]

theorem Part.gather (law : Part part) (found : List (String × Findings)) :
    part (Findings.gather found) =
      (found.mergeSort fun a b => Text.precedes a.1 b.1).flatMap fun one => part one.2 := by
  rw [Findings.gather, law.foldl, law.empty, List.nil_append]

theorem Part.mem_gather (law : Part part) {found : List (String × Findings)} {a : α} :
    a ∈ part (Findings.gather found) ↔ ∃ one ∈ found, a ∈ part one.2 := by
  simp only [law.gather, List.mem_flatMap, List.mem_mergeSort]

end Findings

namespace Walk
open Findings

variable (walk : Walk)

theorem entries_eq_map (directory : String) (depth : Nat) (entries : List (String × Item)) :
    walk.entries directory depth entries = entries.map fun entry =>
      (entry.1, walk.item entry.1 (childPath directory entry.1) depth entry.2) := by
  induction entries with
  | nil => rfl
  | cons entry rest ih => rw [Walk.entries, ih, List.map_cons, Walk.entry]

theorem mem_gather_entries {α : Type} {part : Findings → List α} (law : Part part)
    {directory : String} {depth : Nat} {entries : List (String × Item)} {a : α} :
    a ∈ part (gather (walk.entries directory depth entries)) ↔ ∃ entry ∈ entries,
      a ∈ part (walk.item entry.1 (childPath directory entry.1) depth entry.2) := by
  rw [law.mem_gather, entries_eq_map]
  constructor
  · rintro ⟨_, listed, inside⟩
    obtain ⟨entry, member, rfl⟩ := List.mem_map.mp listed
    exact ⟨entry, member, inside⟩
  · rintro ⟨entry, member, inside⟩
    exact ⟨_, List.mem_map_of_mem member, inside⟩

theorem depth_of_mem_item (content : Item) {name path : String} {depth : Nat} {item : WorkItem}
    (member : item ∈ (walk.item name path depth content).work) :
    item.depth = slashes item.path := by
  have ofFile {name path : String} (member : item ∈ (walk.fileFindings name path).work) :
      item.depth = slashes item.path := by
    unfold fileFindings at member
    split at member
    · cases member
    · split at member
      · rw [List.mem_singleton.mp member]
      · cases member
  induction content using Item.induction generalizing name path depth with
  | file content => exact ofFile member
  | link target =>
      unfold Walk.item at member
      split at member
      · exact ofFile member
      · cases member
  | directory entries ih =>
      unfold Walk.item at member
      split at member
      · cases member
      · split at member
        · cases member
        · obtain ⟨entry, inside, below⟩ := (walk.mem_gather_entries part_work).mp member
          exact ih entry inside below

theorem depth_of_mem_all {entries : List (String × Item)} {item : WorkItem}
    (member : item ∈ (walk.all entries).work) : item.depth = slashes item.path := by
  obtain ⟨entry, _, below⟩ := (walk.mem_gather_entries part_work).mp member
  exact walk.depth_of_mem_item entry.2 below

end Walk

mutual

def Item.height : Item → Nat
  | .directory entries => Item.heightAll entries + 1
  | _ => 0

def Item.heightAll : List (String × Item) → Nat
  | [] => 0
  | entry :: rest => max (Item.heightIn entry) (Item.heightAll rest)

def Item.heightIn : String × Item → Nat
  | (_, item) => item.height

end

theorem Item.height_le_of_mem {entries : List (String × Item)} {entry : String × Item}
    (member : entry ∈ entries) : entry.2.height ≤ Item.heightAll entries := by
  induction entries with
  | nil => cases member
  | cons first rest ih =>
      rw [Item.heightAll]
      rcases List.mem_cons.mp member with rfl | later
      · obtain ⟨name, item⟩ := entry
        rw [Item.heightIn]
        exact Nat.le_max_left _ _
      · exact Nat.le_trans (ih later) (Nat.le_max_right _ _)

namespace Walk
open Findings

variable (walk : Walk)

theorem levels_gather_le {found : List (String × Findings)} {most : Nat}
    (each : ∀ one ∈ found, one.2.levels ≤ most) : (gather found).levels ≤ most := by
  have fold (all : Findings) (start : all.levels ≤ most) (rest : List (String × Findings))
      (below : ∀ one ∈ rest, one.2.levels ≤ most) :
      (rest.foldl (fun all (_, one) => all ++ one) all).levels ≤ most := by
    induction rest generalizing all with
    | nil => exact start
    | cons one rest ih =>
        rw [List.forall_mem_cons] at below
        exact ih _ (Nat.max_le.mpr ⟨start, below.1⟩) below.2
  exact fold _ (Nat.zero_le most) _ fun one member => each one (List.mem_mergeSort.mp member)

theorem levels_fileFindings (name path : String) : (walk.fileFindings name path).levels = 0 := by
  unfold fileFindings
  split
  · rfl
  · split <;> rfl

theorem levels_entries_le {directory : String} {depth : Nat} {entries : List (String × Item)}
    (items : ∀ entry ∈ entries,
      (walk.item entry.1 (childPath directory entry.1) depth entry.2).levels ≤ entry.2.height) :
    (gather (walk.entries directory depth entries)).levels ≤ Item.heightAll entries := by
  refine levels_gather_le ?_
  rw [walk.entries_eq_map]
  exact List.forall_mem_map.mpr fun entry member =>
    Nat.le_trans (items entry member) (Item.height_le_of_mem member)

theorem levels_item_le (content : Item) {name path : String} {depth : Nat} :
    (walk.item name path depth content).levels ≤ content.height := by
  induction content using Item.induction generalizing name path depth with
  | file content => exact Nat.le_of_eq (walk.levels_fileFindings name path)
  | link target =>
      rw [Walk.item]
      split
      · exact Nat.le_of_eq (walk.levels_fileFindings name path)
      · exact Nat.zero_le _
  | directory entries ih =>
      rw [Walk.item, Item.height]
      split
      · exact Nat.zero_le _
      · split
        · exact Nat.succ_le_succ (Nat.zero_le _)
        · exact Nat.succ_le_succ (walk.levels_entries_le fun entry member => ih entry member)

theorem levels_all_le (entries : List (String × Item)) :
    (walk.all entries).levels ≤ Item.heightAll entries :=
  walk.levels_entries_le fun entry _ => walk.levels_item_le entry.2

end Walk

end SourceAtlas
