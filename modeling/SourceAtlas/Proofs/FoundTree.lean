import SourceAtlas.Proofs.TextOrder
import SourceAtlas.Proofs.WalkSelection
import Mathlib.Data.List.Flatten

/-!
The tree that a walk finds. A directory has a node where a file to be read lies somewhere below it,
so the tree holds the paths of these files and no others. Names are in order at every node, and a
child goes on from its parent by one name.
-/
namespace SourceAtlas

open Text

namespace DirNode

inductive Within (top : DirNode) : DirNode → Prop
  | top : Within top top
  | child {node child : DirNode} (inside : Within top node) (listed : child ∈ node.children) :
      Within top child

def Holds (tree : DirNode) (path : String) : Prop :=
  ∃ node, tree.Within node ∧ ∃ name ∈ node.files, path = Walk.childPath node.path name

/-- A node with its files and its children in the order of their names, as deep as the paths of its
files have slashes. Each child is one deeper, adds its name to the path, and has a file somewhere
below it. -/
structure Orderly (node : DirNode) : Prop where
  files : node.files.Pairwise (· < ·)
  siblings : (node.children.map name).Pairwise (· < ·)
  deeper : ∀ child ∈ node.children, child.depth = node.depth + 1
  longer : ∀ child ∈ node.children, child.path = Walk.childPath node.path child.name
  filled : ∀ child ∈ node.children, ∃ path, child.Holds path
  level : ∀ name ∈ node.files, Walk.slashes (Walk.childPath node.path name) = node.depth

theorem within_iff {tree node : DirNode} :
    tree.Within node ↔ node = tree ∨ ∃ child ∈ tree.children, child.Within node := by
  constructor
  · intro inside
    induction inside with
    | top => exact .inl rfl
    | @child above below inside listed ih =>
        rcases ih with rfl | ⟨first, start, under⟩
        · exact .inr ⟨below, listed, .top⟩
        · exact .inr ⟨first, start, .child under listed⟩
  · rintro (rfl | ⟨first, start, under⟩)
    · exact .top
    · induction under with
      | top => exact .child .top start
      | child _ listed ih => exact .child ih listed

theorem holds_iff {tree : DirNode} {path : String} :
    tree.Holds path ↔ (∃ name ∈ tree.files, path = Walk.childPath tree.path name) ∨
      ∃ child ∈ tree.children, child.Holds path := by
  simp only [Holds, @within_iff tree, or_and_right, exists_or, exists_eq_left]
  refine or_congr_right ⟨?_, ?_⟩
  · rintro ⟨node, ⟨child, listed, inside⟩, given⟩
    exact ⟨child, listed, node, inside, given⟩
  · rintro ⟨child, listed, node, inside, given⟩
    exact ⟨node, ⟨child, listed, inside⟩, given⟩

end DirNode

namespace Findings

theorem part_files : Part files := ⟨rfl, fun _ _ => rfl⟩

theorem part_children : Part children := ⟨rfl, fun _ _ => rfl⟩

def node (found : Findings) (name path : String) (depth : Nat) : DirNode :=
  .mk name path depth found.files found.children

def Holds (found : Findings) (directory path : String) : Prop :=
  (∃ name ∈ found.files, path = Walk.childPath directory name) ∨
    ∃ child ∈ found.children, child.Holds path

variable {found : Findings} {name path : String} {depth : Nat}

theorem holds_node {held : String} :
    (found.node name path depth).Holds held ↔ found.Holds path held := DirNode.holds_iff

theorem mem_children_asEntry {child : DirNode} :
    child ∈ (found.asEntry name path depth).children ↔
      child = found.node name path depth ∧ (found.files ≠ [] ∨ found.children ≠ []) := by
  unfold asEntry
  dsimp only
  split
  next empty => simpa using fun _ => by simpa using empty
  next filled =>
    rw [List.mem_singleton]
    refine (and_iff_left ?_).symm
    rw [← not_and_or]
    simpa using filled

theorem holds_asEntry {directory held : String} :
    (found.asEntry name path depth).Holds directory held ↔ found.Holds path held := by
  have left : (∃ child ∈ (found.asEntry name path depth).children, child.Holds held) ↔
      found.Holds path held := by
    simp only [mem_children_asEntry, and_assoc, exists_eq_left, holds_node, and_iff_right_iff_imp]
    rintro (⟨file, listed, _⟩ | ⟨child, listed, _⟩)
    · exact .inl (List.ne_nil_of_mem listed)
    · exact .inr (List.ne_nil_of_mem listed)
  rw [Holds, left]
  exact or_iff_right fun ⟨_, listed, _⟩ => absurd listed List.not_mem_nil

theorem Part.pairwise_gather {α : Type} {part : Findings → List α} (law : Part part)
    (key : α → String) {given : List (String × Findings)} (apart : (given.map Prod.fst).Nodup)
    (single : ∀ one ∈ given, ((part one.2).map key).Sublist [one.1]) :
    ((part (Findings.gather given)).map key).Pairwise (· < ·) := by
  rw [law.gather, List.map_flatMap]
  refine List.Pairwise.sublist ?_ (pairwise_lt_mergeSort Prod.fst apart)
  rw [List.map_eq_flatMap]
  exact .flatMap_right _ fun one member => single one (List.mem_mergeSort.mp member)

/-- What an entry of a directory adds to the node above it: a file or a child of its name, or
nothing. -/
structure Adds (found : Findings) (name path : String) (depth : Nat) : Prop where
  files : found.files.Sublist [name]
  siblings : (found.children.map DirNode.name).Sublist [name]
  deeper : ∀ child ∈ found.children, child.depth = depth
  longer : ∀ child ∈ found.children, child.path = path
  filled : ∀ child ∈ found.children, ∃ held, child.Holds held
  below : ∀ child ∈ found.children, ∀ node, child.Within node → node.Orderly

theorem Adds.of_childless (files : found.files.Sublist [name]) (childless : found.children = []) :
    found.Adds name path depth := by
  have none (child : DirNode) : child ∉ found.children := by simp [childless]
  exact ⟨files, by simp [childless], fun child listed => absurd listed (none child),
    fun child listed => absurd listed (none child), fun child listed => absurd listed (none child),
    fun child listed => absurd listed (none child)⟩

theorem Adds.asEntry
    (below : ∀ node, (found.node name path depth).Within node → node.Orderly) :
    (found.asEntry name path depth).Adds name path depth where
  files := List.nil_sublist _
  siblings := by
    unfold Findings.asEntry
    dsimp only
    split
    · exact List.nil_sublist _
    · exact List.Sublist.refl _
  deeper child listed := by rw [(mem_children_asEntry.mp listed).1]; rfl
  longer child listed := by rw [(mem_children_asEntry.mp listed).1]; rfl
  filled child listed := by
    obtain ⟨rfl, some⟩ := mem_children_asEntry.mp listed
    rcases some with filled | filled
    · obtain ⟨file, member⟩ := List.exists_mem_of_ne_nil _ filled
      exact ⟨_, DirNode.holds_iff.mpr (.inl ⟨file, member, rfl⟩)⟩
    · obtain ⟨next, member⟩ := List.exists_mem_of_ne_nil _ filled
      obtain ⟨held, holds⟩ := (below _ .top).filled next member
      exact ⟨held, DirNode.holds_iff.mpr (.inr ⟨next, member, holds⟩)⟩
  below child listed := by
    obtain ⟨rfl, _⟩ := mem_children_asEntry.mp listed
    exact below

end Findings

namespace Walk
open Findings

variable (walk : Walk)

theorem holds_fileFindings {name directory held : String} :
    (walk.fileFindings name (childPath directory name)).Holds directory held ↔
      held ∈ (walk.fileFindings name (childPath directory name)).paths true := by
  unfold fileFindings
  split
  · simp [Findings.Holds, paths]
  · split <;> simp [Findings.Holds, paths]

theorem holds_gather {directory held : String} {depth : Nat} {entries : List (String × Item)}
    (items : ∀ entry ∈ entries,
      (walk.item entry.1 (childPath directory entry.1) depth entry.2).Holds directory held ↔
        held ∈ (walk.item entry.1 (childPath directory entry.1) depth entry.2).paths true) :
    (gather (walk.entries directory depth entries)).Holds directory held ↔
      held ∈ (gather (walk.entries directory depth entries)).paths true := by
  rw [walk.mem_gather_entries (part_paths true), Findings.Holds]
  simp only [walk.mem_gather_entries part_files, walk.mem_gather_entries part_children]
  constructor
  · rintro (⟨file, ⟨entry, member, listed⟩, rfl⟩ | ⟨child, ⟨entry, member, listed⟩, holds⟩)
    · exact ⟨entry, member, (items entry member).mp (.inl ⟨file, listed, rfl⟩)⟩
    · exact ⟨entry, member, (items entry member).mp (.inr ⟨child, listed, holds⟩)⟩
  · rintro ⟨entry, member, inside⟩
    rcases (items entry member).mpr inside with ⟨file, listed, rfl⟩ | ⟨child, listed, holds⟩
    · exact .inl ⟨file, ⟨entry, member, listed⟩, rfl⟩
    · exact .inr ⟨child, ⟨entry, member, listed⟩, holds⟩

theorem holds_item (content : Item) {name directory held : String} {depth : Nat} :
    (walk.item name (childPath directory name) depth content).Holds directory held ↔
      held ∈ (walk.item name (childPath directory name) depth content).paths true := by
  induction content using Item.induction generalizing name directory depth with
  | file content => exact walk.holds_fileFindings
  | link target =>
      rw [Walk.item]
      split
      · exact walk.holds_fileFindings
      · simp [Findings.Holds, paths]
  | directory entries ih =>
      rw [Walk.item]
      split
      · simp [Findings.Holds, paths]
      · split
        · rw [holds_asEntry, paths_asEntry]
          simp [Findings.Holds, paths]
        · rw [holds_asEntry, paths_asEntry]
          exact walk.holds_gather fun entry member => ih entry member

theorem holds_all (entries : List (String × Item)) (held : String) :
    ((walk.all entries).node "." "" 0).Holds held ↔ held ∈ (walk.all entries).paths true := by
  rw [holds_node]
  exact walk.holds_gather fun entry _ => walk.holds_item entry.2

theorem filter_slash {name : String} (named : '/' ∉ name.toList) :
    name.toList.filter (· == '/') = [] := by
  rw [List.filter_eq_nil_iff]
  intro c member slash
  exact named (beq_iff_eq.mp slash ▸ member)

theorem slashes_of_free {name : String} (named : '/' ∉ name.toList) : slashes name = 0 := by
  rw [slashes, filter_slash named, List.length_nil]

theorem slashes_childPath {name directory : String} (named : '/' ∉ name.toList)
    (filled : directory ≠ "") : slashes (childPath directory name) = slashes directory + 1 := by
  rw [childPath, if_neg (by simpa using filled)]
  simp [slashes, filter_slash named]

theorem adds_fileFindings {name path : String} {depth : Nat} :
    (walk.fileFindings name path).Adds name path depth := by
  unfold fileFindings
  split
  · exact .of_childless (List.nil_sublist _) rfl
  · split
    · exact .of_childless (List.Sublist.refl _) rfl
    · exact .of_childless (List.nil_sublist _) rfl

theorem orderly_gather {top directory : String} {depth : Nat} {entries : List (String × Item)}
    (proper : (Item.directory entries).Proper)
    (level : ∀ name, '/' ∉ name.toList → slashes (childPath directory name) = depth)
    (items : ∀ entry ∈ entries,
      (walk.item entry.1 (childPath directory entry.1) (depth + 1) entry.2).Adds entry.1
        (childPath directory entry.1) (depth + 1)) :
    ∀ node, ((gather (walk.entries directory (depth + 1) entries)).node top directory
      depth).Within node → node.Orderly := by
  have apart : ((walk.entries directory (depth + 1) entries).map Prod.fst).Nodup := by
    rw [walk.entries_eq_map, List.map_map]
    exact proper.nodup (Item.get?_nil _)
  have each {property : String × Findings → Prop}
      (holds : ∀ entry ∈ entries, property
        (entry.1, walk.item entry.1 (childPath directory entry.1) (depth + 1) entry.2)) :
      ∀ one ∈ walk.entries directory (depth + 1) entries, property one := by
    rw [walk.entries_eq_map]
    exact List.forall_mem_map.mpr holds
  intro node inside
  rcases DirNode.within_iff.mp inside with rfl | ⟨child, listed, below⟩
  · constructor
    · have sorted := part_files.pairwise_gather id apart
        (each fun entry member => by simpa using (items entry member).files)
      rwa [List.map_id] at sorted
    · exact part_children.pairwise_gather DirNode.name apart
        (each fun entry member => (items entry member).siblings)
    · intro child listed
      obtain ⟨entry, member, inside⟩ := (walk.mem_gather_entries part_children).mp listed
      exact (items entry member).deeper child inside
    · intro child listed
      obtain ⟨entry, member, inside⟩ := (walk.mem_gather_entries part_children).mp listed
      have named := (items entry member).siblings.subset (List.mem_map_of_mem inside)
      rw [(items entry member).longer child inside, List.mem_singleton.mp named]
      rfl
    · intro child listed
      obtain ⟨entry, member, inside⟩ := (walk.mem_gather_entries part_children).mp listed
      exact (items entry member).filled child inside
    · intro name listed
      obtain ⟨entry, member, inside⟩ := (walk.mem_gather_entries part_files).mp listed
      obtain rfl := List.mem_singleton.mp ((items entry member).files.subset inside)
      cases proper with
      | directory names _ _ => exact level _ (names entry member).whole
  · obtain ⟨entry, member, inside⟩ := (walk.mem_gather_entries part_children).mp listed
    exact (items entry member).below child inside node below

theorem adds_item (content : Item) (proper : content.Proper) {name path : String}
    (filled : path ≠ "") :
    (walk.item name path (slashes path + 1) content).Adds name path (slashes path + 1) := by
  induction content using Item.induction generalizing name path with
  | file content => exact walk.adds_fileFindings
  | link target =>
      rw [Walk.item]
      split
      · exact walk.adds_fileFindings
      · exact .of_childless (List.nil_sublist _) rfl
  | directory entries ih =>
      rw [Walk.item]
      split
      · exact .of_childless (List.nil_sublist _) rfl
      · split
        · exact .of_childless (List.nil_sublist _) rfl
        · refine .asEntry (walk.orderly_gather proper (fun name free => ?_) fun entry member => ?_)
          · exact slashes_childPath free filled
          · cases proper with
            | directory names _ items =>
                have deep := slashes_childPath (names entry member).whole filled
                have below := @ih entry member (items entry member) entry.1
                  (childPath path entry.1) ?_
                · rwa [deep] at below
                · rw [childPath, if_neg (by simpa using filled)]
                  simp

theorem orderly_all {entries : List (String × Item)} (proper : (Item.directory entries).Proper) :
    ∀ node, ((walk.all entries).node "." "" 0).Within node → node.Orderly := by
  refine walk.orderly_gather proper (fun name free => slashes_of_free free) fun entry member => ?_
  cases proper with
  | directory names _ items =>
      have named := names entry member
      have below := @adds_item walk entry.2 (items entry member) entry.1 entry.1 named.filled
      rwa [slashes_of_free named.whole] at below

end Walk

end SourceAtlas
