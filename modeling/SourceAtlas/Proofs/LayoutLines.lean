import Mathlib.Data.List.Forall2
import SourceAtlas.Proofs.ArrivalOrder

/-!
The layout of a tree accounts for its directories and files. It goes through the directories down to
the last level that is shown, each of them once, a directory before those in it and these by their
names; and whatever it does not list of the files of a directory it counts.
-/
namespace SourceAtlas

open Text

namespace DirNode

inductive Leads : DirNode → List String → DirNode → Prop
  | here (node : DirNode) : Leads node [] node
  | down {node child below : DirNode} {way : List String} (listed : child ∈ node.children)
      (on : Leads child way below) : Leads node (child.name :: way) below

theorem leads_iff {node below : DirNode} {way : List String} :
    node.Leads way below ↔ (way = [] ∧ below = node) ∨
      ∃ child ∈ node.children, ∃ rest, way = child.name :: rest ∧ child.Leads rest below := by
  constructor
  · rintro (_ | ⟨listed, on⟩)
    · exact .inl ⟨rfl, rfl⟩
    · exact .inr ⟨_, listed, _, rfl, on⟩
  · rintro (⟨rfl, rfl⟩ | ⟨child, listed, rest, rfl, on⟩)
    · exact .here _
    · exact .down listed on

/-- The nodes of a tree down to a depth, each of them once with the names that lead to it. The order
is that of the names: a node stands before those below it, and siblings stand by their names. -/
structure Preorder (tree : DirNode) (depth : Nat) (nodes : List (List String × DirNode)) :
    Prop where
  each : ∀ way node, (way, node) ∈ nodes ↔ tree.Leads way node ∧ way.length ≤ depth
  ordered : (nodes.map Prod.fst).Pairwise (· < ·)

def levelled : Nat → DirNode → List (List String × DirNode)
  | 0, _ => []
  | levels + 1, node => ([], node) :: (Section.sortedChildren node.children).flatMap fun child =>
      (levelled levels child).map fun below => (child.name :: below.1, below.2)

theorem mem_sortedChildren {child : DirNode} {children : List DirNode} :
    child ∈ Section.sortedChildren children ↔ child ∈ children :=
  List.mem_mergeSort

theorem mem_levelled (levels : Nat) (node below : DirNode) (way : List String) :
    (way, below) ∈ levelled levels node ↔ node.Leads way below ∧ way.length < levels := by
  induction levels generalizing node below way with
  | zero => simp [levelled]
  | succ levels ih =>
      rw [leads_iff, levelled, List.mem_cons, List.mem_flatMap, Prod.mk.injEq]
      simp only [mem_sortedChildren, List.mem_map, Prod.exists, ih, Prod.mk.injEq]
      constructor
      · rintro (⟨rfl, rfl⟩ | ⟨child, listed, rest, found, ⟨on, short⟩, rfl, rfl⟩)
        · exact ⟨.inl ⟨rfl, rfl⟩, Nat.zero_lt_succ levels⟩
        · exact ⟨.inr ⟨child, listed, rest, rfl, on⟩, Nat.succ_lt_succ short⟩
      · rintro ⟨⟨rfl, rfl⟩ | ⟨child, listed, rest, rfl, on⟩, short⟩
        · exact .inl ⟨rfl, rfl⟩
        · exact .inr ⟨child, listed, rest, below, ⟨on, Nat.lt_of_succ_lt_succ short⟩, rfl, rfl⟩

theorem levelled_ordered {node : DirNode} (apart : node.Apart) (levels : Nat) :
    ((levelled levels node).map Prod.fst).Pairwise (· < ·) := by
  induction levels generalizing node with
  | zero => exact List.Pairwise.nil
  | succ levels ih =>
      cases apart with
      | node names below =>
          rw [levelled, List.map_cons, List.map_flatMap, List.pairwise_cons, List.pairwise_flatMap]
          have siblings := pairwise_lt_mergeSort DirNode.name names
          rw [List.pairwise_map] at siblings
          have under {child : DirNode} {way : List String}
              (member : way ∈ ((levelled levels child).map fun below =>
                (child.name :: below.1, below.2)).map Prod.fst) :
    ∃ rest, way = child.name :: rest := by
            simp only [List.map_map, List.mem_map] at member
            obtain ⟨entry, _, rfl⟩ := member
            exact ⟨entry.1, rfl⟩
          refine ⟨fun way inside => ?_, fun child listed => ?_, siblings.imp ?_⟩
          · obtain ⟨child, _, member⟩ := List.mem_flatMap.mp inside
            obtain ⟨rest, rfl⟩ := under member
            exact List.nil_lt_cons _ _
          · have inner := List.pairwise_map.mp (ih (below child (mem_sortedChildren.mp listed)))
            rw [List.map_map, List.pairwise_map]
            exact inner.imp fun before => List.cons_lt_cons_iff.mpr (.inr ⟨rfl, before⟩)
          · intro _ _ before first one second other
            obtain ⟨rest, rfl⟩ := under one
            obtain ⟨more, rfl⟩ := under other
            exact List.cons_lt_cons_iff.mpr (.inl before)

theorem preorder_levelled {tree : DirNode} (apart : tree.Apart) (depth : Nat) :
    Preorder tree depth (levelled (depth + 1) tree) where
  each way node := by rw [mem_levelled, Nat.lt_succ_iff]
  ordered := levelled_ordered apart (depth + 1)

end DirNode

namespace Section

def margin (depth : Nat) : String := .ofList (List.replicate (2 * depth) ' ')

theorem margin_succ (depth : Nat) : margin depth ++ "  " = margin (depth + 1) := by
  refine String.toList_inj.mp ?_
  simp only [String.toList_append, margin, String.toList_ofList, Nat.mul_succ,
    List.replicate_add]
  rfl

/-- How the lines of the files of a directory account for them: some are shown and the others, if
there are any, counted in one line more. The names are in order, and all are shown up to twelve of
them; of more than that eleven. -/
structure AccountsFor (depth : Nat) (files shown hidden lines : List String) : Prop where
  whole : (shown ++ hidden).Perm files
  sorted : (shown ++ hidden).Pairwise (· ≤ ·)
  counted : shown.length + hidden.length = files.length
  few : files.length ≤ 12 → hidden = []
  many : 12 < files.length → shown.length = 11 ∧ hidden.length = files.length - 11
  written : lines = shown.map (margin (depth + 1) ++ ·) ++
    if hidden = [] then []
    else [margin (depth + 1) ++ s!"... and {hidden.length} more files"]

theorem accountsFor_fileLines (depth : Nat) (files : List String) :
    ∃ shown hidden, AccountsFor depth files shown hidden (fileLines (margin depth) files) := by
  have perm := sortTexts_perm files
  have length := perm.length_eq
  have sorted := sortTexts_sorted files
  by_cases many : 12 < files.length
  · have shown : ((sortTexts files).take 11).length = 11 := by
      rw [List.length_take]
      omega
    have hidden : ((sortTexts files).drop 11).length = files.length - 11 := by
      rw [List.length_drop, length]
    refine ⟨(sortTexts files).take 11, (sortTexts files).drop 11, ?_, ?_, ?_, ?_, ?_, ?_⟩
    · rwa [List.take_append_drop]
    · rwa [List.take_append_drop]
    · omega
    · omega
    · exact fun _ => ⟨shown, hidden⟩
    · have some : (sortTexts files).drop 11 ≠ [] := List.ne_nil_of_length_pos (by omega)
      have beyond : (sortTexts files).length > maxFiles := by rwa [length]
      rw [fileLines, if_pos beyond, if_neg some, margin_succ, hidden, length]
      rfl
  · refine ⟨sortTexts files, [], ?_, ?_, ?_, fun _ => rfl, fun more => absurd more many, ?_⟩
    · rwa [List.append_nil]
    · rwa [List.append_nil]
    · exact length
    · have within : ¬(sortTexts files).length > maxFiles := by rwa [length]
      rw [fileLines, if_neg within, if_pos rfl, margin_succ, List.append_nil]

inductive Tells : Bool → List String × DirNode → List String → Prop
  | names {way : List String} {node : DirNode} {shown hidden lines : List String}
      (account : AccountsFor way.length node.files shown hidden lines) :
      Tells true (way, node) ((margin way.length ++ node.name ++ "/") :: lines)
  | number {way : List String} {node : DirNode} :
      Tells false (way, node) [margin way.length ++ node.name ++ "/" ++
        if node.files = [] then "" else s!" ({node.files.length} files)"]

theorem tells_ownLines (withFiles : Bool) (way : List String) (node : DirNode) :
    Tells withFiles (way, node) (ownLines withFiles (margin way.length) node.name node.files) := by
  cases withFiles with
  | true =>
      obtain ⟨shown, hidden, account⟩ := accountsFor_fileLines way.length node.files
      exact .names account
  | false =>
      have line : ownLines false (margin way.length) node.name node.files =
          [margin way.length ++ node.name ++ "/" ++
            if node.files = [] then "" else s!" ({node.files.length} files)"] := by
        simp [ownLines, List.isEmpty_iff]
      rw [line]
      exact .number

theorem treeLines_eq_flatMap (withFiles : Bool) (levels depth : Nat) (node : DirNode) :
    treeLines withFiles levels (margin depth) node =
      (DirNode.levelled levels node).flatMap fun below =>
        ownLines withFiles (margin (depth + below.1.length)) below.2.name below.2.files := by
  induction levels generalizing depth node with
  | zero => rfl
  | succ levels ih =>
      cases node with
      | mk name path level files children =>
          rw [treeLines_mk, DirNode.levelled, List.flatMap_cons, List.flatMap_assoc, margin_succ]
          refine congrArg (_ ++ ·) (List.flatMap_congr fun child _ => ?_)
          rw [ih, List.flatMap_map]
          refine List.flatMap_congr fun below _ => ?_
          rw [List.length_cons, Nat.add_right_comm, Nat.add_assoc]

/-- The layout has the lines of every node of the first four levels, one node after the other in
their order, and no others; and it is the same however the files and directories come. -/
theorem layout_accounts {tree : DirNode} (apart : tree.Apart) (withFiles : Bool) :
    (∃ nodes parts, tree.Preorder 3 nodes ∧ List.Forall₂ (Tells withFiles) nodes parts ∧
      layout withFiles tree =
        ["## Repository Layout", "", "```"] ++ parts.flatten ++ ["```", ""]) ∧
    ∀ other, tree.Reordered other → layout withFiles other = layout withFiles tree := by
  refine ⟨⟨_, (DirNode.levelled 4 tree).map fun below =>
    ownLines withFiles (margin below.1.length) below.2.name below.2.files,
    DirNode.preorder_levelled apart 3, ?_, ?_⟩, fun other reordered => ?_⟩
  · rw [List.forall₂_map_right_iff, List.forall₂_same]
    exact fun below _ => tells_ownLines withFiles below.1 below.2
  · have lines := treeLines_eq_flatMap withFiles 4 0 tree
    simp only [Nat.zero_add] at lines
    rw [← List.flatMap_def, ← lines]
    rfl
  · unfold layout
    rw [treeLines_eq reordered apart]

def quayTree : DirNode :=
  .mk "." "" 0 ["go.mod"] [
    .mk "quay" "quay" 1 ["m", "l", "k", "j", "i", "h", "g", "f", "e", "d", "c", "b", "a"] [
      .mk "shed" "quay/shed" 2 [] [
        .mk "loft" "quay/shed/loft" 3 ["x"] [.mk "nook" "quay/shed/loft/nook" 4 ["y"] []]]],
    .mk "dock" "dock" 1 ["z", "w"] []]

example : layout false quayTree =
    ["## Repository Layout", "", "```", "./ (1 files)", "  dock/ (2 files)", "  quay/ (13 files)",
      "    shed/", "      loft/ (1 files)", "```", ""] := by
  cbv

theorem quayTree_apart : quayTree.Apart := by
  have single (name path : String) (depth : Nat) (files : List String) {child : DirNode}
      (below : child.Apart) : (DirNode.mk name path depth files [child]).Apart :=
    .node (List.nodup_singleton _) fun _ member => List.mem_singleton.mp member ▸ below
  have leaf (name path : String) (depth : Nat) (files : List String) :
      (DirNode.mk name path depth files []).Apart :=
    .node List.nodup_nil fun _ member => absurd member List.not_mem_nil
  refine .node (by decide) ?_
  rw [List.forall_mem_cons, List.forall_mem_singleton]
  exact ⟨single _ _ _ _ (single _ _ _ _ (single _ _ _ _ (leaf _ _ _ _))), leaf _ _ _ _⟩

theorem quayTree_accounts :
    quayTree.Apart ∧
      (∃ nodes parts, quayTree.Preorder 3 nodes ∧ List.Forall₂ (Tells true) nodes parts ∧
        layout true quayTree =
          ["## Repository Layout", "", "```"] ++ parts.flatten ++ ["```", ""] ∧
        ∀ node, (["quay", "shed", "loft", "nook"], node) ∉ nodes) ∧
      layout true (.mk "." "" 0 ["go.mod"] quayTree.children.reverse) = layout true quayTree := by
  obtain ⟨⟨nodes, parts, order, told, lines⟩, reordered⟩ := layout_accounts quayTree_apart true
  refine ⟨quayTree_apart, ⟨nodes, parts, order, told, lines, fun node listed => ?_⟩,
    reordered _ (.children (List.reverse_perm _).symm)⟩
  exact absurd ((order.each _ _).mp listed).2 (by decide)

end Section

end SourceAtlas
