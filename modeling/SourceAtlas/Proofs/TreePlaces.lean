import SourceAtlas.FileTree
import SourceAtlas.Proofs.PathNames

/-!
Places in a tree as a file system keeps it: the entries of a directory have proper names, and no two
of them the same.
-/
namespace SourceAtlas

open Text

theorem mem_of_lookup {α : Type} {entries : List (String × α)} {name : String} {item : α}
    (found : entries.lookup name = some item) : (name, item) ∈ entries := by
  obtain ⟨before, after, rfl, _⟩ := List.lookup_eq_some_iff.mp found
  exact List.mem_append_right _ List.mem_cons_self

theorem lookup_of_mem {α : Type} {entries : List (String × α)} {name : String} {item : α}
    (apart : (entries.map Prod.fst).Nodup) (member : (name, item) ∈ entries) :
    entries.lookup name = some item := by
  obtain ⟨before, after, rfl⟩ := List.append_of_mem member
  refine List.lookup_eq_some_iff.mpr ⟨before, after, rfl, fun other earlier => ?_⟩
  rw [List.map_append, List.map_cons, List.nodup_append] at apart
  have different := apart.2.2 other.1 (List.mem_map_of_mem earlier) name List.mem_cons_self
  simpa using Ne.symm different

namespace Item

/-- A tree that a file system can hold. -/
inductive Proper : Item → Prop
  | file (content : Bytes) : Proper (.file content)
  | link (target : String) : Proper (.link target)
  | directory {entries : List (String × Item)}
      (names : ∀ entry ∈ entries, ProperName entry.1) (apart : (entries.map Prod.fst).Nodup)
      (items : ∀ entry ∈ entries, entry.2.Proper) : Proper (.directory entries)

@[simp] theorem get?_nil (tree : Item) : tree.get? [] = some tree := by
  cases tree <;> rfl

theorem get?_append (tree : Item) (first second : Place) :
    tree.get? (first ++ second) = (tree.get? first).bind (·.get? second) := by
  induction first generalizing tree with
  | nil => simp
  | cons name rest ih =>
      cases tree with
      | file content => rfl
      | link target => rfl
      | directory entries =>
          simp only [List.cons_append, get?]
          cases entries.lookup name with
          | none => rfl
          | some item => exact ih item

theorem get?_snoc {tree : Item} {place : Place} {entries : List (String × Item)}
    (here : tree.get? place = some (.directory entries)) (name : String) :
    tree.get? (place ++ [name]) = entries.lookup name := by
  rw [get?_append, here]
  cases found : entries.lookup name <;> simp [get?, found]

theorem exists_entry {tree item : Item} {name : String} {rest : Place}
    (found : tree.get? (name :: rest) = some item) :
    ∃ entries child, tree = .directory entries ∧ entries.lookup name = some child ∧
      child.get? rest = some item := by
  cases tree with
  | file content => cases found
  | link target => cases found
  | directory entries =>
      obtain ⟨child, inside, below⟩ := Option.bind_eq_some_iff.mp found
      exact ⟨entries, child, rfl, inside, below⟩

theorem exists_directory_of_snoc {tree item : Item} {parent : Place} {name : String}
    (found : tree.get? (parent ++ [name]) = some item) :
    ∃ entries, tree.get? parent = some (.directory entries) ∧ entries.lookup name = some item := by
  rw [get?_append] at found
  obtain ⟨above, stands, below⟩ := Option.bind_eq_some_iff.mp found
  obtain ⟨entries, child, rfl, inside, same⟩ := exists_entry below
  rw [get?_nil] at same
  exact ⟨entries, stands, Option.some.inj same ▸ inside⟩

theorem exists_child {tree item : Item} {entries : List (String × Item)} {here rest : Place}
    {name : String} (found : tree.get? (here ++ name :: rest) = some item)
    (stands : tree.get? here = some (.directory entries)) :
    ∃ child, entries.lookup name = some child := by
  rw [get?_append, stands] at found
  obtain ⟨_, child, same, listed, _⟩ := exists_entry found
  cases same
  exact ⟨child, listed⟩

theorem Proper.single {name : String} {item : Item} (named : ProperName name)
    (proper : item.Proper) : (Item.directory [(name, item)]).Proper :=
  .directory (List.forall_mem_singleton.mpr named) (List.pairwise_singleton _ _)
    (List.forall_mem_singleton.mpr proper)

theorem Proper.of_get? {tree item : Item} {place : Place} (proper : tree.Proper)
    (found : tree.get? place = some item) : ProperNames place ∧ item.Proper := by
  induction place generalizing tree with
  | nil =>
      rw [get?_nil] at found
      exact ⟨.nil, Option.some.inj found ▸ proper⟩
  | cons name rest ih =>
      obtain ⟨entries, child, rfl, inside, below⟩ := exists_entry found
      cases proper with
      | directory names _ items =>
          have member := mem_of_lookup inside
          obtain ⟨more, whole⟩ := ih (items _ member) below
          exact ⟨more.cons (names _ member), whole⟩

theorem Proper.nodup {tree : Item} {place : Place} {entries : List (String × Item)}
    (proper : tree.Proper) (found : tree.get? place = some (.directory entries)) :
    (entries.map Prod.fst).Nodup := by
  cases (proper.of_get? found).2 with
  | directory _ apart _ => exact apart

theorem Proper.get?_entry {tree : Item} {place : Place} {entries : List (String × Item)}
    (proper : tree.Proper) (found : tree.get? place = some (.directory entries))
    {entry : String × Item} (member : entry ∈ entries) :
    tree.get? (place ++ [entry.1]) = some entry.2 := by
  rw [get?_snoc found, lookup_of_mem (proper.nodup found) member]

end Item

end SourceAtlas
