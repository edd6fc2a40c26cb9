import SourceAtlas.Store
import SourceAtlas.Proofs.TwinSites

/-!
What writing does to the files of a tree, whatever links lead where. Directories are made only where
nothing is, and a file is put only where nothing or another file is; so every way that led somewhere
leads there still, and no file changes but the one that the written path leads to.
-/
namespace SourceAtlas

open Text

namespace Item

/-- The second tree has all that the first one has, a file perhaps with another content. -/
structure Kept (a b : Item) : Prop where
  directory : ∀ {place entries}, a.get? place = some (.directory entries) →
    ∃ more, b.get? place = some (.directory more)
  link : ∀ {place target}, a.get? place = some (.link target) → b.get? place = some (.link target)
  file : ∀ {place content}, a.get? place = some (.file content) →
    ∃ other, b.get? place = some (.file other)

theorem Kept.refl (tree : Item) : Kept tree tree where
  directory found := ⟨_, found⟩
  link found := found
  file found := ⟨_, found⟩

theorem Kept.trans {a b c : Item} (first : Kept a b) (second : Kept b c) : Kept a c where
  directory found := (first.directory found).elim fun _ next => second.directory next
  link found := second.link (first.link found)
  file found := (first.file found).elim fun _ next => second.file next

def Present (tree : Item) (place : Place) : Prop := ∃ item, tree.get? place = some item

theorem Kept.present {a b : Item} {place : Place} (kept : Kept a b) (there : a.Present place) :
    b.Present place := by
  obtain ⟨item, found⟩ := there
  cases item with
  | file content => exact (kept.file found).elim fun _ still => ⟨_, still⟩
  | link target => exact ⟨_, kept.link found⟩
  | directory entries => exact (kept.directory found).elim fun _ still => ⟨_, still⟩

theorem present_of_look {a b : Item} {place : Place} (same : a.look place = b.look place)
    (there : a.Present place) : b.Present place := by
  obtain ⟨item, found⟩ := there
  unfold look at same
  rw [found] at same
  cases other : b.get? place with
  | none => simp [other] at same
  | some item => exact ⟨item, other⟩

def FilesAgree (a b : Item) (place : Place) : Prop :=
  ∀ content, a.get? place = some (.file content) ↔ b.get? place = some (.file content)

theorem filesAgree_of_look {a b : Item} {place : Place} (same : a.look place = b.look place) :
    FilesAgree a b place := by
  intro content
  rw [← look_file_iff, same, look_file_iff]

theorem directory_of_look {a b : Item} {place : Place} (same : a.look place = b.look place)
    {entries : List (String × Item)} (found : a.get? place = some (.directory entries)) :
    ∃ more, b.get? place = some (.directory more) := by
  rw [look_directory found] at same
  unfold look at same
  cases other : b.get? place with
  | none => simp [other] at same
  | some item =>
      rw [other] at same
      cases item with
      | directory more => exact ⟨more, rfl⟩
      | file _ | link _ => simp [face] at same

theorem directory_above {tree : Item} {first second : Place} {entries : List (String × Item)}
    (found : tree.get? (first ++ second) = some (.directory entries)) :
    ∃ above, tree.get? first = some (.directory above) := by
  rw [get?_append] at found
  obtain ⟨item, stands, below⟩ := Option.bind_eq_some_iff.mp found
  cases second with
  | nil =>
      rw [get?_nil] at below
      exact ⟨entries, Option.some.inj below ▸ stands⟩
  | cons name rest =>
      obtain ⟨above, _, rfl, _, _⟩ := exists_entry below
      exact ⟨above, stands⟩

section Put

variable {tree : Item} {parent : Place} {entries : List (String × Item)} {name : String}

theorem get?_entry_append (found : tree.get? parent = some (.directory entries)) (name : String)
    (rest : Place) :
    tree.get? (parent ++ [name] ++ rest) = (entries.lookup name).bind (·.get? rest) := by
  rw [get?_append, get?_snoc found]

theorem present_put (found : tree.get? parent = some (.directory entries)) {new : Item}
    (bare : ∀ next more, new.get? (next :: more) = none) {place : Place}
    (there : (tree.put (parent ++ [name]) new).Present place) :
    tree.Present place ∨ place = parent ++ [name] := by
  by_cases below : parent ++ [name] <+: place
  · obtain ⟨rest, rfl⟩ := below
    obtain ⟨item, stands⟩ := there
    rw [get?_put_below found] at stands
    cases rest with
    | nil => exact .inr (List.append_nil _)
    | cons next more => cases (bare next more).symm.trans stands
  · exact .inl (present_of_look (look_put found name new below) there)

theorem kept_put_absent (found : tree.get? parent = some (.directory entries))
    (absent : entries.lookup name = none) (new : Item) :
    Kept tree (tree.put (parent ++ [name]) new) := by
  have outside {place : Place} {item : Item} (stands : tree.get? place = some item) :
      tree.look place = (tree.put (parent ++ [name]) new).look place := by
    refine (look_put found name new ?_).symm
    rintro ⟨rest, rfl⟩
    rw [get?_entry_append found, absent] at stands
    cases stands
  exact {
    directory := fun stands => directory_of_look (outside stands) stands
    link := fun stands => link_of_look (outside stands) stands
    file := fun stands => ⟨_, (filesAgree_of_look (outside stands) _).mp stands⟩ }

theorem kept_put_file (found : tree.get? parent = some (.directory entries))
    (free : ∀ item, entries.lookup name = some item → ∃ content, item = .file content)
    (content : Bytes) : Kept tree (tree.put (parent ++ [name]) (.file content)) := by
  cases there : entries.lookup name with
  | none => exact kept_put_absent found there _
  | some item =>
      obtain ⟨old, rfl⟩ := free item there
      have outside {place : Place} {item : Item} (stands : tree.get? place = some item)
          (other : place ≠ parent ++ [name]) :
          tree.look place = (tree.put (parent ++ [name]) (.file content)).look place := by
        refine (look_put found name _ ?_).symm
        rintro ⟨rest, rfl⟩
        rw [get?_entry_append found, there] at stands
        cases rest with
        | nil => simp at other
        | cons next more => cases stands
      have before : tree.get? (parent ++ [name]) = some (.file old) :=
        (get?_snoc found name).trans there
      have now : (tree.put (parent ++ [name]) (.file content)).get? (parent ++ [name]) =
          some (.file content) := by
        have below := get?_put_below found name (.file content) []
        rwa [List.append_nil, get?_nil] at below
      have other {place : Place} {item : Item} (stands : tree.get? place = some item)
          (apart : ∀ content, item ≠ .file content) : place ≠ parent ++ [name] := by
        rintro rfl
        exact apart old (Option.some.inj (stands.symm.trans before))
      exact {
        directory := fun stands => directory_of_look (outside stands
          (other stands fun _ => Item.noConfusion)) stands
        link := fun stands => link_of_look (outside stands
          (other stands fun _ => Item.noConfusion)) stands
        file := fun {place old} stands => by
          by_cases same : place = parent ++ [name]
          · exact ⟨content, same ▸ now⟩
          · exact ⟨old, (filesAgree_of_look (outside stands same) old).mp stands⟩ }

theorem filesAgree_put_directory (found : tree.get? parent = some (.directory entries))
    (absent : entries.lookup name = none) (place : Place) :
    FilesAgree tree (tree.put (parent ++ [name]) (.directory [])) place := by
  by_cases below : parent ++ [name] <+: place
  · obtain ⟨rest, rfl⟩ := below
    intro content
    rw [get?_put_below found, get?_entry_append found, absent]
    cases rest <;> simp [get?]
  · exact filesAgree_of_look (look_put found name _ below).symm

theorem filesAgree_put_file (found : tree.get? parent = some (.directory entries))
    (free : ∀ item, entries.lookup name = some item → ∃ content, item = .file content)
    (content : Bytes) {place : Place} (other : place ≠ parent ++ [name]) :
    FilesAgree tree (tree.put (parent ++ [name]) (.file content)) place := by
  by_cases below : parent ++ [name] <+: place
  · obtain ⟨rest, rfl⟩ := below
    intro old
    obtain ⟨next, more, rfl⟩ : ∃ next more, rest = next :: more :=
      List.exists_cons_of_ne_nil fun empty => other (by rw [empty, List.append_nil])
    rw [get?_put_below found, get?_entry_append found]
    cases there : entries.lookup name with
    | none => simp [get?]
    | some item =>
        obtain ⟨old, rfl⟩ := free item there
        simp [get?]
  · exact filesAgree_of_look (look_put found name _ below).symm

end Put

end Item

section Ways

variable {tree : Item} {reach : Reach} {links : Nat} {here place : Place} {names : List String}

def Reached (tree : Item) (place : Place) : Prop :=
  (∃ entries, tree.get? place = some (.directory entries)) ∨
    ∃ parent name entries, place = parent ++ [name] ∧
      tree.get? parent = some (.directory entries) ∧
        ∀ target, entries.lookup name ≠ some (.link target)

theorem directory_dropLast {entries : List (String × Item)}
    (found : tree.get? here = some (.directory entries)) :
    ∃ above, tree.get? here.dropLast = some (.directory above) := by
  rcases List.eq_nil_or_concat here with rfl | ⟨front, last, rfl⟩
  · exact ⟨entries, found⟩
  · rw [List.concat_eq_append] at found ⊢
    rw [List.dropLast_concat]
    exact Item.directory_above found

theorem directory_top {entries : List (String × Item)}
    (found : tree.get? here = some (.directory entries)) :
    ∃ listed, tree.get? [] = some (.directory listed) := by
  rw [← List.nil_append here] at found
  exact Item.directory_above found

theorem directory_of_locate {name : String} {rest : List String}
    (located : locate tree reach links here (name :: rest) = .ok place) :
    ∃ entries, tree.get? here = some (.directory entries) := by
  rw [locate] at located
  split at located
  next entries found => exact ⟨entries, found⟩
  · cases located

theorem last_of_asked {rest : List String} {reach other : Reach}
    (asked : (rest.isEmpty && reach == other) = true) : rest = [] ∧ reach = other := by
  rw [Bool.and_eq_true, List.isEmpty_iff] at asked
  refine ⟨asked.1, ?_⟩
  cases reach <;> cases other <;> first | rfl | cases asked.2

theorem reached_of_locate (follows : reach ≠ .itself) (start : Reached tree here)
    (located : locate tree reach links here names = .ok place) : Reached tree place := by
  fun_induction locate tree reach links here names
  case case1 => exact Except.ok.inj located ▸ start
  case case2 found _ ih => exact ih (.inl (directory_dropLast found)) located
  case case3 | case5 | case7 | case10 => cases located
  case case4 here name _ entries found _ _ absent _ =>
    refine .inr ⟨here, name, entries, (Except.ok.inj located).symm, found, fun target linked => ?_⟩
    cases absent.symm.trans linked
  case case6 asked => exact absurd (last_of_asked asked).2 follows
  case case8 entries found _ _ _ _ _ _ _ ih =>
    refine ih (.inl ?_) located
    split
    · exact directory_top found
    · exact ⟨entries, found⟩
  case case9 here name rest entries found _ _ item plain inside ih =>
    refine ih (.inr ⟨here, name, entries, rfl, found, fun target linked => ?_⟩) located
    exact plain target (Option.some.inj (inside.symm.trans linked))

theorem Item.Kept.locate_file {before after : Item} (kept : Kept before after)
    (follows : reach ≠ .itself) {content : Bytes}
    (file : after.get? place = some (.file content))
    (located : locate before reach links here names = .ok place) :
    locate after .existing links here names = .ok place := by
  fun_induction locate before reach links here names
  case case1 => rw [locate, located]
  case case2 found up ih =>
    obtain ⟨more, there⟩ := kept.directory found
    rw [locate, there]
    simp only [if_pos up, ih located]
  case case3 | case5 | case7 | case10 => cases located
  case case4 here name rest entries found down short absent last =>
    obtain ⟨more, there⟩ := kept.directory found
    cases located
    rw [Item.get?_snoc there] at file
    rw [locate, there]
    simp only [if_neg down, if_neg short, file, (last_of_asked last).1, locate]
  case case6 asked => exact absurd (last_of_asked asked).2 follows
  case case8 here name rest entries found down short target inside _ links path ih =>
    obtain ⟨more, there⟩ := kept.directory found
    have linked := kept.link ((Item.get?_snoc found name).trans inside)
    rw [Item.get?_snoc there] at linked
    have other : (Reach.existing == .itself) = false := rfl
    rw [locate, there]
    simp only [if_neg down, if_neg short, linked, other, Bool.and_false, Bool.false_eq_true,
      if_false]
    exact ih located
  case case9 here name rest entries found down short item plain inside ih =>
    obtain ⟨more, there⟩ := kept.directory found
    have stood := (Item.get?_snoc found name).trans inside
    rw [locate, there]
    simp only [if_neg down, if_neg short]
    cases item with
    | link target => exact absurd rfl (plain target)
    | file old =>
        obtain ⟨new, stands⟩ := kept.file stood
        rw [Item.get?_snoc there] at stands
        simp only [stands, ih located]
    | directory listed =>
        obtain ⟨new, stands⟩ := kept.directory stood
        rw [Item.get?_snoc there] at stands
        simp only [stands, ih located]

theorem exists_itself (located : locate tree .existing links here names = .ok place) :
    ∃ other, locate tree .itself links here names = .ok other := by
  generalize reached : Reach.existing = reach at located
  fun_induction locate tree reach links here names
  case case1 => exact ⟨_, locate.eq_1 ..⟩
  case case2 found up ih =>
    rw [locate, found]
    simp only [if_pos up]
    exact ih located
  case case3 | case5 | case7 | case10 => cases located
  case case4 asked | case6 asked => cases reached.trans (last_of_asked asked).2
  case case8 found down short target inside _ links path ih =>
    rw [locate, found]
    simp only [if_neg down, if_neg short, inside]
    split
    · exact ⟨_, rfl⟩
    · exact ih located
  case case9 here name rest entries found down short item plain inside ih =>
    rw [locate, found]
    cases item with
    | link target => exact absurd rfl (plain target)
    | file _ | directory _ =>
        simp only [if_neg down, if_neg short, inside]
        exact ih located

theorem absent_of_missing {name : String}
    (above : locate tree .existing links here names = .ok place)
    (missing : locate tree .itself links here (names ++ [name]) = .error .missing) :
    ∃ entries, tree.get? place = some (.directory entries) ∧ entries.lookup name = none := by
  generalize reached : Reach.existing = reach at above
  fun_induction locate tree reach links here names
  case case1 here _ =>
    cases above
    rw [List.nil_append, locate] at missing
    split at missing
    next entries found =>
      refine ⟨entries, found, ?_⟩
      split at missing
      · rw [locate] at missing
        cases missing
      · split at missing
        · cases missing
        · cases inside : entries.lookup name with
          | none => rfl
          | some item =>
              rw [inside] at missing
              cases item with
              | link target => cases missing
              | file _ | directory _ =>
                  simp only [locate] at missing
                  cases missing
    · cases missing
  case case2 found up ih =>
    rw [List.cons_append, locate, found] at missing
    simp only [if_pos up] at missing
    exact ih missing above
  case case3 | case5 | case7 | case10 => cases above
  case case4 asked | case6 asked => cases reached.trans (last_of_asked asked).2
  case case8 rest entries found down short target inside _ links path ih =>
    have more : (rest ++ [name]).isEmpty = false := by simp
    rw [List.cons_append, locate, found] at missing
    simp only [if_neg down, if_neg short, inside, more, Bool.false_and, Bool.false_eq_true,
      if_false] at missing
    rw [← List.append_assoc] at missing
    exact ih missing above
  case case9 here _ rest entries found down short item plain inside ih =>
    rw [List.cons_append, locate, found] at missing
    cases item with
    | link target => exact absurd rfl (plain target)
    | file _ | directory _ =>
        simp only [if_neg down, if_neg short, inside] at missing
        exact ih missing above

end Ways

end SourceAtlas
