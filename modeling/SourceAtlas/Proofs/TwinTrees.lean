import SourceAtlas.Site
import SourceAtlas.Proofs.TreeChanges

/-!
Two trees that look the same but at one place. As long as no link names the place, who looks for
something else by its names finds the same in both.
-/
namespace SourceAtlas

open Text

theorem Item.look_directory {tree : Item} {here : Place} {entries : List (String × Item)}
    (found : tree.get? here = some (.directory entries)) :
    tree.look here = some (.directory []) := by
  rw [Item.look, found]
  rfl

theorem Item.outlineAt_snoc {tree : Item} {here : Place} {entries : List (String × Item)}
    (found : tree.get? here = some (.directory entries)) (name : String) :
    tree.outlineAt (here ++ [name]) = (entries.lookup name).map Item.outline := by
  rw [Item.outlineAt, Item.get?_snoc found]

theorem Item.outlineAt_directory {tree : Item} {here : Place} {entries : List (String × Item)}
    (found : tree.get? here = some (.directory entries)) :
    tree.outlineAt here = some (.directory []) := by
  rw [Item.outlineAt, found]
  rfl

theorem locate_cons (tree : Item) (reach : Reach) (links : Nat) (here : Place) (name : String)
    (rest : List String) :
    locate tree reach links here (name :: rest) =
      match tree.outlineAt here with
      | some (.directory _) =>
          if name == ".." then locate tree reach links here.dropLast rest
          else if name.utf8ByteSize > nameLimit then .error .nameTooLong
          else match tree.outlineAt (here ++ [name]) with
            | none =>
                if rest.isEmpty && reach == .toMake then .ok (here ++ [name]) else .error .missing
            | some (.link target) =>
                if rest.isEmpty && reach == .itself then .ok (here ++ [name])
                else match links with
                  | 0 => .error .linkLoop
                  | links + 1 =>
                      locate tree reach links (if (Path.ofText target).isAbsolute then [] else here)
                        ((Path.ofText target).names ++ rest)
            | some _ => locate tree reach links (here ++ [name]) rest
      | _ => .error .notDirectory := by
  rw [locate]
  cases found : tree.get? here with
  | none => simp only [Item.outlineAt, found, Option.map_none]
  | some item =>
      cases item with
      | file content => simp only [Item.outlineAt, found, Option.map_some, Item.outline]
      | link target => simp only [Item.outlineAt, found, Option.map_some, Item.outline]
      | directory entries =>
          simp only [Item.outlineAt_directory found, Item.outlineAt_snoc found]
          cases entries.lookup name with
          | none => rfl
          | some item => cases item <;> rfl

theorem locate_through {tree : Item} (here : Place) {names : Place} {entries : List (String × Item)}
    (found : tree.get? (here ++ names) = some (.directory entries)) (down : ".." ∉ names)
    (reach : Reach) (links : Nat) (more : List String) :
    locate tree reach links here (names ++ more) =
      if names.all (·.utf8ByteSize ≤ nameLimit) then locate tree reach links (here ++ names) more
      else .error .nameTooLong := by
  induction names generalizing here with
  | nil => simp
  | cons name rest ih =>
      rw [List.mem_cons, not_or] at down
      rw [Item.get?_append] at found
      obtain ⟨item, stands, below⟩ := Option.bind_eq_some_iff.mp found
      obtain ⟨listed, child, rfl, inside, deeper⟩ := Item.exists_entry below
      have next : tree.outlineAt (here ++ [name]) = some (.directory []) := by
        rw [Item.outlineAt_snoc stands, inside]
        cases child with
        | directory _ => rfl
        | file _ | link _ => cases rest <;> simp [Item.get?] at deeper
      have onward : tree.get? (here ++ [name] ++ rest) = some (.directory entries) := by
        rw [Item.get?_append, Item.get?_snoc stands, inside, Option.bind_some, deeper]
      have named : ¬(name == "..") = true := fun same => down.1 (beq_iff_eq.mp same).symm
      simp only [List.cons_append, locate_cons, Item.outlineAt_directory stands, next, if_neg named,
        List.all_cons]
      by_cases long : name.utf8ByteSize > nameLimit
      · have exceeds : decide (name.utf8ByteSize ≤ nameLimit) = false :=
          decide_eq_false (Nat.not_le.mpr long)
        simp only [if_pos long, exceeds, Bool.false_and, Bool.false_eq_true, if_false]
      · simp only [if_neg long, ih (here ++ [name]) onward down.2, Nat.not_lt.mp long, decide_true,
          Bool.true_and, List.append_assoc, List.singleton_append]

/-- Names lead the same way through two trees that are alike wherever the way comes along. What
holds of the place and the names that are left is kept by every step. -/
theorem locate_congr {a b : Item} {Way : Place → List String → Prop}
    (same : ∀ here name rest, Way here (name :: rest) → a.outlineAt here = b.outlineAt here ∧
      a.outlineAt (here ++ [name]) = b.outlineAt (here ++ [name]))
    (up : ∀ here name rest, Way here (name :: rest) → Way here.dropLast rest)
    (onward : ∀ here name rest, Way here (name :: rest) → Way (here ++ [name]) rest)
    (follow : ∀ here name rest target, Way here (name :: rest) →
      a.get? (here ++ [name]) = some (.link target) →
        Way (if (Path.ofText target).isAbsolute then [] else here)
          ((Path.ofText target).names ++ rest))
    {reach : Reach} {links : Nat} {here : Place} {names : List String} (way : Way here names) :
    locate a reach links here names = locate b reach links here names := by
  fun_induction locate a reach links here names
  case case1 => simp [locate]
  all_goals
    obtain ⟨standing, next⟩ := same _ _ _ way
    rw [locate_cons b, ← standing, ← next]
  case case2 found double ih =>
    simp only [Item.outlineAt_directory found, double, if_true]
    exact ih (up _ _ _ way)
  case case3 found down long =>
    simp only [Item.outlineAt_directory found, if_neg down, long, if_true]
  case case4 found down short missing making =>
    simp only [Item.outlineAt_directory found, Item.outlineAt_snoc found, if_neg down, if_neg short,
      missing, Option.map_none, making, if_true]
  case case5 found down short missing making =>
    simp only [Item.outlineAt_directory found, Item.outlineAt_snoc found, if_neg down, if_neg short,
      missing, Option.map_none, if_neg making]
  case case6 found down short target inside asked =>
    simp only [Item.outlineAt_directory found, Item.outlineAt_snoc found, if_neg down, if_neg short,
      inside, Option.map_some, Item.outline, asked, if_true]
  case case7 found down short target inside asked =>
    simp only [Item.outlineAt_directory found, Item.outlineAt_snoc found, if_neg down, if_neg short,
      inside, Option.map_some, Item.outline, if_neg asked]
  case case8 found down short target inside asked links path ih =>
    simp only [Item.outlineAt_directory found, Item.outlineAt_snoc found, if_neg down, if_neg short,
      inside, Option.map_some, Item.outline, if_neg asked]
    exact ih (follow _ _ _ target way ((Item.get?_snoc found _).trans inside))
  case case9 found down short item real inside ih =>
    simp only [Item.outlineAt_directory found, Item.outlineAt_snoc found, if_neg down, if_neg short,
      inside, Option.map_some]
    cases item with
    | link target => exact absurd rfl (real target)
    | file _ | directory _ => exact ih (onward _ _ _ way)
  case case10 here _ _ astray =>
    unfold Item.outlineAt
    cases found : a.get? here with
    | none => rfl
    | some item =>
        cases item with
        | directory entries => exact absurd found (astray entries)
        | file _ | link _ => rfl

/-- Trees that look the same away from a place, whose name no link of the first one names. -/
structure Twins (a b : Item) (parent : Place) (name : String) : Prop where
  same : ∀ place, ¬parent ++ [name] <+: place → a.look place = b.look place
  unnamed : ∀ place target, a.get? place = some (.link target) →
    name ∉ (Path.ofText target).names

namespace Twins
variable {a b : Item} {parent : Place} {name : String}

theorem outside_snoc {here : Place} {next : String} (outside : ¬parent ++ [name] <+: here)
    (other : next ≠ name) : ¬parent ++ [name] <+: here ++ [next] := by
  intro below
  rcases List.prefix_concat_iff.mp below with whole | inside
  · exact other (List.cons.inj (List.append_inj_right' whole rfl)).1.symm
  · exact outside inside

theorem outside_dropLast {here : Place} (outside : ¬parent ++ [name] <+: here) :
    ¬parent ++ [name] <+: here.dropLast := fun below =>
  outside (below.trans (List.dropLast_prefix here))

theorem target_unnamed (twins : Twins a b parent name) {place : Place} {target : String}
    (link : a.get? place = some (.link target)) {rest : List String} (unnamed : name ∉ rest) :
    name ∉ (Path.ofText target).names ++ rest := by
  rw [List.mem_append, not_or]
  exact ⟨twins.unnamed place target link, unnamed⟩

theorem outside_start {here : Place} (outside : ¬parent ++ [name] <+: here) (absolute : Bool) :
    ¬parent ++ [name] <+: if absolute = true then [] else here := by
  cases absolute <;> simp [outside]

theorem locate_eq (twins : Twins a b parent name) {reach : Reach} {links : Nat} {here : Place}
    {names : List String} (unnamed : name ∉ names) (outside : ¬parent ++ [name] <+: here) :
    locate a reach links here names = locate b reach links here names := by
  -- the way stays outside of the place, and what is left does not name it
  let Way (here : Place) (names : List String) := name ∉ names ∧ ¬parent ++ [name] <+: here
  have parts {here : Place} {next : String} {rest : List String} (way : Way here (next :: rest)) :
      name ∉ rest ∧ ¬parent ++ [name] <+: here ++ [next] := by
    have unnamed := way.1
    rw [List.mem_cons, not_or] at unnamed
    exact ⟨unnamed.2, outside_snoc way.2 (Ne.symm unnamed.1)⟩
  refine @locate_congr a b Way ?_ ?_ ?_ ?_ reach links here names ⟨unnamed, outside⟩
  · intro here next rest way
    exact ⟨Item.outlineAt_of_look (twins.same here way.2),
      Item.outlineAt_of_look (twins.same _ (parts way).2)⟩
  · intro here next rest way
    exact ⟨(parts way).1, outside_dropLast way.2⟩
  · intro here next rest way
    exact parts way
  · intro here next rest target way link
    exact ⟨twins.target_unnamed link (parts way).1, outside_start way.2 _⟩

theorem locate_outside (twins : Twins a b parent name) {reach : Reach} {links : Nat} {here : Place}
    {names : List String} (unnamed : name ∉ names) (outside : ¬parent ++ [name] <+: here)
    {place : Place} (located : locate a reach links here names = .ok place) :
    ¬parent ++ [name] <+: place := by
  fun_induction locate a reach links here names
  case case1 => exact Except.ok.inj located ▸ outside
  all_goals
    rw [List.mem_cons, not_or] at unnamed
    obtain ⟨other, unnamed⟩ := unnamed
    have further := outside_snoc outside (Ne.symm other)
  case case2 ih => exact ih unnamed (outside_dropLast outside) located
  case case3 | case5 | case7 | case10 => cases located
  case case4 | case6 => exact Except.ok.inj located ▸ further
  case case8 found _ _ _ inside _ _ _ ih =>
    have link := (Item.get?_snoc found _).trans inside
    exact ih (twins.target_unnamed link unnamed) (outside_start outside _) located
  case case9 ih => exact ih unnamed further located

theorem directory_iff (twins : Twins a b parent name) {place : Place}
    (outside : ¬parent ++ [name] <+: place) :
    (∃ entries, a.get? place = some (.directory entries)) ↔
      ∃ entries, b.get? place = some (.directory entries) := by
  have same := twins.same place outside
  have seen (tree : Item) : (∃ entries, tree.get? place = some (.directory entries)) ↔
      tree.look place = some (.directory []) := by
    constructor
    · rintro ⟨entries, found⟩
      exact Item.look_directory found
    · intro looked
      unfold Item.look at looked
      cases found : tree.get? place with
      | none => simp [found] at looked
      | some item =>
          cases item with
          | directory entries => exact ⟨entries, rfl⟩
          | file _ | link _ => simp [found, Item.face] at looked
  rw [seen, seen, same]

end Twins

structure Agree (a b : Item) (names : List String) : Prop where
  located : locate a .existing linkLimit [] names = locate b .existing linkLimit [] names
  looked : ∀ place, locate a .existing linkLimit [] names = .ok place → a.look place = b.look place

namespace Twins
variable {a b : Item} {parent : Place} {name : String}

theorem agree (twins : Twins a b parent name) {names : List String} (unnamed : name ∉ names) :
    Agree a b names where
  located := twins.locate_eq unnamed (by simp)
  looked place located := twins.same place (twins.locate_outside unnamed (by simp) located)

theorem locate_step (twins : Twins a b parent name) (links : Nat) {here : Place} {next : String}
    {entries : List (String × Item)} (found : a.get? here = some (.directory entries))
    (outside : ¬parent ++ [name] <+: here ++ [next]) (inside : (entries.lookup next).isSome)
    {more : List String} (unnamed : name ∉ more) :
    locate a .existing links here (next :: more) = locate b .existing links here (next :: more) ∧
      ∀ place, locate a .existing links here (next :: more) = .ok place →
        ¬parent ++ [name] <+: place := by
  have above : ¬parent ++ [name] <+: here := fun below =>
    outside (below.trans (List.prefix_append here [next]))
  obtain ⟨item, listed⟩ := Option.isSome_iff_exists.mp inside
  rw [locate_cons, locate_cons, ← Item.outlineAt_of_look (twins.same _ above),
    ← Item.outlineAt_of_look (twins.same _ outside), Item.outlineAt_directory found,
    Item.outlineAt_snoc found, listed]
  dsimp only [Option.map_some]
  split
  · have up := outside_dropLast above
    exact ⟨twins.locate_eq unnamed up, fun place located => twins.locate_outside unnamed up located⟩
  · split
    · exact ⟨rfl, fun place located => by cases located⟩
    · cases item with
      | link target =>
          have followed : (Reach.existing == Reach.itself) = false := rfl
          simp only [Item.outline, followed, Bool.and_false, Bool.false_eq_true, if_false]
          cases links with
          | zero => exact ⟨rfl, fun place located => by cases located⟩
          | succ links =>
              have link := (Item.get?_snoc found next).trans listed
              have others := twins.target_unnamed link unnamed
              have start := outside_start above (Path.ofText target).isAbsolute
              exact ⟨twins.locate_eq others start, fun place located =>
                twins.locate_outside others start located⟩
      | file _ | directory _ =>
          exact ⟨twins.locate_eq unnamed outside, fun place located =>
            twins.locate_outside unnamed outside located⟩

theorem agree_from (twins : Twins a b parent name) {place : Place} {item : Item}
    (found : a.get? place = some item) (down : ".." ∉ place)
    (outside : ¬parent ++ [name] <+: place) {more : List String} (unnamed : name ∉ more) :
    Agree a b (place ++ more) := by
  rcases List.eq_nil_or_concat place with rfl | ⟨here, next, rfl⟩
  · exact twins.agree unnamed
  · rw [List.concat_eq_append] at *
    rw [Item.get?_append] at found
    obtain ⟨directory, stands, below⟩ := Option.bind_eq_some_iff.mp found
    obtain ⟨entries, child, rfl, inside, _⟩ := Item.exists_entry below
    have above : ¬parent ++ [name] <+: here := fun further =>
      outside (further.trans (List.prefix_append here [next]))
    obtain ⟨others, there⟩ := (twins.directory_iff above).mp ⟨entries, stands⟩
    have way : ".." ∉ here := fun member => down (List.mem_append_left _ member)
    have left := locate_through [] stands way .existing linkLimit (next :: more)
    have right := locate_through [] there way .existing linkLimit (next :: more)
    have step := twins.locate_step linkLimit stands outside (by rw [inside]; rfl) unnamed
    rw [List.append_assoc, List.singleton_append]
    refine ⟨?_, fun place located => ?_⟩
    · rw [left, right]
      split
      · exact step.1
      · rfl
    · rw [left] at located
      split at located
      · exact twins.same place (step.2 place located)
      · cases located

theorem agree_item (twins : Twins a b parent name) {place : Place} {item : Item}
    (found : a.get? place = some item) (down : ".." ∉ place)
    (outside : ¬parent ++ [name] <+: place) : Agree a b place := by
  have agree := twins.agree_from found down outside List.not_mem_nil
  rwa [List.append_nil] at agree

end Twins

end SourceAtlas
