import SourceAtlas.Proofs.ArrivalOrder
import SourceAtlas.Proofs.PathNames
import SourceAtlas.Proofs.TextPieces

/-!
The categories of a list of paths are a partition of it. The first category of the table that claims
a path has it, or else the one for what is left over, and every category comes up when the groups
are written down; so no path is lost and none is shown twice. Which groups there are and what stands
in them is told by that alone.
-/
namespace SourceAtlas

open Text

namespace Category

def Claims (category : Category) (path : String) : Prop :=
  ∃ directories name, lower path = join "/" (directories ++ [name]) ∧
    (∀ part ∈ directories ++ [name], '/' ∉ part.toList) ∧
    ((∃ directory ∈ directories, directory ∈ category.directories) ∨
      ∃ pattern ∈ category.names, globMatches pattern name = true)

inductive FirstClaiming (path : String) : String → Prop
  | listed {before after : List Category} {category : Category}
      (place : table = before ++ category :: after) (claims : category.Claims path)
      (earlier : ∀ other ∈ before, ¬other.Claims path) : FirstClaiming path category.name
  | leftOver (none : ∀ category ∈ table, ¬category.Claims path) : FirstClaiming path other

theorem fits_iff (category : Category) (directories : List String) (name : String) :
    category.fits directories name = true ↔
      (∃ directory ∈ directories, directory ∈ category.directories) ∨
        ∃ pattern ∈ category.names, globMatches pattern name = true := by
  simp [fits, List.any_eq_true]

theorem claims_iff (category : Category) (path : String) :
    category.Claims path ↔
      category.fits (split '/' (lower path)).dropLast ((split '/' (lower path)).getLastD "") =
        true := by
  rw [fits_iff]
  constructor
  · rintro ⟨directories, name, whole, free, claimed⟩
    rw [whole, split_join_of_free rfl (by simp) free, List.dropLast_concat,
      List.getLastD_concat]
    exact claimed
  · intro claimed
    obtain ⟨first, rest, parts, _⟩ := splitFrom_cons '/' [] (lower path).toList
    have filled : split '/' (lower path) ≠ [] := by
      rw [split, splitChars, parts]
      exact List.cons_ne_nil _ _
    have whole : (split '/' (lower path)).dropLast ++ [(split '/' (lower path)).getLastD ""] =
        split '/' (lower path) := by
      rw [List.getLastD_eq_getLast?, List.getLast?_eq_some_getLast filled, Option.getD_some]
      exact List.dropLast_append_getLast filled
    refine ⟨_, _, ?_, ?_, claimed⟩
    · rw [whole, join_split rfl]
    · rw [whole]
      exact fun part member => free_of_mem_split member

end Category

theorem categoryOf_eq_iff {path name : String} :
    categoryOf path = name ↔ Category.FirstClaiming path name := by
  unfold categoryOf
  dsimp only
  constructor
  · rintro rfl
    split
    next category found =>
      obtain ⟨fits, before, after, place, earlier⟩ := List.find?_eq_some_iff_append.mp found
      refine .listed place ((category.claims_iff path).mpr fits) fun other member claims => ?_
      have refused := earlier other member
      rw [(other.claims_iff path).mp claims] at refused
      exact absurd refused Bool.false_ne_true
    next found =>
      refine .leftOver fun category member claims => ?_
      exact List.find?_eq_none.mp found category member ((category.claims_iff path).mp claims)
  · rintro (⟨place, claims, earlier⟩ | none)
    next before after category =>
      have found : Category.table.find? (·.fits (split '/' (lower path)).dropLast
          ((split '/' (lower path)).getLastD "")) = some category := by
        refine List.find?_eq_some_iff_append.mpr
          ⟨(category.claims_iff path).mp claims, before, after, place, fun other member => ?_⟩
        rw [Bool.not_eq_true', Bool.eq_false_iff]
        exact fun fits => earlier other member ((other.claims_iff path).mpr fits)
      rw [found]
    next =>
      have found : Category.table.find? (·.fits (split '/' (lower path)).dropLast
          ((split '/' (lower path)).getLastD "")) = Option.none :=
        List.find?_eq_none.mpr fun category member fits =>
          none category member ((category.claims_iff path).mpr fits)
      rw [found]

theorem categoryOf_mem_order (path : String) : categoryOf path ∈ Category.order := by
  generalize same : categoryOf path = name
  cases categoryOf_eq_iff.mp same with
  | listed place =>
      refine List.mem_append_left _ (List.mem_map_of_mem ?_)
      rw [place]
      exact List.mem_append_right _ List.mem_cons_self
  | leftOver => exact List.mem_append_right _ List.mem_cons_self

theorem nodup_order : Category.order.Nodup := by decide

/-- Groups in which each of the paths stands once for every time it is listed, and that of its
category. Groups come in the order of the table, are sorted, and are left out if nothing is in
them. -/
structure Grouped (paths : List String) (groups : List (String × List String)) : Prop where
  whole : (groups.flatMap Prod.snd).Perm paths
  own : ∀ group ∈ groups, ∀ path ∈ group.2, categoryOf path = group.1
  filled : ∀ group ∈ groups, group.2 ≠ []
  sorted : ∀ group ∈ groups, group.2.Pairwise (· ≤ ·)
  ordered : (groups.map Prod.fst).Sublist Category.order

theorem mem_categorize {paths : List String} {group : String × List String} :
    group ∈ categorize paths ↔ group.1 ∈ Category.order ∧ group.2 ≠ [] ∧
      group.2 = sortTexts (paths.filter (categoryOf · == group.1)) := by
  simp only [categorize, List.mem_filter, List.mem_map]
  constructor
  · rintro ⟨⟨name, listed, rfl⟩, filled⟩
    exact ⟨listed, by simpa using filled, rfl⟩
  · rintro ⟨listed, filled, members⟩
    refine ⟨⟨group.1, listed, ?_⟩, by simpa using filled⟩
    rw [← members]

theorem flatMap_categorize (paths : List String) :
    (categorize paths).flatMap Prod.snd =
      Category.order.flatMap fun name => sortTexts (paths.filter (categoryOf · == name)) := by
  rw [categorize]
  generalize Category.order = names
  induction names with
  | nil => rfl
  | cons name names ih =>
      rw [List.map_cons, List.filter_cons, List.flatMap_cons, ← ih]
      split
      next => rw [List.flatMap_cons]
      next empty =>
        have none : sortTexts (paths.filter (categoryOf · == name)) = [] := by simpa using empty
        rw [none, List.nil_append]

theorem count_flatMap_of_single {α : Type} {items : List α} (apart : items.Nodup) {item : α}
    (member : item ∈ items) {part : α → List String} {text : String}
    (single : ∀ other ∈ items, text ∈ part other → other = item) :
    (items.flatMap part).count text = (part item).count text := by
  obtain ⟨before, after, rfl⟩ := List.append_of_mem member
  have different := List.nodup_middle.mp apart
  rw [List.nodup_cons, List.mem_append, not_or] at different
  have front : text ∉ before.flatMap part := fun inside => by
    obtain ⟨other, listed, own⟩ := List.mem_flatMap.mp inside
    exact different.1.1 (single other (List.mem_append_left _ listed) own ▸ listed)
  have back : text ∉ after.flatMap part := fun inside => by
    obtain ⟨other, listed, own⟩ := List.mem_flatMap.mp inside
    have whole := List.mem_append_right before (List.mem_cons_of_mem item listed)
    exact different.1.2 (single other whole own ▸ listed)
  rw [List.flatMap_append, List.flatMap_cons, List.count_append, List.count_append,
    List.count_eq_zero.mpr front, List.count_eq_zero.mpr back, Nat.zero_add, Nat.add_zero]

theorem perm_flatMap_filter {names : List String} (apart : names.Nodup) {paths : List String}
    (covered : ∀ path ∈ paths, categoryOf path ∈ names) :
    (names.flatMap fun name => sortTexts (paths.filter (categoryOf · == name))).Perm paths := by
  have own {name path : String}
      (inside : path ∈ sortTexts (paths.filter (categoryOf · == name))) :
      path ∈ paths ∧ categoryOf path = name := by
    rw [(sortTexts_perm _).mem_iff, List.mem_filter, beq_iff_eq] at inside
    exact inside
  rw [List.perm_iff_count]
  intro path
  by_cases given : path ∈ paths
  · rw [count_flatMap_of_single apart (covered path given) fun _ _ inside => (own inside).2.symm,
      (sortTexts_perm _).count_eq, List.count_filter (by simp)]
  · have nowhere : path ∉ names.flatMap
        fun name => sortTexts (paths.filter (categoryOf · == name)) := fun inside => by
      obtain ⟨_, _, member⟩ := List.mem_flatMap.mp inside
      exact given (own member).1
    rw [List.count_eq_zero.mpr given, List.count_eq_zero.mpr nowhere]

theorem grouped_categorize (paths : List String) : Grouped paths (categorize paths) where
  whole := by
    rw [flatMap_categorize]
    exact perm_flatMap_filter nodup_order fun path _ => categoryOf_mem_order path
  own group member path inside := by
    rw [(mem_categorize.mp member).2.2, (sortTexts_perm _).mem_iff] at inside
    simpa using (List.mem_filter.mp inside).2
  filled group member := (mem_categorize.mp member).2.1
  sorted group member := by
    rw [(mem_categorize.mp member).2.2]
    exact sortTexts_sorted _
  ordered := by
    have names : (Category.order.map fun name =>
        (name, sortTexts (paths.filter (categoryOf · == name)))).map Prod.fst = Category.order := by
      rw [List.map_map]
      exact List.map_id _
    have kept := (List.filter_sublist (p := fun group : String × List String => !group.2.isEmpty)
      (l := Category.order.map fun name =>
        (name, sortTexts (paths.filter (categoryOf · == name))))).map Prod.fst
    rw [names] at kept
    exact kept

namespace Grouped
variable {paths : List String} {groups others : List (String × List String)}

theorem apart (grouped : Grouped paths groups) : (groups.map Prod.fst).Nodup :=
  grouped.ordered.nodup nodup_order

theorem mem_names (grouped : Grouped paths groups) {name : String} :
    name ∈ groups.map Prod.fst ↔ ∃ path ∈ paths, categoryOf path = name := by
  constructor
  · intro listed
    obtain ⟨group, member, rfl⟩ := List.mem_map.mp listed
    obtain ⟨path, inside⟩ := List.exists_mem_of_ne_nil _ (grouped.filled group member)
    have whole := List.mem_flatMap.mpr ⟨group, member, inside⟩
    exact ⟨path, grouped.whole.mem_iff.mp whole, grouped.own group member path inside⟩
  · rintro ⟨path, given, rfl⟩
    obtain ⟨group, member, inside⟩ := List.mem_flatMap.mp (grouped.whole.mem_iff.mpr given)
    rw [grouped.own group member path inside]
    exact List.mem_map_of_mem member

theorem members_eq (grouped : Grouped paths groups) {group : String × List String}
    (member : group ∈ groups) : group.2 = sortTexts (paths.filter (categoryOf · == group.1)) := by
  have alone (path : String) (same : categoryOf path = group.1) :
      (groups.flatMap Prod.snd).count path = group.2.count path := by
    refine count_flatMap_of_single grouped.apart.of_map member fun other listed inside => ?_
    refine List.inj_on_of_nodup_map grouped.apart listed member ?_
    rw [← grouped.own other listed path inside, same]
  refine List.Perm.eq_of_pairwise (fun _ _ _ _ => le_antisymm) (grouped.sorted group member)
    (sortTexts_sorted _) ?_
  refine List.Perm.trans ?_ (sortTexts_perm _).symm
  rw [List.perm_iff_count]
  intro path
  by_cases same : categoryOf path = group.1
  · rw [← alone path same, grouped.whole.count_eq, List.count_filter (by simpa using same)]
  · rw [List.count_eq_zero.mpr fun inside => same (grouped.own group member path inside),
      List.count_eq_zero.mpr fun inside => same (by simpa using (List.mem_filter.mp inside).2)]

theorem unique (grouped : Grouped paths groups) (regrouped : Grouped paths others) :
    groups = others := by
  have rebuilt {groups : List (String × List String)} (grouped : Grouped paths groups) :
      (groups.map Prod.fst).map (fun name =>
        (name, sortTexts (paths.filter (categoryOf · == name)))) = groups := by
    rw [List.map_map]
    refine (List.map_congr_left fun group member => ?_).trans (List.map_id _)
    rw [Function.comp_apply, ← grouped.members_eq member]
    rfl
  have order : Category.order.Pairwise
      fun a b => Category.order.idxOf a < Category.order.idxOf b := by decide
  have names : groups.map Prod.fst = others.map Prod.fst := by
    refine List.Perm.eq_of_pairwise (fun _ _ _ _ before after => absurd before after.asymm)
      (order.sublist grouped.ordered) (order.sublist regrouped.ordered) ?_
    rw [List.perm_ext_iff_of_nodup grouped.apart regrouped.apart]
    intro name
    rw [grouped.mem_names, regrouped.mem_names]
  rw [← rebuilt grouped, names, rebuilt regrouped]

end Grouped

namespace Section

def categoryHeading (name : String) (count : Nat) : String := s!"### {name} ({count})"

theorem startsWith_categoryHeading (name : String) (count : Nat) :
    startsWith (categoryHeading name count) "### " = true := by
  rw [startsWith_iff]
  refine ⟨(name ++ " (" ++ toString count ++ ")").toList, ?_⟩
  rw [← String.toList_append, categoryHeading]
  simp only [String.append_assoc]
  rfl

theorem startsWith_item (path : String) : startsWith (item path) "### " = false := by
  rw [Bool.eq_false_iff, Ne, startsWith_iff, item, String.toList_append]
  rintro ⟨rest, same⟩
  exact absurd (List.cons.inj same).1 (by decide)

theorem filter_categories (groups : List (String × List String)) :
    (categories groups).filter (startsWith · "### ") =
      groups.map fun group => categoryHeading group.1 group.2.length := by
  have items (paths : List String) : (paths.map item).filter (startsWith · "### ") = [] := by
    simp [List.filter_eq_nil_iff, startsWith_item]
  have blank : startsWith "" "### " = false := rfl
  have title : startsWith "## File Categories" "### " = false := by decide
  have part (group : String × List String) :
      ([categoryHeading group.1 group.2.length, ""] ++ group.2.map item ++ [""]).filter
        (startsWith · "### ") = [categoryHeading group.1 group.2.length] := by
    simp only [List.filter_append, List.filter_cons, List.filter_nil, items, blank,
      startsWith_categoryHeading, if_true, Bool.false_eq_true, if_false, List.append_nil]
  have whole : (categories groups).filter (startsWith · "### ") =
      groups.flatMap fun group => [categoryHeading group.1 group.2.length] := by
    rw [categories, List.filter_append, List.filter_flatMap]
    simp only [List.filter_cons, title, blank, List.filter_nil, Bool.false_eq_true, if_false,
      List.nil_append]
    exact List.flatMap_congr fun group _ => part group
  rw [whole, List.map_eq_flatMap]

end Section

theorem Grouped.sum_lengths {paths : List String} {groups : List (String × List String)}
    (grouped : Grouped paths groups) :
    (groups.map fun group => group.2.length).sum = paths.length := by
  rw [← grouped.whole.length_eq, List.length_flatMap]

/-- The groups of candidates are the one way to part them by category, whatever their order, and the
headings of the section on categories count each of them once. -/
theorem categories_partition (candidates : List Entry) :
    (∀ path name, categoryOf path = name ↔ Category.FirstClaiming path name) ∧
    (∀ groups, groups = categorize (candidates.map Entry.path) ↔
      Grouped (candidates.map Entry.path) groups) ∧
    (∀ others : List Entry, others.Perm candidates →
      categorize (others.map Entry.path) = categorize (candidates.map Entry.path)) ∧
    (Section.categories (categorize (candidates.map Entry.path))).filter (startsWith · "### ") =
      (categorize (candidates.map Entry.path)).map (fun group =>
        Section.categoryHeading group.1 group.2.length) ∧
    ((categorize (candidates.map Entry.path)).map fun group => group.2.length).sum =
      candidates.length := by
  have grouped := grouped_categorize (candidates.map Entry.path)
  refine ⟨fun path name => categoryOf_eq_iff, fun groups => ⟨?_, ?_⟩, fun others perm => ?_,
    Section.filter_categories _, ?_⟩
  · rintro rfl
    exact grouped
  · intro other
    exact other.unique grouped
  · exact Section.categorize_eq_of_perm (perm.symm.map Entry.path)
  · rw [grouped.sum_lengths, List.length_map]

end SourceAtlas
