import SourceAtlas.Proofs.FileChanges

/-!
Ways through a tree with links. A way goes down into names, up over double dots, and where it meets
a link it goes the way of the target first. Such a way meets no link inside the target of that same
link, so resolving, which follows each link once and keeps what it has found, comes to the same end.
-/
namespace SourceAtlas

open Text

def linkStart (link : Place) (target : String) : Place :=
  if (Path.ofText target).isAbsolute then [] else link.dropLast

/-- The way from a place by names to another place, with the number of links on it. Names that are
not there are gone into like others. -/
inductive Way (tree : Item) : Nat → Place → List String → Place → Prop
  | stop (here : Place) : Way tree 0 here [] here
  | up {n : Nat} {here place : Place} {rest : List String}
      (onward : Way tree n here.dropLast rest place) : Way tree n here (".." :: rest) place
  | enter {n : Nat} {here place : Place} {name : String} {rest : List String} (down : name ≠ "..")
      (plain : ∀ target, tree.get? (here ++ [name]) ≠ some (.link target))
      (onward : Way tree n (here ++ [name]) rest place) : Way tree n here (name :: rest) place
  | follow {n m : Nat} {here middle place : Place} {name target : String} {rest : List String}
      (down : name ≠ "..") (linked : tree.get? (here ++ [name]) = some (.link target))
      (inside : Way tree n (linkStart (here ++ [name]) target) (Path.ofText target).names middle)
      (onward : Way tree m middle rest place) : Way tree (n + m + 1) here (name :: rest) place

namespace Way
variable {tree : Item} {n m : Nat} {here middle place : Place} {names more : List String}

theorem unique {other : Place} (first : Way tree n here names place)
    (second : Way tree m here names other) : n = m ∧ place = other := by
  induction first generalizing m other with
  | stop here =>
      cases second
      exact ⟨rfl, rfl⟩
  | up onward ih =>
      cases second with
      | up again => exact ih again
      | enter down => exact absurd rfl down
      | follow down => exact absurd rfl down
  | enter down plain onward ih =>
      cases second with
      | up => exact absurd rfl down
      | enter _ _ again => exact ih again
      | follow _ linked => exact absurd linked (plain _)
  | follow down linked inside onward inner outer =>
      cases second with
      | up => exact absurd rfl down
      | enter _ plain => exact absurd linked (plain _)
      | follow _ same again further =>
          cases linked.symm.trans same
          obtain ⟨rfl, rfl⟩ := inner again
          obtain ⟨rfl, rfl⟩ := outer further
          exact ⟨rfl, rfl⟩

theorem append (first : Way tree n here names middle) (second : Way tree m middle more place) :
    Way tree (n + m) here (names ++ more) place := by
  induction first with
  | stop => simpa using second
  | up onward ih => exact .up (ih second)
  | enter down plain onward ih => exact .enter down plain (ih second)
  | @follow n k _ _ _ _ _ _ down linked inside _ _ ih =>
      rw [show n + k + 1 + m = n + (k + m) + 1 by omega]
      exact .follow down linked inside (ih second)

theorem split (whole : Way tree n here (names ++ more) place) :
    ∃ k m middle, Way tree k here names middle ∧ Way tree m middle more place := by
  induction names generalizing n here with
  | nil => exact ⟨0, n, here, .stop here, whole⟩
  | cons name rest ih =>
      cases whole with
      | up onward =>
          obtain ⟨k, m, middle, first, second⟩ := ih onward
          exact ⟨k, m, middle, .up first, second⟩
      | enter down plain onward =>
          obtain ⟨k, m, middle, first, second⟩ := ih onward
          exact ⟨k, m, middle, .enter down plain first, second⟩
      | follow down linked inside onward =>
          obtain ⟨k, m, middle, first, second⟩ := ih onward
          exact ⟨_, m, middle, .follow down linked inside first, second⟩

end Way

section Steps

variable {tree : Item} {here : Place} {name target : String}

theorem resolveFrom_up (fuel : Nat) (seen : List (Place × Option Place)) (here : Place)
    (rest : List ResolveStep) :
    resolveFrom tree (fuel + 1) seen here (.name ".." :: rest) =
      resolveFrom tree fuel seen here.dropLast rest := by
  rw [resolveFrom, if_pos (by decide)]

theorem resolveFrom_leave (fuel : Nat) (seen : List (Place × Option Place)) (here link : Place)
    (rest : List ResolveStep) :
    resolveFrom tree (fuel + 1) seen here (.leave link :: rest) =
      resolveFrom tree fuel ((link, some here) :: seen) here rest := by
  rw [resolveFrom]

theorem resolveFrom_unmet {seen : List (Place × Option Place)} (down : name ≠ "..")
    (linked : tree.get? (here ++ [name]) = some (.link target))
    (unmet : seen.lookup (here ++ [name]) = none) (fuel : Nat) (rest : List ResolveStep) :
    resolveFrom tree (fuel + 1) seen here (.name name :: rest) =
      resolveFrom tree fuel ((here ++ [name], none) :: seen)
        (linkStart (here ++ [name]) target)
        ((Path.ofText target).names.map .name ++ .leave (here ++ [name]) :: rest) := by
  have kept : ¬(name == "..") = true := fun same => down (beq_iff_eq.mp same)
  simp only [resolveFrom, if_neg kept, linked, unmet, linkStart, List.dropLast_concat]

theorem resolveFrom_met {seen : List (Place × Option Place)} {place : Place} (down : name ≠ "..")
    (linked : tree.get? (here ++ [name]) = some (.link target))
    (met : seen.lookup (here ++ [name]) = some (some place)) (fuel : Nat)
    (rest : List ResolveStep) :
    resolveFrom tree (fuel + 1) seen here (.name name :: rest) =
      resolveFrom tree fuel seen place rest := by
  have kept : ¬(name == "..") = true := fun same => down (beq_iff_eq.mp same)
  simp only [resolveFrom, if_neg kept, linked, met]

end Steps

/-- Where resolving stands: what it has found out about links is right, and the links that it has
not met yet are in what is left of the tree. -/
structure Resolving (tree : Item) (seen : List (Place × Option Place)) (left : Item) : Prop where
  found : ∀ {link target place}, tree.get? link = some (.link target) →
    seen.lookup link = some (some place) →
      ∃ n, Way tree n (linkStart link target) (Path.ofText target).names place
  unmet : ∀ {link target}, tree.get? link = some (.link target) → seen.lookup link = none →
    left.get? link = some (.link target)

def Pending (tree : Item) (seen : List (Place × Option Place)) (n : Nat) : Prop :=
  ∀ {link target}, tree.get? link = some (.link target) → seen.lookup link = some none →
    ∃ k place, n ≤ k ∧ Way tree k (linkStart link target) (Path.ofText target).names place

theorem Pending.mono {tree : Item} {seen : List (Place × Option Place)} {n m : Nat}
    (pending : Pending tree seen n) (fewer : m ≤ n) : Pending tree seen m := by
  intro link target linked waits
  obtain ⟨k, place, least, way⟩ := pending linked waits
  exact ⟨k, place, Nat.le_trans fewer least, way⟩

theorem lookup_cons_of_ne {seen : List (Place × Option Place)} {link other : Place}
    (apart : other ≠ link) (answer : Option Place) :
    ((link, answer) :: seen).lookup other = seen.lookup other := by
  rw [List.lookup_cons, beq_false_of_ne apart]

section Meet

variable {tree left : Item} {seen : List (Place × Option Place)} {here middle : Place}
  {name target : String}

theorem length_splitFrom_le (separator : Char) (piece text : List Char) :
    (splitFrom separator piece text).length ≤ text.length + 1 := by
  induction text generalizing piece with
  | nil => simp [splitFrom]
  | cons c rest ih =>
      rw [splitFrom]
      split
      · simpa using ih []
      · exact Nat.le_succ_of_le (ih (c :: piece))

theorem length_ofText_le (target : String) :
    (Path.ofText target).names.length ≤ target.length + 1 := by
  have pieces := length_splitFrom_le '/' [] target.toList
  rw [String.length_toList] at pieces
  refine Nat.le_trans (List.length_filter_le _ _) ?_
  rw [split, List.length_map]
  exact pieces

theorem Resolving.meet (resolving : Resolving tree seen left)
    (linked : tree.get? (here ++ [name]) = some (.link target))
    (unmet : seen.lookup (here ++ [name]) = none) :
    ∃ less, Resolving tree ((here ++ [name], none) :: seen) less ∧
      less.linkSteps + target.length + 2 = left.linkSteps := by
  have there := resolving.unmet linked unmet
  obtain ⟨entries, parent, inside⟩ := Item.exists_directory_of_snoc there
  refine ⟨left.put (here ++ [name]) (.file []), ⟨fun {link text place} found met => ?_,
    fun {link text} found fresh => ?_⟩, ?_⟩
  · by_cases same : link = here ++ [name]
    · rw [same, List.lookup_cons_self] at met
      cases met
    · rw [lookup_cons_of_ne same] at met
      exact resolving.found found met
  · by_cases same : link = here ++ [name]
    · rw [same, List.lookup_cons_self] at fresh
      cases fresh
    · rw [lookup_cons_of_ne same] at fresh
      have stands := resolving.unmet found fresh
      refine Item.link_of_look (Item.look_put parent name _ ?_).symm stands
      rintro ⟨rest, rfl⟩
      rw [Item.get?_append, there] at stands
      cases rest with
      | nil => simp at same
      | cons next more => cases stands
  · have steps := Item.linkSteps_put_add parent name (.file [])
    rw [inside, Option.elim_some] at steps
    simp only [Item.linkSteps] at steps
    omega

theorem Pending.meet {n k : Nat} (pending : Pending tree seen n) (fewer : k ≤ n) {link : Place}
    (linked : tree.get? link = some (.link target))
    (inside : Way tree k (linkStart link target) (Path.ofText target).names middle) :
    Pending tree ((link, none) :: seen) k := by
  intro other text found waits
  by_cases same : other = link
  · subst same
    cases linked.symm.trans found
    exact ⟨k, middle, Nat.le_refl k, inside⟩
  · rw [lookup_cons_of_ne same] at waits
    exact pending.mono fewer found waits

theorem Resolving.leave {k : Nat} {link : Place} (resolving : Resolving tree seen left)
    (linked : tree.get? link = some (.link target))
    (inside : Way tree k (linkStart link target) (Path.ofText target).names middle) :
    Resolving tree ((link, some middle) :: seen) left where
  found {other text place} found met := by
    by_cases same : other = link
    · subst same
      cases linked.symm.trans found
      rw [List.lookup_cons_self] at met
      cases met
      exact ⟨k, inside⟩
    · rw [lookup_cons_of_ne same] at met
      exact resolving.found found met
  unmet {other text} found unmet := by
    by_cases same : other = link
    · rw [same, List.lookup_cons_self] at unmet
      cases unmet
    · rw [lookup_cons_of_ne same] at unmet
      exact resolving.unmet found unmet

end Meet

theorem exists_fewer {a b c fuel : Nat} (enough : a + 1 + b + c ≤ fuel) :
    ∃ fewer, fuel = fewer + 1 ∧ a + b + c ≤ fewer := ⟨fuel - 1, by omega, by omega⟩

theorem Way.resolveFrom_eq {tree : Item} {n : Nat} {here place : Place} {names : List String}
    (way : Way tree n here names place) {seen : List (Place × Option Place)} {left : Item}
    (resolving : Resolving tree seen left) (pending : Pending tree seen n) {fuel : Nat}
    {rest : List ResolveStep} (enough : names.length + rest.length + left.linkSteps ≤ fuel) :
    ∃ later less fewer, resolveFrom tree fuel seen here (names.map .name ++ rest) =
        resolveFrom tree fewer later place rest ∧
      Resolving tree later less ∧ rest.length + less.linkSteps ≤ fewer ∧
      ∀ link, later.lookup link = some none → seen.lookup link = some none := by
  induction way generalizing seen left fuel rest with
  | stop here =>
      exact ⟨seen, left, fuel, rfl, resolving, by simpa using enough, fun _ same => same⟩
  | up onward ih =>
      obtain ⟨fuel, rfl, room⟩ := exists_fewer enough
      rw [List.map_cons, List.cons_append, resolveFrom_up]
      exact ih resolving pending room
  | enter down plain onward ih =>
      obtain ⟨fuel, rfl, room⟩ := exists_fewer enough
      rw [List.map_cons, List.cons_append, resolveFrom_plain down plain]
      exact ih resolving pending room
  | @follow k m here middle place name target others down linked inside onward inner outer =>
      obtain ⟨fuel, rfl, room⟩ := exists_fewer enough
      have onwards : Pending tree seen m := pending.mono (by omega)
      rw [List.map_cons, List.cons_append]
      cases met : seen.lookup (here ++ [name]) with
      | some answer =>
          cases answer with
          | none =>
              -- a link in its own target would have fewer links in it than it has
              obtain ⟨more, _, least, again⟩ := pending linked met
              obtain ⟨rfl, _⟩ := inside.unique again
              omega
          | some known =>
              obtain ⟨_, again⟩ := resolving.found linked met
              obtain ⟨_, rfl⟩ := inside.unique again
              rw [resolveFrom_met down linked met]
              exact outer resolving onwards room
      | none =>
          obtain ⟨less, going, fewer⟩ := resolving.meet linked met
          have short := length_ofText_le target
          have steps : (Path.ofText target).names.length +
              (ResolveStep.leave (here ++ [name]) :: (others.map .name ++ rest)).length +
                less.linkSteps ≤ fuel := by
            rw [List.length_cons, List.length_append, List.length_map]
            omega
          obtain ⟨seen₁, left₁, fuel₁, same, through, enough₁, still⟩ :=
            inner going (pending.meet (by omega) linked inside) steps
          rw [List.length_cons, List.length_append, List.length_map] at enough₁
          obtain ⟨fuel₂, rfl, room₂⟩ : ∃ fewer, fuel₁ = fewer + 1 ∧
              others.length + rest.length + left₁.linkSteps ≤ fewer :=
            ⟨fuel₁ - 1, by omega, by omega⟩
          have back (link : Place) (waits : ((here ++ [name], some middle) :: seen₁).lookup link =
              some none) : seen.lookup link = some none := by
            by_cases own : link = here ++ [name]
            · rw [own, List.lookup_cons_self] at waits
              cases waits
            · rw [lookup_cons_of_ne own] at waits
              have before := still link waits
              rwa [lookup_cons_of_ne own] at before
          rw [resolveFrom_unmet down linked met, same, resolveFrom_leave]
          obtain ⟨later, less, fewer, whole, done, room, last⟩ := outer
            (through.leave linked inside) (fun found waits => onwards found (back _ waits)) room₂
          exact ⟨later, less, fewer, whole, done, room, fun link waits =>
            back link (last link waits)⟩

theorem Way.resolved {tree : Item} {n : Nat} {names : List String} {place : Place}
    (way : Way tree n [] names place) {fuel : Nat} (enough : names.length + tree.linkSteps ≤ fuel) :
    resolveFrom tree fuel [] [] (names.map .name) = (place, true) := by
  have start : Resolving tree [] tree := ⟨by simp, fun linked _ => linked⟩
  have none : Pending tree [] n := by simp [Pending]
  have room : names.length + ([] : List ResolveStep).length + tree.linkSteps ≤ fuel := enough
  obtain ⟨later, _, fewer, same, _⟩ := way.resolveFrom_eq start none room
  rw [List.append_nil] at same
  rw [same]
  cases fewer <;> rw [resolveFrom]

theorem exists_way {tree : Item} {reach : Reach} {links : Nat} {here place : Place}
    {names : List String} (follows : reach ≠ .itself)
    (located : locate tree reach links here names = .ok place) :
    ∃ n, Way tree n here names place := by
  fun_induction locate tree reach links here names
  case case1 => exact ⟨0, Except.ok.inj located ▸ .stop _⟩
  case case2 up ih =>
    obtain ⟨n, way⟩ := ih located
    exact ⟨n, beq_iff_eq.mp up ▸ .up way⟩
  case case3 | case5 | case7 | case10 => cases located
  case case4 here name rest entries found down _ absent last =>
    cases located
    have plain (target : String) : tree.get? (here ++ [name]) ≠ some (.link target) := by
      rw [Item.get?_snoc found, absent]
      exact (Option.some_ne_none _).symm
    refine ⟨0, ?_⟩
    rw [(last_of_asked last).1]
    exact .enter (fun same => down (beq_iff_eq.mpr same)) plain (.stop _)
  case case6 asked => exact absurd (last_of_asked asked).2 follows
  case case8 here name rest entries found down _ target inside _ links path ih =>
    obtain ⟨n, way⟩ := ih located
    obtain ⟨k, m, middle, first, second⟩ := way.split
    have linked : tree.get? (here ++ [name]) = some (.link target) :=
      (Item.get?_snoc found name).trans inside
    have start : linkStart (here ++ [name]) target = if path.isAbsolute then [] else here := by
      rw [linkStart, List.dropLast_concat]
    exact ⟨k + m + 1, .follow (fun same => down (beq_iff_eq.mpr same)) linked (start ▸ first)
      second⟩
  case case9 here name rest entries found down _ item plain inside ih =>
    obtain ⟨n, way⟩ := ih located
    refine ⟨n, .enter (fun same => down (beq_iff_eq.mpr same)) (fun target linked => ?_) way⟩
    rw [Item.get?_snoc found, inside] at linked
    exact plain target (Option.some.inj linked)

def Unlinked (tree : Item) (place : Place) : Prop :=
  ∀ front name, front ++ [name] <+: place →
    name ≠ ".." ∧ ∀ target, tree.get? (front ++ [name]) ≠ some (.link target)

namespace Unlinked
variable {tree : Item} {place : Place}

theorem nil (tree : Item) : Unlinked tree [] := by
  intro front name before
  simp at before

theorem dropLast (unlinked : Unlinked tree place) : Unlinked tree place.dropLast :=
  fun front name before => unlinked front name (before.trans (List.dropLast_prefix place))

theorem snoc (unlinked : Unlinked tree place) {name : String} (down : name ≠ "..")
    (plain : ∀ target, tree.get? (place ++ [name]) ≠ some (.link target)) :
    Unlinked tree (place ++ [name]) := by
  intro front other before
  rcases List.prefix_concat_iff.mp before with whole | inside
  · obtain ⟨rfl, same⟩ := List.append_inj' whole rfl
    cases same
    exact ⟨down, plain⟩
  · exact unlinked front other inside

theorem of_way {n : Nat} {here : Place} {names : List String} (start : Unlinked tree here)
    (way : Way tree n here names place) : Unlinked tree place := by
  induction way with
  | stop here => exact start
  | up onward ih => exact ih start.dropLast
  | enter down plain onward ih => exact ih (start.snoc down plain)
  | @follow _ _ here _ _ _ target _ _ _ _ _ inner outer =>
      refine outer (inner ?_)
      unfold linkStart
      split
      · exact nil tree
      · rwa [List.dropLast_concat]

theorem next {here rest : Place} {name : String}
    (unlinked : Unlinked tree (here ++ name :: rest)) :
    name ≠ ".." ∧ (∀ target, tree.get? (here ++ [name]) ≠ some (.link target)) ∧
      Unlinked tree (here ++ [name] ++ rest) := by
  rw [List.append_cons] at unlinked
  obtain ⟨down, plain⟩ := unlinked here name (List.prefix_append _ _)
  exact ⟨down, plain, unlinked⟩

theorem way {here rest : Place} (unlinked : Unlinked tree (here ++ rest)) :
    Way tree 0 here rest (here ++ rest) := by
  induction rest generalizing here with
  | nil =>
      rw [List.append_nil]
      exact .stop here
  | cons name rest ih =>
      obtain ⟨down, plain, further⟩ := unlinked.next
      rw [List.append_cons]
      exact .enter down plain (ih further)

theorem locate_ne_loop {reach : Reach} {links : Nat} {here names : Place}
    (unlinked : Unlinked tree (here ++ names)) :
    locate tree reach links here names ≠ .error .linkLoop := by
  induction names generalizing here with
  | nil =>
      rw [locate]
      simp
  | cons name rest ih =>
      obtain ⟨down, plain, further⟩ := unlinked.next
      rw [locate]
      split
      next entries found =>
        rw [if_neg fun up => down (beq_iff_eq.mp up)]
        split
        · simp
        · cases inside : entries.lookup name with
          | none =>
              dsimp only
              split <;> simp
          | some item =>
              have stands := (Item.get?_snoc found name).trans inside
              cases item with
              | link target => exact absurd stands (plain target)
              | file _ | directory _ => exact ih further
      · simp

end Unlinked

namespace Site
variable {site : Site} {path resolved : Path} {place : Place} {n : Nat}

theorem resolve_of_way (clean : hasNul path = false)
    (way : Way site.root n [] (site.namesOf path) place) :
    site.resolve path = .ok (.ofPlace place) := by
  have room : (site.namesOf path).length + site.root.linkSteps ≤
      (site.namesOf path).length + site.root.linkSteps + 1 := Nat.le_succ _
  have straight : Unlinked site.root ([] ++ place) := (Unlinked.nil site.root).of_way way
  unfold resolve
  rw [if_neg (Bool.eq_false_iff.mp clean)]
  simp only [way.resolved room]
  split
  next loop => exact absurd loop straight.locate_ne_loop
  · rfl

theorem clean_of_resolve (done : site.resolve path = .ok resolved) : hasNul path = false := by
  unfold resolve at done
  split at done
  · cases done
  next clean => exact Bool.eq_false_iff.mpr clean

theorem eq_of_resolve (way : Way site.root n [] (site.namesOf path) place)
    (done : site.resolve path = .ok resolved) : resolved = .ofPlace place :=
  Except.ok.inj (done.symm.trans (resolve_of_way (clean_of_resolve done) way))

end Site

end SourceAtlas
