import SourceAtlas.Proofs.LinkWays
import SourceAtlas.Proofs.OpenedFiles
import SourceAtlas.Proofs.StoreWrites

/-!
Paths that can be written. Names are paved if they go over directories only; making the directories
of a path paves its names, unless something else stands in the way, and that stays there. So a file
can be opened at any time before a path without links leads to it, unless that is refused there.
-/
namespace SourceAtlas

open Text

def Item.HasDirectory (tree : Item) (place : Place) : Prop :=
  ∃ entries, tree.get? place = some (.directory entries)

def nextPlace (here : Place) (name : String) : Place :=
  if name = ".." then here.dropLast else here ++ [name]

theorem nextPlace_up (here : Place) : nextPlace here ".." = here.dropLast := if_pos rfl

theorem nextPlace_down {name : String} (down : name ≠ "..") (here : Place) :
    nextPlace here name = here ++ [name] := if_neg down

def endPlace (here : Place) (names : List String) : Place := names.foldl nextPlace here

theorem endPlace_cons (here : Place) (name : String) (rest : List String) :
    endPlace here (name :: rest) = endPlace (nextPlace here name) rest := rfl

/-- The names, none of them too long, go over directories only. -/
def Paved (tree : Item) (here : Place) : List String → Prop
  | [] => tree.HasDirectory here
  | name :: rest =>
      tree.HasDirectory here ∧ name.utf8ByteSize ≤ nameLimit ∧ Paved tree (nextPlace here name) rest

section Locate

variable {tree : Item} {reach : Reach} {links : Nat} {here : Place} {rest : List String}

theorem locate_up (found : tree.HasDirectory here) :
    locate tree reach links here (".." :: rest) = locate tree reach links here.dropLast rest := by
  obtain ⟨entries, found⟩ := found
  rw [locate, found]
  exact if_pos rfl

theorem locate_down {entries : List (String × Item)} {name : String}
    (found : tree.get? here = some (.directory entries)) (down : name ≠ "..")
    (short : name.utf8ByteSize ≤ nameLimit)
    (plain : ∀ target, tree.get? (here ++ [name]) ≠ some (.link target)) :
    locate tree reach links here (name :: rest) =
      match entries.lookup name with
      | none => if rest.isEmpty && reach == .toMake then .ok (here ++ [name]) else .error .missing
      | some _ => locate tree reach links (here ++ [name]) rest := by
  have kept : ¬(name == "..") = true := fun same => down (beq_iff_eq.mp same)
  rw [Item.get?_snoc found] at plain
  rw [locate, found]
  simp only [if_neg kept, if_neg (Nat.not_lt.mpr short)]
  cases inside : entries.lookup name with
  | none => rfl
  | some item =>
      cases item with
      | link target => exact absurd inside (plain target)
      | file _ | directory _ => rfl

end Locate

namespace Paved
variable {tree other : Item} {reach : Reach} {here : Place} {names more : List String}

theorem start (paved : Paved tree here names) : tree.HasDirectory here := by
  cases names with
  | nil => exact paved
  | cons => exact paved.1

theorem append_iff :
    Paved tree here (names ++ more) ↔
      Paved tree here names ∧ Paved tree (endPlace here names) more := by
  induction names generalizing here with
  | nil => exact ⟨fun paved => ⟨paved.start, paved⟩, And.right⟩
  | cons name rest ih =>
      change (_ ∧ _ ∧ Paved tree _ (rest ++ more)) ↔ (_ ∧ _ ∧ Paved tree _ rest) ∧ _
      rw [ih, and_assoc, and_assoc]
      rfl

theorem done (paved : Paved tree here names) : tree.HasDirectory (endPlace here names) := by
  rw [← List.append_nil names] at paved
  exact (append_iff.mp paved).2

theorem kept (paved : Paved tree here names) (kept : Item.Kept tree other) :
    Paved other here names := by
  induction names generalizing here with
  | nil => exact paved.elim fun _ found => kept.directory found
  | cons name rest ih =>
      obtain ⟨⟨_, found⟩, short, onward⟩ := paved
      exact ⟨kept.directory found, short, ih onward⟩

theorem locate_append (paved : Paved tree here names) (reach : Reach) (links : Nat)
    (more : List String) :
    locate tree reach links here (names ++ more) =
      locate tree reach links (endPlace here names) more := by
  induction names generalizing here with
  | nil => rfl
  | cons name rest ih =>
      obtain ⟨⟨entries, found⟩, short, onward⟩ := paved
      rw [List.cons_append, endPlace_cons]
      by_cases up : name = ".."
      · subst up
        rw [nextPlace_up] at onward ⊢
        rw [locate_up ⟨entries, found⟩, ih onward]
      · rw [nextPlace_down up] at onward ⊢
        obtain ⟨listed, stands⟩ := onward.start
        have plain (target : String) : tree.get? (here ++ [name]) ≠ some (.link target) := by
          rw [stands]
          exact fun same => nomatch same
        rw [locate_down found up short plain, ← Item.get?_snoc found, stands]
        exact ih onward

theorem before (paved : Paved other here names) (kept : Item.Kept tree other)
    (start : tree.HasDirectory here) (follows : reach ≠ .toMake) (links : Nat) :
    Paved tree here names ∨ locate tree reach links here names = .error .missing := by
  induction names generalizing here with
  | nil => exact .inl start
  | cons name rest ih =>
      obtain ⟨_, short, onward⟩ := paved
      obtain ⟨entries, found⟩ := start
      by_cases up : name = ".."
      · subst up
        rw [nextPlace_up] at onward
        rw [Paved, nextPlace_up, locate_up ⟨entries, found⟩]
        exact (ih onward (directory_dropLast found)).imp_left fun rest =>
          ⟨⟨entries, found⟩, short, rest⟩
      · rw [nextPlace_down up] at onward
        obtain ⟨listed, stands⟩ := onward.start
        have plain (target : String) : tree.get? (here ++ [name]) ≠ some (.link target) :=
          fun linked => nomatch (kept.link linked).symm.trans stands
        rw [Paved, nextPlace_down up, locate_down found up short plain]
        cases inside : entries.lookup name with
        | none =>
            have asked : (rest.isEmpty && reach == .toMake) = false := by
              cases reach with
              | toMake => exact absurd rfl follows
              | existing | itself => exact Bool.and_false _
            exact .inr (if_neg (Bool.eq_false_iff.mp asked))
        | some item =>
            have there := (Item.get?_snoc found name).trans inside
            cases item with
            | link target => exact absurd there (plain target)
            | file content =>
                obtain ⟨_, again⟩ := kept.file there
                cases again.symm.trans stands
            | directory below =>
                exact (ih onward ⟨below, there⟩).imp_left fun rest =>
                  ⟨⟨entries, found⟩, short, rest⟩

theorem of_file {place : Place} {name : String} {content : Bytes}
    (way : Way tree 0 here (names ++ [name]) place)
    (located : locate tree .existing links here (names ++ [name]) = .ok place)
    (file : tree.get? place = some (.file content)) :
    Paved tree here names ∧ name ≠ ".." ∧ name.utf8ByteSize ≤ nameLimit ∧
      place = endPlace here names ++ [name] := by
  induction names generalizing here with
  | nil =>
      obtain ⟨entries, found⟩ := directory_of_locate located
      have short := short_of_locate located name (List.mem_singleton_self name)
      cases way with
      | up onward =>
          cases onward
          obtain ⟨_, above⟩ := directory_dropLast found
          cases above.symm.trans file
      | enter down _ onward =>
          cases onward
          exact ⟨⟨entries, found⟩, down, short, rfl⟩
  | cons next rest ih =>
      obtain ⟨entries, found⟩ := directory_of_locate located
      have short := short_of_locate located next List.mem_cons_self
      cases way with
      | up onward =>
          rw [List.cons_append, locate_up ⟨entries, found⟩] at located
          exact (ih onward located).imp_left fun paved => ⟨⟨entries, found⟩, short, paved⟩
      | enter down plain onward =>
          rw [List.cons_append, locate_down found down short plain] at located
          split at located
          · split at located
            next last => simp at last
            · cases located
          · rw [Paved, endPlace_cons, nextPlace_down down]
            exact (ih onward located).imp_left fun paved => ⟨⟨entries, found⟩, short, paved⟩

end Paved

def Item.NoMoreLinks (before after : Item) : Prop :=
  ∀ place target, after.get? place = some (.link target) → before.get? place = some (.link target)

theorem Way.kept {tree other : Item} {here place : Place} {names : List String}
    (way : Way tree 0 here names place) (fewer : tree.NoMoreLinks other) :
    Way other 0 here names place := by
  generalize links : 0 = n at way
  induction way with
  | stop here => exact .stop here
  | up _ ih => exact .up (ih links)
  | enter down plain _ ih =>
      exact .enter down (fun target linked => plain target (fewer _ _ linked)) (ih links)
  | follow => cases links

namespace Item
variable {a b c : Item}

theorem NoMoreLinks.refl (tree : Item) : tree.NoMoreLinks tree := fun _ _ found => found

theorem NoMoreLinks.trans (first : a.NoMoreLinks b) (second : b.NoMoreLinks c) :
    a.NoMoreLinks c :=
  fun place target found => first place target (second place target found)

theorem noMoreLinks_put {tree : Item} {parent : Place} {entries : List (String × Item)}
    (found : tree.get? parent = some (.directory entries)) (name : String) {new : Item}
    (linkless : new.Linkless) : tree.NoMoreLinks (tree.put (parent ++ [name]) new) := by
  intro place target linked
  by_cases below : parent ++ [name] <+: place
  · obtain ⟨rest, rfl⟩ := below
    rw [get?_put_below found] at linked
    exact absurd linked (linkless rest target)
  · exact link_of_look (look_put found name new below) linked

end Item

theorem Item.Kept.directory_root {tree other : Item} (kept : Kept tree other)
    (later : other.HasDirectory []) : tree.HasDirectory [] := by
  obtain ⟨_, found⟩ := later
  have there : tree.get? [] = some tree := get?_nil tree
  cases tree with
  | directory entries => exact ⟨entries, there⟩
  | file content =>
      obtain ⟨_, still⟩ := kept.file there
      cases still.symm.trans found
  | link target => cases (kept.link there).symm.trans found

theorem Item.Kept.put_directory {tree other : Item} {parent : Place}
    {entries : List (String × Item)} {name : String} (kept : Kept tree other)
    (found : tree.get? parent = some (.directory entries))
    (later : other.HasDirectory (parent ++ [name])) :
    Kept (tree.put (parent ++ [name]) (.directory [])) other := by
  have cases {place : Place} {item : Item}
      (stands : (tree.put (parent ++ [name]) (.directory [])).get? place = some item) :
      (place = parent ++ [name] ∧ item = .directory []) ∨
        (tree.put (parent ++ [name]) (.directory [])).look place = tree.look place := by
    by_cases below : parent ++ [name] <+: place
    · obtain ⟨rest, rfl⟩ := below
      rw [get?_put_below found] at stands
      cases rest with
      | nil => exact .inl ⟨List.append_nil _, (Option.some.inj stands).symm⟩
      | cons next rest => cases stands
    · exact .inr (look_put found name _ below)
  exact {
    directory := fun stands => by
      rcases cases stands with ⟨rfl, _⟩ | same
      · exact later
      · exact (directory_of_look same stands).elim fun _ before => kept.directory before
    link := fun stands => by
      rcases cases stands with ⟨_, same⟩ | same
      · cases same
      · exact kept.link (link_of_look same stands)
    file := fun stands => by
      rcases cases stands with ⟨_, same⟩ | same
      · cases same
      · exact kept.file ((filesAgree_of_look same _).mp stands) }

namespace Site
variable {site after : Site} {path : Path} {content : Bytes}

theorem makeDirectory_links (made : site.makeDirectory path = .ok after) :
    site.root.NoMoreLinks after.root := by
  obtain ⟨parent, name, entries, found, _, _, rfl⟩ := makeDirectory_cases made
  exact Item.noMoreLinks_put found name (Item.linkless_directory fun _ member =>
    absurd member List.not_mem_nil)

theorem makeDirectoriesFrom_links (fuel : Nat) (site : Site) (path : Path) :
    site.root.NoMoreLinks (makeDirectoriesFrom fuel site path).1.root := by
  fun_induction makeDirectoriesFrom fuel site path
  case case1 made => exact makeDirectory_links made
  case case3 above ih | case5 above _ _ _ ih | case6 above _ _ _ _ ih | case7 above _ _ _ _ ih |
      case8 above _ _ _ _ _ ih =>
    rw [above] at ih
    exact ih
  case case4 above _ made ih =>
    rw [above] at ih
    exact ih.trans (makeDirectory_links made)
  case case2 | case9 | case10 | case11 | case12 => exact .refl _

theorem makeDirectories_links (site : Site) (path : Path) :
    site.root.NoMoreLinks (site.makeDirectories path).1.root := by
  unfold makeDirectories
  split
  · exact .refl _
  · exact makeDirectoriesFrom_links _ _ _

theorem write_links (named : path.names ≠ []) (site : Site) (content : Bytes) :
    site.root.NoMoreLinks (site.write path content).1.root := by
  rcases write_cases named site content with
    ⟨error, failed⟩ | ⟨parent, name, entries, held, _, found, _, _, wrote⟩
  · rw [failed]
    exact .refl _
  · rw [wrote]
    exact Item.noMoreLinks_put found name (Item.linkless_file held)

theorem writeFile_links (site : Site) (path : Path) (content : Bytes) :
    site.root.NoMoreLinks (Store.writeFile site path content).1.root := by
  by_cases named : path.names = []
  · obtain ⟨_, failed, _⟩ := writeFile_unnamed named site content
    rw [failed]
    exact .refl _
  · have made := makeDirectories_links site path.parent
    unfold Store.writeFile
    split
    · exact .refl _
    · split
      next stopped =>
        rw [stopped] at made
        exact made
      next between ready =>
        rw [ready] at made
        split
        · exact made
        · exact made.trans (write_links named between content)

variable {tree : Item}

theorem short_of_place {reach : Reach} {place : Place}
    (placed : site.place reach path = .ok place) : path.toText.utf8ByteSize < Site.pathLimit := by
  unfold Site.place at placed
  dsimp only at placed
  split at placed
  · cases placed
  next short => exact Nat.not_le.mp short

theorem short_parent (short : path.toText.utf8ByteSize < Site.pathLimit) :
    path.parent.toText.utf8ByteSize < Site.pathLimit := by
  by_cases named : path.names = []
  · rwa [parent_of_unnamed named]
  · have whole : path.names = path.parent.names ++ [path.names.getLast named] :=
      (List.dropLast_concat_getLast named).symm
    have text : path.toText = path.root ++ join "/" path.names := by
      unfold Path.toText
      rw [if_neg]
      simp [named]
    have less := size_join_le path.parent.names [path.names.getLast named]
    rw [← whole] at less
    rw [text, String.utf8ByteSize_append] at short
    unfold Path.toText
    split
    · decide
    · rw [String.utf8ByteSize_append]
      change path.root.utf8ByteSize + _ < Site.pathLimit
      omega

theorem place_of_paved (short : path.toText.utf8ByteSize < Site.pathLimit)
    (paved : Paved site.root [] (site.namesOf path)) (reach : Reach) :
    site.place reach path = .ok (endPlace [] (site.namesOf path)) := by
  have located := paved.locate_append reach linkLimit []
  rw [List.append_nil, locate] at located
  unfold place
  rw [if_neg (Nat.not_le.mpr short), located]

theorem place_of_missing {reach : Reach} (short : path.toText.utf8ByteSize < Site.pathLimit)
    (missing : locate site.root reach linkLimit [] (site.namesOf path) = .error .missing) :
    site.place reach path = .error ⟨.missing, path.toText⟩ := by
  unfold place
  rw [if_neg (Nat.not_le.mpr short), missing]

theorem isDirectory_of_paved (clean : hasNul path = false)
    (short : path.toText.utf8ByteSize < Site.pathLimit)
    (paved : Paved site.root [] (site.namesOf path)) :
    site.isDirectory? path = .ok true := by
  obtain ⟨entries, found⟩ := paved.done
  have item : site.item path = .ok (.directory entries) := by
    rw [Site.item, place_of_paved short paved]
    dsimp only [Bind.bind, Except.bind]
    rw [found]
  rw [isDirectory?, probe, clean, item]
  rfl

theorem makeDirectory_present (short : path.toText.utf8ByteSize < Site.pathLimit)
    (there : Paved site.root [] (site.namesOf path)) :
    site.makeDirectory path = .error ⟨.exists, path.toText⟩ := by
  unfold makeDirectory
  rw [place_of_paved short there]

theorem makeDirectoriesFrom_present (clean : hasNul path = false)
    (short : path.toText.utf8ByteSize < Site.pathLimit)
    (there : Paved site.root [] (site.namesOf path))
    (fuel : Nat) : makeDirectoriesFrom fuel site path = (site, .ok ()) := by
  unfold makeDirectoriesFrom
  rw [makeDirectory_present short there, isDirectory_of_paved clean short there]

theorem makeDirectory_paved (ahead : Onward site tree)
    (paved : Paved tree [] (site.namesOf path)) (named : path.names ≠ [])
    (short : path.toText.utf8ByteSize < Site.pathLimit)
    (above : Paved site.root [] (site.namesOf path.parent)) :
    (Paved site.root [] (site.namesOf path) ∧
        site.makeDirectory path = .error ⟨.exists, path.toText⟩) ∨
      ∃ after, site.makeDirectory path = .ok after ∧ Later site after ∧
        Onward after tree ∧ Paved after.root [] (after.namesOf path) := by
  have kept := ahead.kept
  have ends := namesOf_parent site named
  have placed := place_of_paved (short_parent short) above .existing
  have follows : Reach.itself ≠ .toMake := Reach.noConfusion
  obtain ⟨_, _, fits, lasts⟩ := Paved.append_iff.mp (ends ▸ paved)
  rcases paved.before kept above.start follows linkLimit with there | missing
  · exact .inl ⟨there, makeDirectory_present short there⟩
  · obtain ⟨entries, found, free⟩ := absent_of_missing (locate_of_place placed) (ends ▸ missing)
    have down : path.name ≠ ".." := by
      intro up
      rw [ends, above.locate_append, up, locate_up ⟨entries, found⟩, locate] at missing
      cases missing
    rw [nextPlace_down down] at lasts
    have grown := Item.kept_put_absent found free (.directory [])
    have stands : (site.root.put (endPlace [] (site.namesOf path.parent) ++ [path.name])
        (.directory [])).HasDirectory (endPlace [] (site.namesOf path.parent) ++ [path.name]) := by
      have below := Item.get?_put_below found path.name (.directory []) []
      rw [List.append_nil, Item.get?_nil] at below
      exact ⟨[], below⟩
    have absent : site.root.get? (endPlace [] (site.namesOf path.parent) ++ [path.name]) = none :=
      (Item.get?_snoc found path.name).trans free
    have open' (fault : OsFault) : site.writing
        (endPlace [] (site.namesOf path.parent) ++ [path.name]) ≠ .refused fault := by
      rcases ahead.free _ ⟨_, lasts.choose_spec⟩ with ⟨_, present⟩ | open'
      · cases absent.symm.trans present
      · exact open' fault
    have later : Later site (site.withRoot (site.root.put
        (endPlace [] (site.namesOf path.parent) ++ [path.name]) (.directory []))) :=
      { site := rfl
        kept := grown
        free := fun place there => (Item.present_put found (fun _ _ => rfl) there).imp_right
          fun (same : place = _) fault => same ▸ open' fault }
    refine .inr ⟨_, ?_, later, later.onward ahead (kept.put_directory found lasts), ?_⟩
    · unfold makeDirectory
      rw [place_of_missing short missing, placed]
      dsimp only
      split
      next fault refused => exact absurd refused (open' fault)
      · rfl
    · change Paved _ [] (site.namesOf path)
      rw [ends]
      exact Paved.append_iff.mpr ⟨above.kept grown, (above.kept grown).done, fits,
        (nextPlace_down down _).symm ▸ stands⟩

theorem makeDirectoriesFrom_paved {fuel : Nat} (ahead : Onward site tree)
    (paved : Paved tree [] (site.namesOf path))
    (base : Paved site.root [] (site.namesOf { path with names := [] }))
    (clean : hasNul path = false) (short : path.toText.utf8ByteSize < Site.pathLimit)
    (enough : path.names.length ≤ fuel) :
    ∃ after, makeDirectoriesFrom fuel site path = (after, .ok ()) ∧ Later site after ∧
      Onward after tree ∧ Paved after.root [] (after.namesOf path) := by
  have kept := ahead.kept
  have root := base.start
  have bare {path : Path} (empty : path.names = []) : { path with names := [] } = path :=
    congrArg (Path.mk path.root) empty.symm
  induction fuel generalizing path with
  | zero =>
      have empty := List.length_eq_zero_iff.mp (Nat.le_zero.mp enough)
      have there : Paved site.root [] (site.namesOf path) := bare empty ▸ base
      exact ⟨site, makeDirectoriesFrom_present clean short there 0, .refl site, ahead, there⟩
  | succ fuel ih =>
      by_cases there : Paved site.root [] (site.namesOf path)
      · exact ⟨site, makeDirectoriesFrom_present clean short there _, .refl site, ahead, there⟩
      · have named : path.names ≠ [] := fun empty => there (bare empty ▸ base)
        by_cases above : Paved site.root [] (site.namesOf path.parent)
        · obtain ⟨again, _⟩ | ⟨after, made, later, still, now⟩ :=
            makeDirectory_paved ahead paved named short above
          · exact absurd again there
          · refine ⟨after, ?_, later, still, now⟩
            unfold makeDirectoriesFrom
            rw [made]
        · have filled : ¬path.names.isEmpty = true := fun empty => named (List.isEmpty_iff.mp empty)
          have higher : Paved tree [] (site.namesOf path.parent) :=
            (Paved.append_iff.mp (namesOf_parent site named ▸ paved)).1
          have absent : site.makeDirectory path = .error ⟨.missing, path.toText⟩ := by
            have itself : locate site.root .itself linkLimit [] (site.namesOf path) = _ :=
              (paved.before kept root Reach.noConfusion linkLimit).resolve_left there
            have parent : locate site.root .existing linkLimit [] (site.namesOf path.parent) = _ :=
              (higher.before kept root Reach.noConfusion linkLimit).resolve_left above
            unfold makeDirectory
            rw [place_of_missing short itself, place_of_missing (short_parent short) parent]
          have fewer : path.parent.names.length ≤ fuel := by
            rw [Path.parent, List.length_dropLast]
            exact Nat.sub_le_of_le_add enough
          obtain ⟨between, ready, later, still, parent⟩ := ih higher base
            (Store.hasNul_parent clean) (short_parent short) fewer
          rw [← later.namesOf_eq] at paved
          obtain ⟨now, refused⟩ | ⟨after, made, onward, kept, now⟩ :=
            makeDirectory_paved still paved named short parent
          · refine ⟨between, ?_, later, still, now⟩
            have present := isDirectory_of_paved clean short now
            unfold makeDirectoriesFrom
            rw [absent]
            simp only [if_neg filled, ready, refused, present]
          · refine ⟨after, ?_, later.trans onward, kept, now⟩
            unfold makeDirectoriesFrom
            rw [absent]
            simp only [if_neg filled, ready, made]

theorem makeDirectories_paved (ahead : Onward site tree)
    (paved : Paved tree [] (site.namesOf path))
    (base : Paved site.root [] (site.namesOf { path with names := [] }))
    (clean : hasNul path = false) (short : path.toText.utf8ByteSize < Site.pathLimit) :
    ∃ after, site.makeDirectories path = (after, .ok ()) ∧ Later site after ∧
      Onward after tree ∧ Paved after.root [] (after.namesOf path) := by
  unfold makeDirectories
  by_cases there : site.isDirectory? path = .ok true
  · obtain ⟨_, place, _, placed, _⟩ := place_of_isDirectory there
    have follows : Reach.existing ≠ .toMake := Reach.noConfusion
    rcases paved.before ahead.kept base.start follows linkLimit with now | missing
    · exact ⟨site, by rw [there]; rfl, .refl site, ahead, now⟩
    · cases (locate_of_place placed).symm.trans missing
  · rw [if_neg]
    · exact makeDirectoriesFrom_paved ahead paved base clean short (Nat.le_succ _)
    · split
      next same => exact absurd same there
      next => exact Bool.false_ne_true

/-- A file is opened at the end of a path that is paved above it, unless that is refused there or a
directory stands there. -/
theorem write_of_paved {old : Bytes} (kept : Item.Kept site.root tree) (named : path.names ≠ [])
    (above : Paved site.root [] (site.namesOf path.parent)) (down : path.name ≠ "..")
    (fits : path.name.utf8ByteSize ≤ nameLimit) (short : path.toText.utf8ByteSize < Site.pathLimit)
    (file : tree.get? (endPlace [] (site.namesOf path.parent) ++ [path.name]) = some (.file old))
    (content : Bytes) :
    (∃ fault, site.writing (endPlace [] (site.namesOf path.parent) ++ [path.name]) =
        .refused fault) ∨
      (site.write path content).2 =
        site.ending (endPlace [] (site.namesOf path.parent) ++ [path.name]) := by
  obtain ⟨entries, found⟩ := above.done
  have plain (target : String) : site.root.get?
      (endPlace [] (site.namesOf path.parent) ++ [path.name]) ≠ some (.link target) :=
    fun linked => nomatch (kept.link linked).symm.trans file
  have free (listed : List (String × Item)) : site.root.get?
      (endPlace [] (site.namesOf path.parent) ++ [path.name]) ≠ some (.directory listed) := by
    intro stands
    obtain ⟨_, again⟩ := kept.directory stands
    cases again.symm.trans file
  have placed : site.place .toMake path =
      .ok (endPlace [] (site.namesOf path.parent) ++ [path.name]) := by
    unfold place
    rw [if_neg (Nat.not_le.mpr short), namesOf_parent site named, above.locate_append,
      locate_down found down fits plain]
    cases entries.lookup path.name with
    | none => rfl
    | some item => rw [locate]
  rcases write_at placed free content with ⟨fault, refused, _⟩ | ⟨held, _, wrote⟩
  · exact .inl ⟨fault, refused⟩
  · exact .inr (congrArg Prod.snd wrote)

/-- A path that starts in a directory, as the root is one, and goes through no link. -/
structure Straight (site : Site) (path : Path) : Prop where
  start : path.isAbsolute = false → site.isDirectory? (.ofText ".") = .ok true
  way : ∃ place, Way site.root 0 [] (site.namesOf path) place

theorem Straight.base {first : Site} {names : List String} (straight : first.Straight path)
    (early : Later first site) (kept : Item.Kept site.root tree)
    (paved : Paved tree [] (site.namesOf { path with names := names })) :
    Paved site.root [] (site.namesOf { path with names := [] }) := by
  have still : site.workingPlace = first.workingPlace := by rw [early.site]; rfl
  unfold namesOf at paved ⊢
  change Paved _ _ (if path.isAbsolute then names else site.workingPlace ++ names) at paved
  change Paved _ _ (if path.isAbsolute then [] else site.workingPlace ++ [])
  split at paved
  next absolute =>
    rw [if_pos absolute]
    exact kept.directory_root paved.start
  next relative =>
    obtain ⟨_, place, entries, placed, found⟩ :=
      place_of_isDirectory (straight.start (Bool.eq_false_iff.mpr relative))
    have located := locate_of_place placed
    change locate _ _ _ _ (first.workingPlace ++ []) = _ at located
    rw [List.append_nil] at located
    rw [if_neg relative, List.append_nil]
    rw [still] at paved ⊢
    have follows : Reach.existing ≠ .toMake := Reach.noConfusion
    rcases (Paved.append_iff.mp paved).1.before (early.kept.trans kept) (directory_top found)
      follows linkLimit with there | missing
    · exact there.kept early.kept
    · cases located.symm.trans missing

/-- A straight path that leads to a file later on fails for the site's reasons only where no file
can be opened. -/
theorem Straight.refused {first before : Site} (straight : first.Straight path)
    (early : Later first before) (late : Later before after)
    (fewer : first.root.NoMoreLinks after.root) (named : path.names ≠ []) {place : Place}
    {old : Bytes} (placed : after.place .existing path = .ok place)
    (file : after.root.get? place = some (.file old)) {content : Bytes} {error : OsError}
    (stopped : (Store.writeFile before path content).2 = .error (.os error)) :
    ∃ fault, before.writing place = .refused fault := by
  obtain ⟨end', way⟩ := straight.way
  rw [← (early.trans late).namesOf_eq] at way
  replace way := way.kept fewer
  have short := short_of_place placed
  have located := locate_of_place placed
  obtain ⟨_, again⟩ := exists_way Reach.noConfusion located
  obtain ⟨_, rfl⟩ := way.unique again
  rw [late.namesOf_eq, namesOf_parent before named] at way located
  obtain ⟨paved, down, fits, rfl⟩ := Paved.of_file way located file
  have base := straight.base early late.kept paved
  unfold Store.writeFile at stopped
  cases clean : hasNul path.parent with
  | true => simp [clean] at stopped
  | false =>
      obtain ⟨between, made, onward, ahead, above⟩ := makeDirectories_paved late.toOnward paved base
        clean (short_parent short)
      rw [← onward.namesOf_eq] at file
      rw [clean, made] at stopped
      rcases write_of_paved ahead.kept named above down fits short file content with
        ⟨fault, refused⟩ | wrote
      · rw [onward.writing_eq, onward.namesOf_eq] at refused
        exact ⟨fault, refused⟩
      · cases nul : hasNul path with
        | true => simp [nul] at stopped
        | false =>
            simp only [nul, Bool.false_eq_true, if_false, wrote, Site.ending] at stopped
            split at stopped <;> cases stopped

end Site

end SourceAtlas
