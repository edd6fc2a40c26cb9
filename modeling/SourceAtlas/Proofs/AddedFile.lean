import SourceAtlas.Proofs.SiteWrites
import SourceAtlas.Proofs.WalkGrowth

/-!
A tree with one file more, put under a free name of a directory. Links may lead to that name, so not
everybody sees the tree as it was; but who does not come to the file itself finds the same as
before, or still finds nothing.
-/
namespace SourceAtlas

open Text

/-- Where names led and where they lead now that there is one file more: past it, to the same, or,
having led to nothing, to the file or, if more names follow, against it. -/
inductive Aside (file : Place) (before now : Except OsFault Place) : Prop
  | past (same : now = before) (apart : ∀ place, before = .ok place → ¬file <+: place)
  | onto (missing : before = .error .missing) (reached : now = .ok file)
  | against (missing : before = .error .missing) (stopped : now = .error .notDirectory)

section AddedFile

variable {tree : Item} {parent : Place} {entries : List (String × Item)} {name : String}
  (found : tree.get? parent = some (.directory entries))
include found

theorem outlineAt_put_self (content : Bytes) :
    (tree.put (parent ++ [name]) (.file content)).outlineAt (parent ++ [name]) =
      some (.file []) := by
  have stands := Item.get?_put_below found name (.file content) []
  rw [List.append_nil, Item.get?_nil] at stands
  rw [Item.outlineAt, stands]
  rfl

variable (absent : entries.lookup name = none)
include absent

theorem apart_of_inside {here : Place} {listed : List (String × Item)} {next : String} {item : Item}
    (outside : ¬parent ++ [name] <+: here) (stands : tree.get? here = some (.directory listed))
    (inside : listed.lookup next = some item) : ¬parent ++ [name] <+: here ++ [next] := by
  intro below
  rcases List.prefix_concat_iff.mp below with same | above
  · have free := Item.get?_snoc found name
    rw [same, Item.get?_snoc stands, inside, absent] at free
    cases free
  · exact outside above

theorem locate_put_file (content : Bytes) {links : Nat} {here : Place} {names : List String}
    (outside : ¬parent ++ [name] <+: here) :
    Aside (parent ++ [name]) (locate tree .existing links here names)
      (locate (tree.put (parent ++ [name]) (.file content)) .existing links here names) := by
  have followed : (Reach.existing == Reach.itself) = false := rfl
  have unmade : (Reach.existing == Reach.toMake) = false := rfl
  have kept {place : Place} (apart : ¬parent ++ [name] <+: place) :
      (tree.put (parent ++ [name]) (.file content)).outlineAt place = tree.outlineAt place :=
    Item.outlineAt_of_look (Item.look_put found name (.file content) apart)
  have failed {fault : OsFault} : ∀ place, (.error fault : Except OsFault Place) = .ok place →
    ¬parent ++ [name] <+: place := fun _ same => nomatch same
  fun_induction locate tree .existing links here names
  case case1 => exact .past (by rw [locate]) fun place same => Except.ok.inj same ▸ outside
  case case4 making | case6 making =>
    simp only [unmade, followed, Bool.and_false, Bool.false_eq_true] at making
  all_goals rw [locate_cons, kept outside]
  case case2 stands up ih =>
    simp only [Item.outlineAt_directory stands, up, if_true]
    exact ih (Twins.outside_dropLast outside)
  case case3 stands down long =>
    simp only [Item.outlineAt_directory stands, if_neg down, long, if_true]
    exact .past rfl failed
  case case10 here _ _ astray =>
    refine .past ?_ failed
    unfold Item.outlineAt
    cases stands : tree.get? here with
    | none => rfl
    | some item =>
        cases item with
        | directory entries => exact absurd stands (astray entries)
        | file _ | link _ => rfl
  case case5 here next rest _ stands down short missing _ =>
    simp only [Item.outlineAt_directory stands, if_neg down, if_neg short]
    by_cases new : here ++ [next] = parent ++ [name]
    · rw [new, outlineAt_put_self found content]
      cases rest with
      | nil => exact .onto rfl (by rw [locate])
      | cons further more =>
          refine .against rfl ?_
          simp only [locate_cons, outlineAt_put_self found content]
    · have further : ¬parent ++ [name] <+: here ++ [next] := fun below =>
        (List.prefix_concat_iff.mp below).elim (fun same => new same.symm) outside
      rw [kept further, Item.outlineAt_snoc stands, missing]
      exact .past (by simp [unmade]) failed
  case case7 here next rest entries stands down short target inside asked =>
    rw [kept (apart_of_inside found absent outside stands inside)]
    simp only [Item.outlineAt_directory stands, Item.outlineAt_snoc stands, if_neg down,
      if_neg short, inside, Option.map_some, Item.outline, if_neg asked]
    exact .past rfl failed
  case case8 here next rest entries stands down short target inside _ links path ih =>
    have further := apart_of_inside found absent outside stands inside
    rw [kept further]
    simp only [Item.outlineAt_directory stands, Item.outlineAt_snoc stands, if_neg down,
      if_neg short, inside, Option.map_some, Item.outline, followed, Bool.and_false,
      Bool.false_eq_true, if_false]
    exact ih (Twins.outside_start outside _)
  case case9 here next rest entries stands down short item real inside ih =>
    have further := apart_of_inside found absent outside stands inside
    rw [kept further]
    simp only [Item.outlineAt_directory stands, Item.outlineAt_snoc stands, if_neg down,
      if_neg short, inside, Option.map_some]
    cases item with
    | link target => exact absurd rfl (real target)
    | file _ | directory _ => exact ih further

theorem agree_put_file (content : Bytes) {names : List String}
    (other : locate (tree.put (parent ++ [name]) (.file content)) .existing linkLimit [] names ≠
      .ok (parent ++ [name])) :
    Agree tree (tree.put (parent ++ [name]) (.file content)) names ∨
      locate tree .existing linkLimit [] names = .error .missing ∧
        locate (tree.put (parent ++ [name]) (.file content)) .existing linkLimit [] names =
          .error .notDirectory := by
  have start : ¬parent ++ [name] <+: [] := by simp
  cases @locate_put_file _ _ _ _ found absent content linkLimit [] names start with
  | past same apart =>
      refine .inl ⟨same.symm, fun place located => ?_⟩
      exact (Item.look_put found name (.file content) (apart place located)).symm
  | onto _ reached => exact absurd reached other
  | against missing stopped => exact .inr ⟨missing, stopped⟩

theorem leads_put_file (content : Bytes) {names : List String}
    (other : locate (tree.put (parent ++ [name]) (.file content)) .existing linkLimit [] names ≠
      .ok (parent ++ [name])) (bytes : Bytes) :
    (∃ place, locate (tree.put (parent ++ [name]) (.file content)) .existing linkLimit [] names =
        .ok place ∧ (tree.put (parent ++ [name]) (.file content)).get? place = some (.file bytes)) ↔
      ∃ place, locate tree .existing linkLimit [] names = .ok place ∧
        tree.get? place = some (.file bytes) := by
  rcases agree_put_file found absent content other with agree | ⟨missing, stopped⟩
  · rw [← agree.located]
    refine exists_congr fun place => and_congr_right fun located => ?_
    rw [← Item.look_file_iff, ← Item.look_file_iff, agree.looked place located]
  · simp [missing, stopped]

theorem sameLinks_put {new : Item} (linkless : new.Linkless) (still : new.linkSteps = 0) :
    SameLinks tree (tree.put (parent ++ [name]) new) where
  links place target := by
    refine (Item.link_put_iff found (fun rest target => ?_) linkless place target).symm
    rw [Item.get?_append, Item.get?_snoc found, absent]
    exact nofun
  steps := by
    refine (Item.linkSteps_put found ?_).symm
    rw [absent, still]
    rfl

theorem proper_putEntry (proper : tree.Proper) {new : Item} (named : ProperName name)
    (whole : new.Proper) : (Item.directory (Item.putEntry name new entries)).Proper := by
  have fresh : name ∉ entries.map Prod.fst := by
    intro member
    obtain ⟨entry, listed, rfl⟩ := List.mem_map.mp member
    have there := lookup_of_mem (proper.nodup found) listed
    rw [absent] at there
    cases there
  rw [putEntry_of_absent absent]
  cases (proper.of_get? found).2 with
  | directory names apart items =>
      refine .directory ?_ ?_ ?_
      · exact List.forall_mem_append.mpr ⟨names, List.forall_mem_singleton.mpr named⟩
      · rw [List.map_append]
        refine List.nodup_append.mpr ⟨apart, List.nodup_singleton _, ?_⟩
        rintro other inside _ last rfl
        obtain rfl : other = name := List.mem_singleton.mp last
        exact fresh inside
      · exact List.forall_mem_append.mpr ⟨items, List.forall_mem_singleton.mpr whole⟩

end AddedFile

theorem get?_putEntry_file {entries : List (String × Item)} {name : String}
    (absent : entries.lookup name = none) (content : Bytes) {names : List String}
    (filled : names ≠ []) (other : names ≠ [name]) :
    (Item.directory (Item.putEntry name (.file content) entries)).get? names =
      (Item.directory entries).get? names := by
  obtain ⟨first, rest, rfl⟩ := List.exists_cons_of_ne_nil filled
  by_cases same : first = name
  · subst same
    obtain ⟨next, more, rfl⟩ := List.exists_cons_of_ne_nil fun nil => other (nil ▸ rfl)
    simp [Item.get?, Item.lookup_putEntry_self, absent]
  · simp only [Item.get?, Item.lookup_putEntry_of_ne same]

namespace Site

theorem item_file_iff {site : Site} {names : Place} {bytes : Bytes} :
    site.item (.ofPlace names) = .ok (.file bytes) ↔
      (Path.ofPlace names).toText.utf8ByteSize < pathLimit ∧
        ∃ place, locate site.root .existing linkLimit [] names = .ok place ∧
          site.root.get? place = some (.file bytes) := by
  unfold item Site.place
  rw [namesOf_ofPlace]
  by_cases long : (Path.ofPlace names).toText.utf8ByteSize ≥ pathLimit
  · rw [if_pos long]
    exact iff_of_false nofun fun ⟨short, _⟩ => absurd long (Nat.not_le.mpr short)
  · rw [if_neg long, and_iff_right (Nat.not_le.mp long)]
    cases locate site.root .existing linkLimit [] names with
    | error fault => exact iff_of_false nofun nofun
    | ok place =>
        cases found : site.root.get? place <;> simp [found, bind, Except.bind]

def withFile (site : Site) (parent : Place) (name : String) (content : Bytes) : Site :=
  site.withRoot (site.root.put (parent ++ [name]) (.file content))

variable {site : Site} {parent : Place} {entries : List (String × Item)} {name : String}
  (found : site.root.get? parent = some (.directory entries)) (content : Bytes)
include found

theorem withFile_found : (site.withFile parent name content).root.get? parent =
    some (.directory (Item.putEntry name (.file content) entries)) :=
  Item.get?_put_above found (List.cons_ne_nil name []) _

variable (absent : entries.lookup name = none)
include absent

theorem item_withFile {names : List String}
    (other : locate (site.withFile parent name content).root .existing linkLimit [] names ≠
      .ok (parent ++ [name])) (bytes : Bytes) :
    (site.withFile parent name content).item (.ofPlace names) = .ok (.file bytes) ↔
      site.item (.ofPlace names) = .ok (.file bytes) := by
  have leads := leads_put_file found absent content other bytes
  rw [item_file_iff, item_file_iff]
  exact and_congr_right fun _ => leads

theorem read_withFile {names : List String}
    (other : locate (site.withFile parent name content).root .existing linkLimit [] names ≠
      .ok (parent ++ [name])) (bytes : Bytes) :
    (site.withFile parent name content).read (.ofPlace names) = .ok bytes ↔
      site.read (.ofPlace names) = .ok bytes := by
  rcases agree_put_file found absent content other with agree | ⟨missing, stopped⟩
  · have same : (site.withFile parent name content).read (.ofPlace names) =
      site.read (.ofPlace names) := Agree.read_eq agree
    rw [same]
  · have unread {site : Site} {fault : OsFault}
        (astray : locate site.root .existing linkLimit [] names = .error fault) :
        site.read (.ofPlace names) ≠ .ok bytes := by
      have absent : site.content (.ofPlace names) ≠ .ok bytes := by
        rw [content_face, item_face, namesOf_ofPlace, astray]
        split <;> exact nofun
      unfold Site.read
      split
      · exact nofun
      · exact absent
    exact iff_of_false (unread stopped) (unread missing)

theorem resolve_withFile (fits : Fits (.ofPlace parent)) (down : ".." ∉ parent) {path : Path}
    (resolved : site.resolve path = .ok (.ofPlace parent)) :
    (site.withFile parent name content).resolve path = .ok (.ofPlace parent) := by
  have located : locate site.root .existing linkLimit [] parent = .ok parent := by
    have below := locate_below fits down found .existing []
    rwa [List.append_nil, locate] at below
  have links := sameLinks_put found absent (Item.linkless_file content) rfl
  refine links.resolve_eq resolved ?_
  have other : locate (site.withFile parent name content).root .existing linkLimit [] parent ≠
      .ok (parent ++ [name]) := by
    have there := @withFile_found site parent entries name found content
    have below := locate_below fits down there .existing []
    rw [List.append_nil, locate] at below
    rw [below]
    simp
  rcases agree_put_file found absent content other with agree | ⟨missing, _⟩
  · exact agree
  · cases located.symm.trans missing

end Site

end SourceAtlas
