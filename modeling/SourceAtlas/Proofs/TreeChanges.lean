import SourceAtlas.Proofs.TreePlaces

/-!
Putting an item at one place of a tree. Away from the place nothing changes, a directory on the way
to it apart, which stays a directory; so who does not come to the place cannot tell the difference.
-/
namespace SourceAtlas

open Text

namespace Item

def face : Item → Item
  | .directory _ => .directory []
  | item => item

/-- What is seen at a place by one who does not look below it. -/
def look (tree : Item) (place : Place) : Option Item := (tree.get? place).map face

def outline : Item → Item
  | .file _ => .file []
  | .link target => .link target
  | .directory _ => .directory []

def outlineAt (tree : Item) (place : Place) : Option Item := (tree.get? place).map outline

theorem outlineAt_of_look {a b : Item} {place : Place} (same : a.look place = b.look place) :
    a.outlineAt place = b.outlineAt place := by
  have through (tree : Item) : tree.outlineAt place = (tree.look place).map outline := by
    unfold look outlineAt
    rw [Option.map_map]
    refine congrArg (Option.map · _) (funext fun item => ?_)
    cases item <;> rfl
  rw [through, through, same]

theorem look_file_iff {tree : Item} {place : Place} {content : Bytes} :
    tree.look place = some (.file content) ↔ tree.get? place = some (.file content) := by
  unfold look
  cases tree.get? place with
  | none => simp
  | some item => cases item <;> simp [face]

theorem lookup_putEntry_self (name : String) (item : Item) (entries : List (String × Item)) :
    (putEntry name item entries).lookup name = some item := by
  induction entries with
  | nil => exact List.lookup_cons_self
  | cons entry rest ih =>
      obtain ⟨n, i⟩ := entry
      unfold putEntry
      split
      next same =>
        rw [beq_iff_eq.mp same]
        exact List.lookup_cons_self
      next other =>
        have apart : (name == n) = false :=
          beq_false_of_ne fun same => other (beq_iff_eq.mpr same.symm)
        rw [List.lookup_cons, apart]
        exact ih

theorem lookup_putEntry_of_ne {name other : String} (apart : other ≠ name) (item : Item)
    (entries : List (String × Item)) :
    (putEntry name item entries).lookup other = entries.lookup other := by
  induction entries with
  | nil => simp [putEntry, List.lookup_cons, beq_false_of_ne apart]
  | cons entry rest ih =>
      obtain ⟨n, i⟩ := entry
      unfold putEntry
      split
      next same =>
        have different : (other == n) = false := by
          rw [beq_iff_eq.mp same]
          exact beq_false_of_ne apart
        simp only [List.lookup_cons, different]
      next => simp only [List.lookup_cons, ih]

theorem putEntry_putEntry (name : String) (first second : Item)
    (entries : List (String × Item)) :
    putEntry name second (putEntry name first entries) = putEntry name second entries := by
  induction entries with
  | nil => simp [putEntry]
  | cons entry rest ih =>
      obtain ⟨n, i⟩ := entry
      by_cases same : n = name <;> simp [putEntry, same, ih]

theorem map_fst_putEntry {entries : List (String × Item)} {name : String} {old : Item}
    (there : entries.lookup name = some old) (item : Item) :
    (putEntry name item entries).map Prod.fst = entries.map Prod.fst := by
  induction entries with
  | nil => cases there
  | cons entry rest ih =>
      obtain ⟨n, i⟩ := entry
      unfold putEntry
      split
      next same => rfl
      next other =>
        have apart : (name == n) = false :=
          beq_false_of_ne fun same => other (beq_iff_eq.mpr same.symm)
        rw [List.lookup_cons, apart] at there
        rw [List.map_cons, List.map_cons, ih there]

theorem snd_of_mem_putEntry {entries : List (String × Item)} {name : String} {item : Item}
    {entry : String × Item} (member : entry ∈ putEntry name item entries) :
    entry.2 = item ∨ entry ∈ entries := by
  induction entries with
  | nil => exact .inl (congrArg Prod.snd (List.mem_singleton.mp member))
  | cons first rest ih =>
      obtain ⟨n, i⟩ := first
      unfold putEntry at member
      split at member
      · rcases List.mem_cons.mp member with same | later
        · exact .inl (congrArg Prod.snd same)
        · exact .inr (List.mem_cons_of_mem _ later)
      · rcases List.mem_cons.mp member with same | later
        · exact .inr (same ▸ List.mem_cons_self)
        · exact (ih later).imp id (List.mem_cons_of_mem _)

theorem put_cons {entries : List (String × Item)} {name : String} {child : Item}
    (inside : entries.lookup name = some child) {rest : Place} (more : rest ≠ []) (new : Item) :
    (Item.directory entries).put (name :: rest) new =
      .directory (putEntry name (child.put rest new) entries) := by
  obtain ⟨next, others, rfl⟩ := List.exists_cons_of_ne_nil more
  simp only [put, inside]

theorem Proper.put {tree old : Item} {place : Place} (proper : tree.Proper)
    (found : tree.get? place = some old) {new : Item} (fresh : new.Proper) :
    (tree.put place new).Proper := by
  induction place generalizing tree with
  | nil =>
      rw [Item.put]
      exact fresh
  | cons name rest ih =>
      obtain ⟨entries, child, rfl, inside, below⟩ := exists_entry found
      cases proper with
      | directory names apart items =>
          have entry {item : Item} (whole : item.Proper) :
              (Item.directory (putEntry name item entries)).Proper := by
            have same := map_fst_putEntry inside item
            refine .directory (fun e member => ?_) (same ▸ apart) (fun e member => ?_)
            · have listed := List.mem_map_of_mem (f := Prod.fst) member
              rw [same] at listed
              obtain ⟨other, was, is⟩ := List.mem_map.mp listed
              exact is ▸ names other was
            · rcases snd_of_mem_putEntry member with is | was
              · exact is ▸ whole
              · exact items e was
          by_cases more : rest = []
          · subst more
            exact entry fresh
          · rw [put_cons inside more]
            exact entry (ih (items _ (mem_of_lookup inside)) below)

theorem get?_put_above {tree sub : Item} {above : Place} (found : tree.get? above = some sub)
    {rest : Place} (more : rest ≠ []) (new : Item) :
    (tree.put (above ++ rest) new).get? above = some (sub.put rest new) := by
  induction above generalizing tree with
  | nil =>
      rw [get?_nil] at found
      rw [Option.some.inj found, List.nil_append, get?_nil]
  | cons name others ih =>
      obtain ⟨entries, child, rfl, inside, below⟩ := exists_entry found
      rw [List.cons_append, put_cons inside (List.append_ne_nil_of_right_ne_nil _ more), get?,
        lookup_putEntry_self]
      exact ih below

theorem look_put {tree : Item} {parent : Place} {entries : List (String × Item)}
    (found : tree.get? parent = some (.directory entries)) (name : String) (new : Item)
    {place : Place} (apart : ¬parent ++ [name] <+: place) :
    (tree.put (parent ++ [name]) new).look place = tree.look place := by
  induction parent generalizing tree place with
  | nil =>
      rw [get?_nil] at found
      rw [Option.some.inj found]
      cases place with
      | nil => rfl
      | cons first rest =>
          have other : first ≠ name := by
            rintro rfl
            exact apart (List.prefix_append [first] rest)
          simp only [List.nil_append, look, put, get?, lookup_putEntry_of_ne other]
  | cons next others ih =>
      obtain ⟨listed, child, rfl, inside, below⟩ := exists_entry found
      rw [List.cons_append, put_cons inside (List.append_ne_nil_of_right_ne_nil _ (by simp))]
      cases place with
      | nil => rfl
      | cons first rest =>
          by_cases same : first = next
          · subst same
            have further : ¬others ++ [name] <+: rest := fun front =>
              apart (List.cons_prefix_cons.mpr ⟨rfl, front⟩)
            have deeper := ih below further
            simp only [look, get?, lookup_putEntry_self, inside, Option.bind_some] at deeper ⊢
            exact deeper
          · simp only [look, get?, lookup_putEntry_of_ne same]

theorem put_put {tree : Item} {parent : Place} {entries : List (String × Item)}
    (found : tree.get? parent = some (.directory entries)) (name inner : String) (file : Item) :
    (tree.put (parent ++ [name]) (.directory [])).put (parent ++ [name] ++ [inner]) file =
      tree.put (parent ++ [name]) (.directory [(inner, file)]) := by
  induction parent generalizing tree with
  | nil =>
      rw [get?_nil] at found
      rw [Option.some.inj found]
      simp only [List.nil_append, List.singleton_append, put, lookup_putEntry_self,
        putEntry_putEntry, putEntry]
  | cons next others ih =>
      obtain ⟨listed, child, rfl, inside, below⟩ := exists_entry found
      have more : others ++ [name] ≠ [] := by simp
      have further : others ++ [name] ++ [inner] ≠ [] := by simp
      rw [List.cons_append, List.cons_append, put_cons inside more, put_cons inside more,
        put_cons (lookup_putEntry_self _ _ _) further, putEntry_putEntry, ih below]

theorem link_of_look {a b : Item} {place : Place} (same : a.look place = b.look place)
    {target : String} (found : a.get? place = some (.link target)) :
    b.get? place = some (.link target) := by
  rw [look, look, found] at same
  cases other : b.get? place with
  | none => simp [other] at same
  | some item =>
      rw [other] at same
      cases item <;> simp_all [face]

/-- What can be put in a place without making a link. -/
def Linkless (item : Item) : Prop := ∀ place target, item.get? place ≠ some (.link target)

theorem linkless_file (content : Bytes) : (Item.file content).Linkless := by
  intro place target
  cases place <;> simp [get?]

theorem linkless_directory {entries : List (String × Item)}
    (items : ∀ entry ∈ entries, entry.2.Linkless) : (Item.directory entries).Linkless := by
  intro place target found
  cases place with
  | nil => simp at found
  | cons first rest =>
      obtain ⟨listed, child, same, inside, below⟩ := exists_entry found
      cases same
      exact items _ (mem_of_lookup inside) rest target below

theorem linkless_single (name : String) (content : Bytes) :
    (Item.directory [(name, .file content)]).Linkless :=
  linkless_directory (List.forall_mem_singleton.mpr (linkless_file content))

theorem get?_put_below {tree : Item} {parent : Place} {entries : List (String × Item)}
    (found : tree.get? parent = some (.directory entries)) (name : String) (new : Item)
    (rest : Place) : (tree.put (parent ++ [name]) new).get? (parent ++ [name] ++ rest) =
      new.get? rest := by
  have above := get?_put_above found (List.cons_ne_nil name []) new
  rw [List.append_assoc, get?_append, above]
  simp [put, get?, lookup_putEntry_self]

theorem outlineAt_put_file {tree : Item} {parent : Place} {name : String} {old : Bytes}
    (found : tree.get? (parent ++ [name]) = some (.file old)) (content : Bytes) (place : Place) :
    (tree.put (parent ++ [name]) (.file content)).outlineAt place = tree.outlineAt place := by
  obtain ⟨entries, above, _⟩ := exists_directory_of_snoc found
  by_cases below : parent ++ [name] <+: place
  · obtain ⟨rest, rfl⟩ := below
    unfold outlineAt
    rw [get?_put_below above, get?_append, found, Option.bind_some]
    cases rest <;> rfl
  · exact outlineAt_of_look (look_put above name (.file content) below)

theorem link_put_iff {tree : Item} {parent : Place} {entries : List (String × Item)}
    (found : tree.get? parent = some (.directory entries)) {name : String} {new : Item}
    (before : ∀ rest target, tree.get? (parent ++ [name] ++ rest) ≠ some (.link target))
    (linkless : new.Linkless) (place : Place) (target : String) :
    (tree.put (parent ++ [name]) new).get? place = some (.link target) ↔
      tree.get? place = some (.link target) := by
  by_cases below : parent ++ [name] <+: place
  · obtain ⟨rest, rfl⟩ := below
    rw [get?_put_below found]
    exact iff_of_false (linkless rest target) (before rest target)
  · have same := look_put found name new below
    exact ⟨link_of_look same, link_of_look same.symm⟩

theorem linkStepsAll_putEntry (name : String) (new : Item) (entries : List (String × Item)) :
    linkStepsAll (putEntry name new entries) + ((entries.lookup name).elim 0 linkSteps) =
      linkStepsAll entries + new.linkSteps := by
  induction entries with
  | nil => simp [putEntry, linkStepsAll, linkStepsIn]
  | cons entry rest ih =>
      obtain ⟨n, i⟩ := entry
      unfold putEntry
      split
      next same =>
        rw [beq_iff_eq.mp same, List.lookup_cons_self]
        simp only [linkStepsAll, linkStepsIn, Option.elim_some]
        omega
      next other =>
        have apart : (name == n) = false :=
          beq_false_of_ne fun same => other (beq_iff_eq.mpr same.symm)
        rw [List.lookup_cons, apart]
        simp only [linkStepsAll, linkStepsIn]
        omega

theorem linkSteps_put_add {tree : Item} {parent : Place} {entries : List (String × Item)}
    (found : tree.get? parent = some (.directory entries)) (name : String) (new : Item) :
    (tree.put (parent ++ [name]) new).linkSteps + (entries.lookup name).elim 0 linkSteps =
      tree.linkSteps + new.linkSteps := by
  induction parent generalizing tree with
  | nil =>
      rw [get?_nil] at found
      rw [Option.some.inj found]
      exact linkStepsAll_putEntry name new entries
  | cons next others ih =>
      obtain ⟨listed, child, rfl, inside, below⟩ := exists_entry found
      have more : others ++ [name] ≠ [] := by simp
      have whole := linkStepsAll_putEntry next (child.put (others ++ [name]) new) listed
      have deeper := ih below
      rw [inside, Option.elim_some] at whole
      rw [List.cons_append, put_cons inside more]
      simp only [linkSteps]
      omega

theorem linkSteps_put {tree : Item} {parent : Place} {entries : List (String × Item)}
    (found : tree.get? parent = some (.directory entries)) {name : String} {new : Item}
    (same : (entries.lookup name).elim 0 linkSteps = new.linkSteps) :
    (tree.put (parent ++ [name]) new).linkSteps = tree.linkSteps := by
  have whole := linkSteps_put_add found name new
  omega

end Item

end SourceAtlas
