import SourceAtlas.Proofs.TwinTrees

/-!
Sites that differ in their trees only. A path whose names lead to the same in both trees is read,
probed and resolved with the same answer.
-/
namespace SourceAtlas

open Text

namespace Site

theorem item_face (site : Site) (path : Path) :
    (site.item path).map Item.face =
      if path.toText.utf8ByteSize ≥ Site.pathLimit then .error ⟨.nameTooLong, path.toText⟩
      else match locate site.root .existing linkLimit [] (site.namesOf path) with
        | .error fault => .error ⟨fault, path.toText⟩
        | .ok place => match site.root.look place with
          | some item => .ok item
          | none => .error ⟨.missing, path.toText⟩ := by
  unfold item place
  by_cases long : path.toText.utf8ByteSize ≥ Site.pathLimit
  · simp only [if_pos long]
    rfl
  · simp only [if_neg long]
    cases locate site.root .existing linkLimit [] (site.namesOf path) with
    | error fault => rfl
    | ok place =>
        change Except.map Item.face (match site.root.get? place with
          | some item => .ok item
          | none => .error (⟨.missing, path.toText⟩ : OsError)) = _
        simp only [Item.look]
        cases site.root.get? place <;> rfl

theorem content_face (site : Site) (path : Path) :
    site.content path = ((site.item path).map Item.face).bind fun item => match item with
      | .file content => .ok content
      | _ => .error ⟨.isDirectory, path.toText⟩ := by
  unfold content
  cases site.item path with
  | error error => rfl
  | ok item => cases item <;> rfl

theorem probe_face (site : Site) (path : Path) :
    (site.probe path).map (Option.map Item.face) =
      if hasNul path then .ok none
      else match (site.item path).map Item.face with
        | .ok item => .ok (some item)
        | .error e =>
            if e.fault == .nameTooLong || e.fault == .denied then .error e else .ok none := by
  unfold probe
  split
  · rfl
  · cases site.item path with
    | ok item => rfl
    | error error =>
        by_cases fatal : (error.fault == .nameTooLong || error.fault == .denied) = true <;>
          simp [Except.map, fatal]

theorem exists_face (site : Site) (path : Path) :
    site.exists? path = ((site.probe path).map (Option.map Item.face)).map Option.isSome := by
  unfold exists?
  cases site.probe path with
  | error error => rfl
  | ok found => cases found <;> rfl

end Site

namespace Agree
variable {site : Site} {other : Item} {path : Path}

theorem item_face (agree : Agree site.root other (site.namesOf path)) :
    ((site.withRoot other).item path).map Item.face = (site.item path).map Item.face := by
  rw [Site.item_face, Site.item_face]
  split
  · rfl
  · change (match locate other .existing linkLimit [] (site.namesOf path) with
      | .error fault => _
      | .ok place => match other.look place with
        | some item => _
        | none => _) = _
    rw [← agree.located]
    cases located : locate site.root .existing linkLimit [] (site.namesOf path) with
    | error fault => rfl
    | ok place => simp only [agree.looked place located]

theorem content_eq (agree : Agree site.root other (site.namesOf path)) :
    (site.withRoot other).content path = site.content path := by
  rw [Site.content_face, Site.content_face, agree.item_face]

theorem place_eq (agree : Agree site.root other (site.namesOf path)) :
    (site.withRoot other).place .existing path = site.place .existing path := by
  have located : locate (site.withRoot other).root .existing linkLimit []
      ((site.withRoot other).namesOf path) = locate site.root .existing linkLimit []
      (site.namesOf path) := agree.located.symm
  unfold Site.place
  rw [located]

theorem read_eq (agree : Agree site.root other (site.namesOf path)) :
    (site.withRoot other).read path = site.read path := by
  have closed : (site.withRoot other).isUnreadable path = site.isUnreadable path := by
    unfold Site.isUnreadable
    rw [agree.place_eq]
    rfl
  rw [Site.read, Site.read, closed, agree.content_eq]

theorem exists_eq (agree : Agree site.root other (site.namesOf path)) :
    (site.withRoot other).exists? path = site.exists? path := by
  rw [Site.exists_face, Site.exists_face, Site.probe_face, Site.probe_face, agree.item_face]

end Agree

/-- Trees with the same links, and as much to follow in them. -/
structure SameLinks (a b : Item) : Prop where
  links : ∀ place target, a.get? place = some (.link target) ↔ b.get? place = some (.link target)
  steps : a.linkSteps = b.linkSteps

theorem resolveFrom_plain {tree : Item} {here : Place} {text : String} (down : text ≠ "..")
    (plain : ∀ target, tree.get? (here ++ [text]) ≠ some (.link target)) (fuel : Nat)
    (seen : List (Place × Option Place)) (rest : List ResolveStep) :
    resolveFrom tree (fuel + 1) seen here (.name text :: rest) =
      resolveFrom tree fuel seen (here ++ [text]) rest := by
  have kept : ¬(text == "..") = true := fun same => down (beq_iff_eq.mp same)
  simp only [resolveFrom, if_neg kept]

theorem SameLinks.resolveFrom_eq {a b : Item} (same : SameLinks a b) (fuel : Nat)
    (seen : List (Place × Option Place)) (here : Place) (steps : List ResolveStep) :
    resolveFrom a fuel seen here steps = resolveFrom b fuel seen here steps := by
  induction fuel generalizing seen here steps with
  | zero => cases steps <;> simp only [resolveFrom]
  | succ fuel ih =>
      cases steps with
      | nil => simp only [resolveFrom]
      | cons step rest =>
          cases step with
          | leave link => simp only [resolveFrom, ih]
          | name text =>
              by_cases up : text = ".."
              · simp only [resolveFrom, up, beq_self_eq_true, if_true, ih]
              · by_cases linked : ∃ target, a.get? (here ++ [text]) = some (.link target)
                · obtain ⟨target, found⟩ := linked
                  simp only [resolveFrom, found, (same.links _ target).mp found, ih]
                · have plain (target : String) : a.get? (here ++ [text]) ≠ some (.link target) :=
                    fun found => linked ⟨target, found⟩
                  rw [resolveFrom_plain up plain, ih, resolveFrom_plain up fun target found =>
                    plain target ((same.links _ target).mpr found)]

theorem SameLinks.resolve_eq {site : Site} {other : Item} (same : SameLinks site.root other)
    {path root : Path} (resolved : site.resolve path = .ok root)
    (agree : Agree site.root other root.names) :
    (site.withRoot other).resolve path = .ok root := by
  unfold Site.resolve at resolved ⊢
  split at resolved
  · cases resolved
  next clean =>
    have places := same.resolveFrom_eq ((site.namesOf path).length + site.root.linkSteps + 1) [] []
      ((site.namesOf path).map .name)
    simp only at resolved
    simp only [Site.withRoot, if_neg clean, ← same.steps, Site.namesOf] at places resolved ⊢
    rw [← places]
    generalize (resolveFrom site.root _ [] [] _).1 = place at resolved ⊢
    have kept : root = .ofPlace place := by
      split at resolved
      · cases resolved
      · exact (Except.ok.inj resolved).symm
    subst kept
    have located : locate site.root .existing linkLimit [] place =
      locate other .existing linkLimit [] place := agree.located
    rw [← located]
    exact resolved

theorem resolveFrom_self {tree item : Item} {here names : Place}
    (found : tree.get? (here ++ names) = some item) (real : ∀ target, item ≠ .link target)
    (down : ".." ∉ names) {fuel : Nat} (enough : names.length ≤ fuel)
    (seen : List (Place × Option Place)) :
    resolveFrom tree fuel seen here (names.map .name) = (here ++ names, true) := by
  induction names generalizing here fuel with
  | nil => cases fuel <;> simp [resolveFrom]
  | cons name rest ih =>
      rw [List.mem_cons, not_or] at down
      obtain ⟨fuel, rfl⟩ : ∃ less, fuel = less + 1 := ⟨fuel - 1, by simp at enough; omega⟩
      have onward : tree.get? (here ++ [name] ++ rest) = some item := by
        rw [List.append_assoc]
        exact found
      rw [List.map_cons, resolveFrom_plain (Ne.symm down.1),
        ih onward down.2 (by simpa using enough)]
      · simp
      · intro target linked
        rw [Item.get?_append, linked] at onward
        cases rest with
        | nil => exact real target (Option.some.inj onward).symm
        | cons next more => cases onward

end SourceAtlas
