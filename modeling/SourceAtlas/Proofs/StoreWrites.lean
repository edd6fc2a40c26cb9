import SourceAtlas.Proofs.ActWork
import SourceAtlas.Proofs.IndexPlacement
import SourceAtlas.Proofs.SiteChanges

/-!
What a store writes. One content goes to the first destination and, if that succeeds, to the copies
one after the other; what becomes of a copy is noted and changes nothing else.
-/
namespace SourceAtlas

open Text

namespace Store

def targets (store : Store) (site : Site) : Except PathFault (Path × List Path) := do
  let first ← store.target (← store.primary site)
  let copies ← (← store.secondary site).mapM store.target
  return (first, copies)

/-- The site after one content has been written to some paths in turn, whatever becomes of each. -/
def writeEach (site : Site) (paths : List Path) (content : Bytes) : Site :=
  paths.foldl (fun site path => (writeFile site path content).1) site

theorem writeEach_wrote {paths : List Path} (named : ∀ path ∈ paths, path.names ≠ [])
    (site : Site) (content : Bytes) : Wrote site (writeEach site paths content) paths content := by
  induction paths generalizing site with
  | nil => exact .refl _ _ _
  | cons path rest ih =>
      rw [List.forall_mem_cons] at named
      have onward := ih named.2 (writeFile site path content).1
      have first : Wrote site (writeFile site path content).1 [path] content := by
        rcases Site.writeFile_wrote named.1 site content with
          ⟨_, _, _, _, _, _, wrote⟩ | ⟨_, nothing⟩
        · exact wrote
        · exact nothing.mono (List.nil_subset _)
      exact first.trans onward

/-- A store whose files have a proper name, with no path that cannot be written at all. -/
structure Usable (store : Store) : Prop where
  file : ProperName store.fileName
  clean : Char.ofNat 0 ∉ store.fileName.toList
  root : hasNul store.root = false
  home : hasNul store.home = false

theorem hasNul_parent {path : Path} (clean : hasNul path = false) : hasNul path.parent = false := by
  unfold hasNul at clean ⊢
  rw [List.any_eq_false] at clean ⊢
  exact fun name member => clean name (List.dropLast_subset _ member)

theorem write_ne_path (site : Site) (path : Path) (content : Bytes) (fault : PathFault) :
    (site.write path content).2 ≠ .error (.path fault) := by
  unfold Site.write
  split
  · simp
  · split <;> simp

theorem writeFile_ne_path {path : Path} (clean : hasNul path = false) (site : Site)
    (content : Bytes) (fault : PathFault) :
    (writeFile site path content).2 ≠ .error (.path fault) := by
  unfold writeFile
  rw [if_neg (Bool.eq_false_iff.mp (hasNul_parent clean))]
  split
  · simp
  · rw [if_neg (Bool.eq_false_iff.mp clean)]
    exact write_ne_path _ path content fault

theorem writeCopy_does {path : Path} (clean : hasNul path = false) (site : Site) (content : Bytes) :
    (writeCopy content path).Does site (.ok ()) (writeFile site path content).1 := by
  have possible := writeFile_ne_path clean site content
  unfold writeCopy
  refine Act.does_site.seq ?_
  dsimp only
  refine (Act.does_setSite _).seq ?_
  cases wrote : (writeFile site path content).2 with
  | ok done => exact Act.does_note _
  | error fault =>
      cases fault with
      | os error => exact Act.does_note _
      | cut fault => exact Act.does_note _
      | path fault => exact absurd wrote (possible fault)

theorem copies_do (store : Store) {paths : List Path} (content : Bytes)
    (clean : ∀ path ∈ paths, ∃ copy, store.target path = .ok copy ∧ hasNul copy = false)
    (site : Site) :
    ∃ copies, paths.mapM store.target = .ok copies ∧
      (forIn paths PUnit.unit fun path _ => do
        writeCopy content (← ofPath (store.target path))
        pure (ForInStep.yield PUnit.unit) : Act PUnit).Does site (.ok PUnit.unit)
        (writeEach site copies content) := by
  induction paths generalizing site with
  | nil => exact ⟨[], rfl, Act.does_pure _⟩
  | cons path rest ih =>
      rw [List.forall_mem_cons] at clean
      obtain ⟨⟨copy, found, plain⟩, others⟩ := clean
      obtain ⟨copies, mapped, does⟩ := ih others (writeFile site copy content).1
      refine ⟨copy :: copies, ?_, ?_⟩
      · rw [List.mapM_cons, found, mapped]
        rfl
      · have step : (do
            writeCopy content (← ofPath (.ok copy))
            pure (ForInStep.yield PUnit.unit) : Act (ForInStep PUnit)).Does site
            (.ok (.yield PUnit.unit)) (writeFile site copy content).1 :=
          (Act.does_pure copy).seq ((writeCopy_does plain site content).seq (Act.does_pure _))
        rw [List.forIn_cons, found]
        exact step.seq does

def copyPaths (store : Store) (first : Path) : List Path :=
  if store.location ≠ "both" then []
  else [store.repositoryPath, store.homePath].filter (· ≠ first)

theorem secondary_eq {store : Store} {site : Site} {first : Path}
    (chosen : store.primary site = .ok first) :
    store.secondary site = .ok (store.copyPaths first) := by
  unfold secondary copyPaths
  rw [chosen]
  split <;> rfl

section Usable

variable {store : Store} (usable : store.Usable)
include usable

theorem Usable.child (base : Path) : (base.child directoryName).child store.fileName =
    { base with names := base.names ++ [directoryName, store.fileName] } := by
  rw [properName_directoryName.child, usable.file.child, List.append_assoc, List.singleton_append]

theorem Usable.target_child {base : Path} (clean : hasNul base = false) :
    ∃ copy, store.target ((base.child directoryName).child store.fileName) = .ok copy ∧
      hasNul copy = false := by
  have below (name : String) (plain : Char.ofNat 0 ∉ name.toList) :
      hasNul { base with names := base.names ++ [directoryName, name] } = false := by
    have directory : directoryName.toList.contains (Char.ofNat 0) = false := by decide
    unfold hasNul at clean ⊢
    rw [List.any_append, clean, List.any_cons, directory, List.any_cons, List.any_nil]
    simpa using plain
  rw [usable.child, target]
  split
  · exact ⟨_, rfl, below _ usable.clean⟩
  · have last : Path.name { base with names := base.names ++ [directoryName, store.fileName] } =
        store.fileName := by
      simp [Path.name]
    have filled : ¬store.fileName.isEmpty = true := by simpa using usable.file.filled
    have ending : Char.ofNat 0 ∉ (store.fileName ++ sealedEnding).toList := by
      rw [String.toList_append, List.mem_append, not_or]
      exact ⟨usable.clean, by decide⟩
    rw [last, if_neg filled]
    refine ⟨_, rfl, ?_⟩
    rw [Path.withName, List.dropLast_append_cons]
    simpa using below _ ending

theorem Usable.copyPaths (first : Path) : ∀ path ∈ store.copyPaths first,
    ∃ copy, store.target path = .ok copy ∧ hasNul copy = false := by
  intro path member
  unfold Store.copyPaths at member
  split at member
  · cases member
  · have listed := (List.mem_filter.mp member).1
    rw [List.mem_cons, List.mem_singleton] at listed
    rcases listed with rfl | rfl
    · exact usable.target_child usable.root
    · exact usable.target_child usable.home

theorem Usable.targets_cases (site : Site) :
    (∃ fault, (store.primary site >>= store.target) = .error fault ∧
      store.targets site = .error fault) ∨
    ∃ path first copies, store.primary site = .ok path ∧ store.target path = .ok first ∧
      (store.copyPaths path).mapM store.target = .ok copies ∧
      store.targets site = .ok (first, copies) := by
  unfold targets
  cases chosen : store.primary site with
  | error fault => exact .inl ⟨fault, rfl, rfl⟩
  | ok path =>
      rw [secondary_eq chosen]
      cases found : store.target path with
      | error fault =>
          refine .inl ⟨fault, found, ?_⟩
          simp only [bind, Except.bind, found]
      | ok first =>
          obtain ⟨copies, mapped, _⟩ := copies_do store [] (usable.copyPaths path) site
          refine .inr ⟨path, first, copies, rfl, found, mapped, ?_⟩
          simp only [bind, Except.bind, found, mapped, pure, Except.pure]

end Usable

def written (store : Store) (site : Site) (content : Bytes) : Except Failure Path × Site :=
  match store.targets site with
  | .error fault => (.error (.path fault), site)
  | .ok (first, copies) =>
      match writeFile site first content with
      | (after, .error fault) => (.error (.ofWrite fault), after)
      | (after, .ok ()) => (.ok first, writeEach after copies content)

theorem write_does {store : Store} (usable : store.Usable) (entropy : Entropy) (text : String)
    {content : Bytes} (kept : store.payload entropy text = .ok content) (site : Site) :
    (store.write entropy text).Does site (store.written site content).1
      (store.written site content).2 := by
  unfold write written
  rw [kept]
  refine Act.does_site.seq ?_
  change Act.Does (ofPath (store.primary site >>= store.target) >>= _) _ _ _
  rcases usable.targets_cases site with
    ⟨fault, failed, none⟩ | ⟨path, first, copies, chosen, found, mapped, all⟩
  · rw [failed, none]
    exact (Act.does_fail _).stop _
  · have start : (store.primary site >>= store.target) = .ok first := by
      rw [chosen]
      exact found
    rw [start, all]
    refine (Act.does_pure first).seq ?_
    dsimp only
    cases wrote : writeFile site first content with
    | mk after result =>
        refine (Act.does_setSite after).seq ?_
        cases result with
        | error fault => exact Act.does_fail _
        | ok done =>
            refine (Act.does_note _).seq ?_
            obtain ⟨others, again, does⟩ := copies_do store content (usable.copyPaths path) after
            cases mapped.symm.trans again
            -- the first destination does not depend on the tree, which alone has changed
            obtain ⟨root, rooted⟩ := Site.exists_withRoot_of_writeFile site first content
            rw [wrote] at rooted
            have still : store.primary after = .ok path := by
              rw [← chosen, show after = site.withRoot root from rooted]
              rfl
            dsimp only
            rw [secondary_eq still]
            exact (Act.does_pure _).seq (does.seq (Act.does_pure _))

end Store

end SourceAtlas
