import SourceAtlas.Proofs.GlobTexts
import SourceAtlas.Proofs.MetEntries

/-!
What decides about a directory that a walk meets. A rule of an adapter or of an override that has no
slash and is not anchored looks at every segment of a path; but the directory above was entered, so
none of its segments can be what such a rule names, and only the last one is left.
-/
namespace SourceAtlas

open Text

namespace Rule

/-- A rule that looks at each segment of a path by itself. -/
structure Loose (rule : Rule) : Prop where
  free : rule.anchored = false
  short : rule.hasSlash = false

theorem pattern_ne_empty {rule : Rule} {segment : String} (filled : segment ≠ "")
    (matched : globMatches rule.pattern segment = true) : rule.pattern ≠ "" := by
  intro blank
  rw [blank] at matched
  obtain ⟨pieces, none, whole⟩ := (globMatches_iff List.not_mem_nil segment).mp matched
  obtain rfl : pieces = [] := List.forall₂_nil_left_iff.mp none
  exact filled (String.toList_eq_nil_iff.mp whole.symm)

theorem Loose.holds_join_iff {rule : Rule} (loose : rule.Loose) {names : List String}
    (proper : ProperNames names) (filled : names ≠ []) :
    rule.holds (join "/" names) true = true ↔
      ∃ segment ∈ names, globMatches rule.pattern segment = true := by
  have pieces : split '/' (join "/" names) = names :=
    split_join_of_free rfl filled fun name member => (proper name member).whole
  rw [holds_iff, pieces]
  simp only [loose.free, loose.short, implies_true, true_and, Bool.false_eq_true, or_self,
    false_and, or_false]
  refine and_iff_right_of_imp ?_
  rintro ⟨segment, member, matched⟩
  exact pattern_ne_empty (proper segment member).filled matched

end Rule

namespace Walk

variable {walk : Walk} {tree : Item} {above : List String} {name : String}

theorem Enters.spared (enters : walk.Enters tree above) (proper : tree.Proper)
    (filled : above ≠ []) {rule : Rule} (listed : rule ∈ walk.rules.directories)
    (loose : rule.Loose) : ∀ segment ∈ above, globMatches rule.pattern segment = false := by
  obtain ⟨entries, found⟩ := enters.real
  intro segment member
  rw [← Bool.not_eq_true]
  intro matched
  have held : rule.holds (join "/" above) true = true :=
    (loose.holds_join_iff (proper.of_get? found).1 filled).mpr ⟨segment, member, matched⟩
  have ignored : walk.rules.ignoresDirectory (above.getLastD "") (join "/" above) = true := by
    simp only [ScanRules.ignoresDirectory, Bool.or_eq_true, List.any_eq_true]
    exact .inl (.inr ⟨rule, listed, held⟩)
  exact absurd ignored (Bool.eq_false_iff.mp enters.kept)

theorem spared_of_met (proper : tree.Proper) (met : above ++ [name] ∈ walk.met tree true)
    {rule : Rule} (listed : rule ∈ walk.rules.directories) (loose : rule.Loose) :
    ∀ segment ∈ above, globMatches rule.pattern segment = false := by
  obtain ⟨directory, last, same, lists, _⟩ := met
  obtain ⟨rfl, _⟩ := List.append_inj' same rfl
  rcases List.eq_nil_or_concat above with rfl | ⟨front, bottom, rfl⟩
  · exact fun _ member => absurd member List.not_mem_nil
  · have filled : front.concat bottom ≠ [] := by simp
    exact (lists _ filled List.prefix_rfl).spared proper filled listed loose

/-- The names of directories decide. The directories that a walk meets are those that it counts as
taken or as ignored; for each of them a loose rule of an adapter or an override holds for its path
exactly if it names the last segment, and the segments above never match one. -/
theorem names_decide (walk : Walk) {entries : List (String × Item)}
    (proper : (Item.directory entries).Proper) :
    (walk.met (.directory entries) true).encard =
        ((walk.all entries).totalDirs + (walk.all entries).ignoredDirs : ℕ) ∧
      ∀ above name, above ++ [name] ∈ walk.met (.directory entries) true →
        ((∃ rule ∈ walk.rules.directories, rule.Loose ∧
            rule.holds (join "/" (above ++ [name])) true = true) ↔
          ∃ rule ∈ walk.rules.directories, rule.Loose ∧ globMatches rule.pattern name = true) ∧
        ∀ rule ∈ walk.rules.directories, rule.Loose → ∀ segment ∈ above,
          globMatches rule.pattern segment = false := by
  refine ⟨walk.encard_met proper, fun above name met => ?_⟩
  have spared (rule : Rule) (listed : rule ∈ walk.rules.directories) (loose : rule.Loose) :
      ∀ segment ∈ above, globMatches rule.pattern segment = false :=
    spared_of_met proper met listed loose
  obtain ⟨_, _, _, _, entries, found⟩ := met
  have whole := (proper.of_get? found).1
  refine ⟨exists_congr fun rule => and_congr_right fun listed => and_congr_right fun loose => ?_,
    spared⟩
  rw [loose.holds_join_iff whole (List.append_ne_nil_of_right_ne_nil _ (List.cons_ne_nil _ _))]
  constructor
  · rintro ⟨segment, member, matched⟩
    rcases List.mem_append.mp member with earlier | last
    · exact absurd matched (Bool.eq_false_iff.mp (spared rule listed loose segment earlier))
    · rwa [← List.mem_singleton.mp last]
  · exact fun matched => ⟨name, by simp, matched⟩

def yardEntries : List (String × Item) :=
  [("src", .directory [("build", .directory [])])]

def yardWalk : Walk where
  site := { root := .directory yardEntries }
  root := []
  rules := { directories := ["*uild/", "docs/src", "/out"].filterMap ScanRules.directoryRule? }

theorem yardEntries_proper : (Item.directory yardEntries).Proper :=
  .single ⟨by decide, by decide, by decide, by decide⟩
    (.single ⟨by decide, by decide, by decide, by decide⟩
      (.directory nofun List.nodup_nil nofun))

theorem yardWalk_meets : ["src"] ++ ["build"] ∈ yardWalk.met (.directory yardEntries) true := by
  refine ⟨["src"], "build", rfl, fun above filled front => ?_, [], rfl⟩
  obtain rfl : above = ["src"] := by
    rcases above with _ | ⟨first, rest⟩
    · exact absurd rfl filled
    · obtain ⟨rfl, below⟩ := List.cons_prefix_cons.mp front
      rw [List.prefix_nil.mp below]
  exact ⟨⟨_, rfl⟩, rfl, by decide +kernel⟩

theorem yardWalk_names_decide :
    (Item.directory yardEntries).Proper ∧
      (yardWalk.met (.directory yardEntries) true).encard = 2 ∧
      (∃ rule ∈ yardWalk.rules.directories, rule.Loose ∧
        rule.holds (join "/" (["src"] ++ ["build"])) true = true) ∧
      globMatches "*uild" "src" = false := by
  obtain ⟨counted, decides⟩ := names_decide yardWalk yardEntries_proper
  obtain ⟨held, spared⟩ := decides _ _ yardWalk_meets
  have first : ⟨"*uild", true, false, false, false⟩ ∈ yardWalk.rules.directories :=
    List.mem_filterMap.mpr ⟨"*uild/", by decide, by decide +kernel⟩
  refine ⟨yardEntries_proper, counted.trans ?_, held.mpr ⟨_, first, ⟨rfl, rfl⟩, by decide +kernel⟩,
    spared _ first ⟨rfl, rfl⟩ "src" List.mem_cons_self⟩
  have counts : (yardWalk.all yardEntries).totalDirs + (yardWalk.all yardEntries).ignoredDirs =
      2 := by decide +kernel
  rw [counts]
  rfl

end Walk

end SourceAtlas
