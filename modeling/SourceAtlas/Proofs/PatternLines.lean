import SourceAtlas.Proofs.PathNames
import SourceAtlas.Proofs.RuleSpellings
import SourceAtlas.Proofs.StrippedCase

/-!
A pattern as the only line of an ignore file. It is read as the rule that the pattern is by itself,
white space at its ends dropped in both cases. A rule without a slash looks at every name on the
way, so what lies below something that it names is named as well.
-/
namespace SourceAtlas

open Text

namespace Text

theorem ne_return {c : Char} (within : isLineEnd c = false) : c ≠ '\r' := by
  rintro rfl
  cases within

theorem linesFrom_cons {c : Char} (other : c ≠ '\r') (line rest : List Char) :
    linesFrom line (c :: rest) =
      if isLineEnd c then line.reverse :: linesFrom [] rest else linesFrom (c :: line) rest :=
  linesFrom.eq_3 line c rest fun _ same _ => other same

theorem linesFrom_ended {text : List Char} (single : ∀ c ∈ text, isLineEnd c = false)
    (line : List Char) : linesFrom line (text ++ ['\n']) = [line.reverse ++ text] := by
  induction text generalizing line with
  | nil =>
      have ends : isLineEnd '\n' = true := rfl
      rw [List.nil_append, linesFrom_cons (by decide), if_pos ends, linesFrom, List.append_nil]
      rfl
  | cons c rest ih =>
      rw [List.forall_mem_cons] at single
      rw [List.cons_append, linesFrom_cons (ne_return single.1),
        if_neg (Bool.eq_false_iff.mp single.1), ih single.2, List.reverse_cons, List.append_assoc,
        List.singleton_append]

theorem universalFrom_cons {c : Char} (other : c ≠ '\r') (done rest : List Char) :
    universalFrom done (c :: rest) = universalFrom (c :: done) rest :=
  universalFrom.eq_4 done c rest (fun _ same _ => other same) other

theorem universalFrom_append (seen earlier text : List Char) :
    universalFrom (seen ++ earlier) text = earlier.reverse ++ universalFrom seen text := by
  fun_induction universalFrom seen text with
  | case1 seen => simp [universalFrom]
  | case2 seen rest ih =>
      rw [universalFrom]
      exact ih
  | case3 seen rest other ih =>
      rw [universalFrom]
      · exact ih
      · exact other
  | case4 seen c rest pair single ih =>
      rw [universalFrom_cons single]
      exact ih

theorem linesFrom_universalFrom (line text : List Char) :
    linesFrom line (universalFrom [] text) = linesFrom line text := by
  have feed : isLineEnd '\n' = true := rfl
  have next (c : Char) (rest : List Char) : universalFrom [c] rest = c :: universalFrom [] rest :=
    universalFrom_append [] [c] rest
  fun_induction linesFrom line text with
  | case1 line none => rw [universalFrom, List.reverse_nil, linesFrom, if_pos none]
  | case2 line some => rw [universalFrom, List.reverse_nil, linesFrom, if_neg some]
  | case3 line rest ih =>
      rw [universalFrom, next, linesFrom_cons (by decide), if_pos feed, ih]
  | case4 line c rest pair ends ih =>
      by_cases same : c = '\r'
      · subst same
        rw [universalFrom, next, linesFrom_cons (by decide), if_pos feed, ih]
        exact fun after => pair after rfl
      · rw [universalFrom_cons same, next, linesFrom_cons same, if_pos ends, ih]
  | case5 line c rest pair within ih =>
      have same : c ≠ '\r' := by
        rintro rfl
        exact within rfl
      rw [universalFrom_cons same, next, linesFrom_cons same, if_neg within, ih]

theorem lines_universalLines (text : String) : lines (universalLines text) = lines text := by
  rw [lines, universalLines, String.toList_ofList, linesFrom_universalFrom, lines]

theorem lines_ended {line : String} (single : ∀ c ∈ line.toList, isLineEnd c = false) :
    lines (universalLines (line ++ "\n")) = [line] := by
  have spelled : (line ++ "\n").toList = line.toList ++ ['\n'] := String.toList_append
  rw [lines_universalLines, lines, spelled, linesFrom_ended single]
  simp

end Text

/-- A pattern that can be written as a line of an ignore file: it is one line, and without the white
space at its ends it is not empty and neither a comment nor a negation. -/
structure RuleLine (pattern : String) : Prop where
  single : ∀ c ∈ pattern.toList, isLineEnd c = false
  filled : (strip pattern).toList ≠ []
  comment : (strip pattern).toList.head? ≠ some '#'
  negation : (strip pattern).toList.head? ≠ some '!'

namespace Rule

theorem build?_strip (pattern : String) (negated : Bool) :
    build? (strip pattern) negated = build? pattern negated := by
  have again : trimChars isBlank (strip pattern).toList = trimChars isBlank pattern.toList := by
    rw [toList_strip, trimChars_trimChars]
  simp only [build?, again]

theorem ofLine?_eq {pattern : String} (line : RuleLine pattern) :
    ofLine? pattern = build? pattern false := by
  have stripped : strip pattern = .ofList (trimChars isBlank pattern.toList) := rfl
  have filled := line.filled
  have comment := line.comment
  have negation := line.negation
  rw [← build?_strip, stripped]
  rw [stripped, String.toList_ofList] at filled comment negation
  unfold ofLine?
  split
  · contradiction
  next same => exact absurd (by rw [same]; rfl) comment
  next same => exact absurd (by rw [same]; rfl) negation
  next => rfl

theorem exists_of_line {pattern : String} (line : RuleLine pattern) :
    ∃ rule, build? pattern false = some rule ∧ rule.negated = false ∧
      ofText (universalLines (pattern ++ "\n")) = [rule] := by
  obtain ⟨rule, built⟩ : ∃ rule, build? pattern false = some rule := by
    refine Option.ne_none_iff_exists'.mp fun nothing => line.filled ?_
    rw [toList_strip, trimChars_eq_nil_iff]
    exact build?_eq_none_iff.mp nothing
  refine ⟨rule, built, negated_of_build built, ?_⟩
  rw [ofText, lines_ended line.single, List.filterMap_cons_some ((ofLine?_eq line).trans built)]
  rfl

theorem ignores_single {rule : Rule} (kept : rule.negated = false) (path : String)
    (isDirectory : Bool) : ignores [rule] path isDirectory = rule.holds path isDirectory := by
  rw [ignores, List.foldl_cons, List.foldl_nil, kept]
  cases rule.holds path isDirectory <;> rfl

structure Plain (rule : Rule) : Prop where
  any : rule.directoryOnly = false
  loose : rule.anchored = false
  short : rule.hasSlash = false

theorem plain_of_slashless {pattern : String} {rule : Rule} {negated : Bool}
    (built : build? pattern negated = some rule) (slashless : '/' ∉ (strip pattern).toList) :
    rule.Plain := by
  obtain ⟨-, normal, -, front, back, whole, frontMarks, backMarks⟩ := build?_eq_some_iff.mp built
  rw [toList_strip, whole, List.mem_append, List.mem_append, not_or, not_or] at slashless
  obtain ⟨⟨start, inside⟩, stop⟩ := slashless
  exact ⟨backMarks.unmarked stop, frontMarks.unmarked start,
    Bool.eq_false_iff.mpr fun slash => inside (normal.slash.mp slash)⟩

theorem Plain.holds_join {rule : Rule} (plain : rule.Plain) {names : List String}
    (proper : ProperNames names) (filled : names ≠ []) (isDirectory : Bool) :
    rule.holds (join "/" names) isDirectory =
      (!rule.pattern.isEmpty && names.any (globMatches rule.pattern)) := by
  have pieces : split '/' (join "/" names) = names :=
    split_join_of_free rfl filled fun name member => (proper name member).whole
  simp only [holds, plain.any, plain.loose, plain.short, pieces, Bool.false_and, Bool.or_self,
    Bool.false_eq_true, if_false]
  cases rule.pattern.isEmpty <;> rfl

theorem Plain.holds_below {rule : Rule} (plain : rule.Plain) {above names : List String}
    (proper : ProperNames names) (filled : above ≠ []) (front : above <+: names)
    (held : rule.holds (join "/" above) true = true) :
    rule.holds (join "/" names) false = true := by
  have whole : names ≠ [] := by
    rintro rfl
    exact filled (List.prefix_nil.mp front)
  have upper : ProperNames above := fun name member => proper name (front.subset member)
  rw [plain.holds_join upper filled, Bool.and_eq_true, List.any_eq_true] at held
  rw [plain.holds_join proper whole, Bool.and_eq_true, List.any_eq_true]
  obtain ⟨given, name, member, fits⟩ := held
  exact ⟨given, name, front.subset member, fits⟩

end Rule

end SourceAtlas
