import SourceAtlas.Rule
import SourceAtlas.Proofs.TextPieces

/-!
How the rules of an ignore file are spelled. White space around a rule and the number of slashes at
its ends do not count, so one rule has many spellings. What is left when all of these are taken away
is a pattern with two marks, and the rule has one spelling that shows just that.
-/
namespace SourceAtlas.Rule

open Text

/-- The slashes at an end of a spelling: there are some if that end is marked, and else none. -/
structure Marks (slashes : List Char) (marked : Bool) : Prop where
  only : ∀ c ∈ slashes, isSlash c = true
  present : slashes ≠ [] ↔ marked = true

def endMark (marked : Bool) : Option Char := if marked then some '/' else none

theorem Marks.head {slashes : List Char} {marked : Bool} (marks : Marks slashes marked) :
    slashes.head? = endMark marked := by
  cases slashes with
  | nil =>
      obtain rfl : marked = false := by simpa using marks.present
      rfl
  | cons c rest =>
      obtain rfl : marked = true := by simpa using marks.present
      obtain rfl : c = '/' := by simpa [isSlash] using marks.only c List.mem_cons_self
      rfl

theorem Marks.reverse {slashes : List Char} {marked : Bool} (marks : Marks slashes marked) :
    Marks slashes.reverse marked where
  only c member := marks.only c (List.mem_reverse.mp member)
  present := by rw [ne_eq, List.reverse_eq_nil_iff, ← ne_eq, marks.present]

theorem Marks.unmarked {slashes : List Char} {marked : Bool} (marks : Marks slashes marked)
    (free : '/' ∉ slashes) : marked = false := by
  refine Bool.eq_false_iff.mpr fun mark => free ?_
  have first := marks.head
  rw [mark] at first
  exact List.mem_of_head? first

theorem Marks.last {slashes : List Char} {marked : Bool} (marks : Marks slashes marked) :
    slashes.getLast? = endMark marked := by
  rw [← List.head?_reverse, marks.reverse.head]

theorem front_iff {text rest : List Char} {marked : Bool} :
    ((text.head? == some '/') = marked ∧
        (if text.head? == some '/' then trimStart isSlash text else text) = rest) ↔
      ∃ slashes, text = slashes ++ rest ∧ Marks slashes marked ∧ rest.head? ≠ some '/' := by
  constructor
  · rintro ⟨rfl, rfl⟩
    by_cases slash : text.head? = some '/'
    · have marked : (text.head? == some '/') = true := beq_iff_eq.mpr slash
      obtain ⟨slashes, whole, only⟩ := exists_trimStart isSlash text
      have clear : (trimStart isSlash text).head? ≠ some '/' := fun first =>
        absurd (head_trimStart first) (by decide)
      have present : slashes ≠ [] := by
        rintro rfl
        rw [whole] at slash
        exact clear slash
      rw [marked, if_pos rfl]
      exact ⟨slashes, whole, ⟨only, iff_of_true present rfl⟩, clear⟩
    · have unmarked : (text.head? == some '/') = false := beq_eq_false_iff_ne.mpr slash
      rw [unmarked, if_neg Bool.false_ne_true]
      exact ⟨[], rfl, ⟨nofun, by simp⟩, slash⟩
  · rintro ⟨slashes, rfl, marks, clear⟩
    cases marked with
    | false =>
        obtain rfl : slashes = [] := by simpa using marks.present
        have unmarked : (rest.head? == some '/') = false := beq_eq_false_iff_ne.mpr clear
        rw [List.nil_append, unmarked, if_neg Bool.false_ne_true]
        exact ⟨rfl, rfl⟩
    | true =>
        have first : (slashes ++ rest).head? = some '/' := by
          rw [List.head?_append, marks.head]
          rfl
        have kept : ∀ c ∈ rest.head?, isSlash c = false := by
          intro c member
          refine beq_eq_false_iff_ne.mpr ?_
          rintro rfl
          exact clear member
        rw [first]
        exact ⟨rfl, trimStart_append marks.only kept⟩

theorem back_iff {text rest : List Char} {marked : Bool} :
    ((text.getLast? == some '/') = marked ∧
        (if text.getLast? == some '/' then trimEnd isSlash text else text) = rest) ↔
      ∃ slashes, text = rest ++ slashes ∧ Marks slashes marked ∧ rest.getLast? ≠ some '/' := by
  have turned : (if text.getLast? == some '/' then trimStart isSlash text.reverse
      else text.reverse) = rest.reverse ↔
        (if text.getLast? == some '/' then trimEnd isSlash text else text) = rest := by
    rw [← List.reverse_inj, List.reverse_reverse]
    split
    · rfl
    · rw [List.reverse_reverse]
  have read := @front_iff text.reverse rest.reverse marked
  rw [List.head?_reverse, List.head?_reverse, turned] at read
  rw [read]
  constructor
  · rintro ⟨slashes, whole, marks, clear⟩
    refine ⟨slashes.reverse, ?_, marks.reverse, clear⟩
    rw [← List.reverse_inj, whole, List.reverse_append, List.reverse_reverse]
  · rintro ⟨slashes, rfl, marks, clear⟩
    exact ⟨slashes.reverse, List.reverse_append, marks.reverse, clear⟩

def Spells (text : List Char) (rule : Rule) : Prop :=
  ∃ front back, text = front ++ rule.pattern.toList ++ back ∧
    Marks front rule.anchored ∧ Marks back rule.directoryOnly

/-- A rule whose marks take all slashes away from the ends of its pattern. -/
structure Normal (rule : Rule) : Prop where
  first : rule.pattern.toList.head? ≠ some '/'
  last : rule.pattern.toList.getLast? ≠ some '/'
  filled : rule.anchored = true → rule.pattern.toList ≠ []
  slash : rule.hasSlash = true ↔ '/' ∈ rule.pattern.toList

variable {written : String} {negated : Bool} {rule : Rule}

theorem build?_eq_none_iff :
    build? written negated = none ↔ ∀ c ∈ written.toList, isBlank c = true := by
  unfold build?
  rw [← trimChars_eq_nil_iff, ← List.isEmpty_iff]
  dsimp only
  split
  next blank => exact iff_of_true rfl blank
  next filled => exact iff_of_false nofun filled

theorem exists_of_filled (filled : ∃ c ∈ written.toList, isBlank c = false) (negated : Bool) :
    ∃ rule, build? written negated = some rule := by
  obtain ⟨c, member, solid⟩ := filled
  refine Option.ne_none_iff_exists'.mp fun nothing => ?_
  exact absurd (build?_eq_none_iff.mp nothing c member) (Bool.eq_false_iff.mp solid)

theorem build?_reads {text : List Char} (trimmed : trimChars isBlank written.toList = text) :
    build? written negated = some rule ↔ text ≠ [] ∧ rule.negated = negated ∧
      (rule.hasSlash = true ↔ '/' ∈ rule.pattern.toList) ∧ ∃ rest,
        ((text.getLast? == some '/') = rule.directoryOnly ∧
          (if text.getLast? == some '/' then trimEnd isSlash text else text) = rest) ∧
        (rest.head? == some '/') = rule.anchored ∧
          (if rest.head? == some '/' then trimStart isSlash rest else rest) =
            rule.pattern.toList := by
  unfold build?
  rw [trimmed]
  dsimp only
  split
  next blank => exact iff_of_false nofun fun reads => reads.1 (List.isEmpty_iff.mp blank)
  next filled =>
    rw [Option.some.injEq]
    constructor
    · rintro rfl
      refine ⟨fun nothing => filled (List.isEmpty_iff.mpr nothing), rfl, ?_, _, ⟨rfl, rfl⟩, rfl, ?_⟩
      · rw [String.toList_ofList, List.contains_iff_mem]
      · rw [String.toList_ofList]
    · rintro ⟨-, rfl, slash, _, ⟨only, rfl⟩, anchored, spelled⟩
      cases rule
      rw [Rule.mk.injEq]
      refine ⟨?_, only, anchored, rfl, ?_⟩
      · rw [spelled, String.ofList_toList]
      · rw [spelled, Bool.eq_iff_iff, List.contains_iff_mem, slash]

theorem Marks.last_append {front rest : List Char} {marked : Bool} (marks : Marks front marked) :
    (front ++ rest).getLast? ≠ some '/' ↔
      rest.getLast? ≠ some '/' ∧ (marked = true → rest ≠ []) := by
  rw [List.getLast?_append, marks.last]
  cases ends : rest.getLast? with
  | none =>
      rw [List.getLast?_eq_none_iff] at ends
      cases marked <;> simp [endMark, ends]
  | some c =>
      have filled : rest ≠ [] := by
        rintro rfl
        cases ends
      simp [filled]

theorem build?_eq_some_iff :
    build? written negated = some rule ↔
      trimChars isBlank written.toList ≠ [] ∧ rule.Normal ∧ rule.negated = negated ∧
        Spells (trimChars isBlank written.toList) rule := by
  simp only [build?_reads rfl, back_iff, front_iff]
  constructor
  · rintro ⟨filled, kept, slash, _, ⟨back, whole, backMarks, last⟩, front, rfl, frontMarks, first⟩
    obtain ⟨last, some⟩ := frontMarks.last_append.mp last
    exact ⟨filled, ⟨first, last, some, slash⟩, kept, front, back, whole, frontMarks, backMarks⟩
  · rintro ⟨filled, normal, kept, front, back, whole, frontMarks, backMarks⟩
    have last := frontMarks.last_append.mpr ⟨normal.last, normal.filled⟩
    exact ⟨filled, kept, normal.slash, _, ⟨back, whole, backMarks, last⟩, front, rfl, frontMarks,
      normal.first⟩

theorem negated_of_build (built : build? written negated = some rule) :
    rule.negated = negated :=
  (build?_eq_some_iff.mp built).2.2.1

theorem hasSlash_iff (built : build? written negated = some rule) :
    rule.hasSlash = true ↔ '/' ∈ rule.pattern.toList :=
  (build?_eq_some_iff.mp built).2.1.slash

theorem pattern_subset (built : build? written negated = some rule) :
    rule.pattern.toList ⊆ written.toList := by
  obtain ⟨-, -, -, front, back, whole, -, -⟩ := build?_eq_some_iff.mp built
  intro c member
  refine trimChars_subset isBlank written.toList ?_
  rw [whole]
  exact List.mem_append_left back (List.mem_append_right front member)

theorem Spells.head {text : List Char} (spells : Spells text rule) :
    text.head? = (endMark rule.anchored).or
      (rule.pattern.toList.head?.or (endMark rule.directoryOnly)) := by
  obtain ⟨front, back, rfl, frontMarks, backMarks⟩ := spells
  rw [List.append_assoc, List.head?_append, List.head?_append, frontMarks.head, backMarks.head]

theorem Spells.last {text : List Char} (spells : Spells text rule) :
    text.getLast? = (endMark rule.directoryOnly).or
      (rule.pattern.toList.getLast?.or (endMark rule.anchored)) := by
  obtain ⟨front, back, rfl, frontMarks, backMarks⟩ := spells
  rw [List.getLast?_append, List.getLast?_append, frontMarks.last, backMarks.last]

def spelling (rule : Rule) : String :=
  (if rule.anchored then "/" else "") ++ rule.pattern ++ (if rule.directoryOnly then "/" else "")

theorem marks_single (marked : Bool) : Marks (if marked then "/" else "").toList marked := by
  cases marked
  · exact ⟨nofun, by simp⟩
  · exact ⟨by simp [isSlash], by simp⟩

theorem spells_spelling (rule : Rule) : Spells rule.spelling.toList rule :=
  ⟨_, _, by rw [spelling, String.toList_append, String.toList_append], marks_single _,
    marks_single _⟩

theorem build?_spelling (built : build? written negated = some rule) :
    build? rule.spelling rule.negated = some rule := by
  obtain ⟨filled, normal, -, spells⟩ := build?_eq_some_iff.mp built
  have own := spells_spelling rule
  have head := own.head.trans spells.head.symm
  have last := own.last.trans spells.last.symm
  have trimmed : trimChars isBlank rule.spelling.toList = rule.spelling.toList :=
    trimChars_eq_self (fun c first => head_trimChars (head ▸ first)) fun c end_ =>
      last_trimChars (last ▸ end_)
  rw [build?_eq_some_iff, trimmed]
  refine ⟨?_, normal, rfl, own⟩
  rw [ne_eq, ← List.head?_eq_none_iff, head, List.head?_eq_none_iff]
  exact filled

/-- Only blank texts give no rule, and a rule is in a normal form: its pattern begins and ends
without a slash and holds one if the rule says so, no rule is anchored with nothing in its pattern,
and the spelling that shows the marks and the pattern gives the rule again. -/
theorem built_in_normal_form (written : String) (negated : Bool) :
    (build? written negated = none ↔ ∀ c ∈ written.toList, isBlank c = true) ∧
      ∀ rule, build? written negated = some rule →
        rule.pattern.toList.head? ≠ some '/' ∧ rule.pattern.toList.getLast? ≠ some '/' ∧
          (rule.hasSlash = true ↔ '/' ∈ rule.pattern.toList) ∧
          (rule.anchored = true → rule.pattern ≠ "") ∧
          build? ((if rule.anchored then "/" else "") ++ rule.pattern ++
            (if rule.directoryOnly then "/" else "")) negated = some rule := by
  refine ⟨build?_eq_none_iff, fun rule built => ?_⟩
  obtain ⟨-, normal, rfl, -⟩ := build?_eq_some_iff.mp built
  refine ⟨normal.first, normal.last, normal.slash, fun anchored nothing => ?_,
    build?_spelling built⟩
  exact normal.filled anchored (by rw [nothing]; rfl)

theorem spaced_in_normal_form :
    build? "\t// build/ out //\n" true = some ⟨" build/ out ", true, true, true, true⟩ ∧
      build? "/ build/ out /" true = some ⟨" build/ out ", true, true, true, true⟩ := by
  have built : build? "\t// build/ out //\n" true =
      some ⟨" build/ out ", true, true, true, true⟩ := by
    decide +kernel
  exact ⟨built, ((built_in_normal_form _ _).2 _ built).2.2.2.2⟩

end SourceAtlas.Rule
