import SourceAtlas.Proofs.PathNames
import SourceAtlas.Proofs.RuleSpellings
import Mathlib.Data.List.Forall2
import Mathlib.Data.List.Infix

/-!
The texts that shell patterns match. Each part of a pattern takes a piece of the text, and a pattern
matches a text exactly when the text can be cut into such pieces, though after a star the matcher
goes on from the longest text that is left and not from each by itself. So a rule without classes
holds for what its pattern becomes when its stars and question marks are replaced.
-/
namespace SourceAtlas

open Text

namespace Glob

def Part.Takes : Part → List Char → Prop
  | .any, _ => True
  | .one, piece => ∃ c, piece = [c]
  | .exactly c, piece => piece = [c]
  | .inClass cls, piece => ∃ c, cls.contains c = true ∧ piece = [c]

/-- Every later text is a tail of those before it. -/
def Nested (tails : List (List Char)) : Prop :=
  tails.Pairwise fun longer shorter => shorter <:+ longer

theorem tailsOf_eq (text : List Char) : tailsOf text = text.tails := by
  induction text with
  | nil => rfl
  | cons c rest ih => rw [tailsOf, ih, List.tails]

theorem nested_tails (text : List Char) : Nested text.tails := by
  induction text with
  | nil => exact List.pairwise_singleton _ _
  | cons c rest ih =>
      refine List.Pairwise.cons (fun tail member => ?_) ih
      exact ((List.mem_tails tail rest).mp member).trans (List.suffix_cons c rest)

def afterOne (p : Char → Bool) : List Char → Option (List Char)
  | c :: rest => if p c then some rest else none
  | [] => none

theorem afterOne_eq_some_iff {p : Char → Bool} {tail rest : List Char} :
    afterOne p tail = some rest ↔ ∃ c, p c = true ∧ tail = c :: rest := by
  cases tail with
  | nil => simp [afterOne]
  | cons c others => by_cases fits : p c = true <;> simp_all [afterOne]

theorem mem_filterMap_afterOne {p : Char → Bool} {tails : List (List Char)} {rest : List Char} :
    rest ∈ tails.filterMap (afterOne p) ↔ ∃ c, p c = true ∧ c :: rest ∈ tails := by
  simp only [List.mem_filterMap, afterOne_eq_some_iff]
  constructor
  · rintro ⟨_, member, c, fits, rfl⟩
    exact ⟨c, fits, member⟩
  · rintro ⟨c, fits, member⟩
    exact ⟨_, member, c, fits, rfl⟩

theorem nested_afterOne {p : Char → Bool} {tails : List (List Char)} (nested : Nested tails) :
    Nested (tails.filterMap (afterOne p)) := by
  refine List.Pairwise.filterMap _ (fun longer shorter suffix => ?_) nested
  intro first one second other
  obtain ⟨c, _, rfl⟩ := afterOne_eq_some_iff.mp one
  obtain ⟨d, _, rfl⟩ := afterOne_eq_some_iff.mp other
  rcases List.suffix_cons_iff.mp suffix with same | below
  · cases same
    exact List.suffix_rfl
  · exact (List.suffix_cons d second).trans below

theorem step_eq (part : Part) (tails : List (List Char)) : part.step tails =
    match part with
    | .any => (tails.head?.map List.tails).getD []
    | .one => tails.filterMap (afterOne fun _ => true)
    | .exactly c => tails.filterMap (afterOne (· = c))
    | .inClass cls => tails.filterMap (afterOne cls.contains) := by
  cases part with
  | any => cases tails <;> simp [Part.step, tailsOf_eq]
  | one | exactly c | inClass cls =>
      refine congrArg (tails.filterMap ·) (funext fun tail => ?_)
      cases tail <;> rfl

theorem nested_step (part : Part) {tails : List (List Char)} (nested : Nested tails) :
    Nested (part.step tails) := by
  rw [step_eq]
  cases part with
  | any =>
      cases tails with
      | nil => exact List.Pairwise.nil
      | cons longest rest => exact nested_tails longest
  | one | exactly c | inClass cls => exact nested_afterOne nested

theorem mem_step_iff (part : Part) {tails : List (List Char)} (nested : Nested tails)
    (rest : List Char) :
    rest ∈ part.step tails ↔ ∃ piece, part.Takes piece ∧ piece ++ rest ∈ tails := by
  rw [step_eq]
  cases part with
  | any =>
      cases tails with
      | nil => simp
      | cons longest others =>
          have within : ∀ tail ∈ longest :: others, tail <:+ longest := by
            rw [List.forall_mem_cons]
            exact ⟨List.suffix_rfl, (List.pairwise_cons.mp nested).1⟩
          simp only [List.head?_cons, Option.map_some, Option.getD_some, List.mem_tails,
            Part.Takes, true_and]
          constructor
          · rintro ⟨piece, whole⟩
            exact ⟨piece, whole ▸ List.mem_cons_self⟩
          · rintro ⟨piece, member⟩
            exact (List.suffix_append piece rest).trans (within _ member)
  | one | exactly c | inClass cls =>
      simp only [mem_filterMap_afterOne]
      simp [Part.Takes]

theorem matchParts_iff (parts : List Part) {tails : List (List Char)} (nested : Nested tails) :
    matchParts parts tails = true ↔
      ∃ pieces, List.Forall₂ Part.Takes parts pieces ∧ pieces.flatten ∈ tails := by
  induction parts generalizing tails with
  | nil => simp [matchParts]
  | cons part parts ih =>
      rw [matchParts, ih (nested_step part nested)]
      constructor
      · rintro ⟨pieces, take, member⟩
        obtain ⟨piece, first, whole⟩ := (mem_step_iff part nested _).mp member
        exact ⟨piece :: pieces, .cons first take, whole⟩
      · rintro ⟨_, take, member⟩
        obtain ⟨piece, pieces, first, others, rfl⟩ := List.forall₂_cons_left_iff.mp take
        exact ⟨pieces, others, (mem_step_iff part nested _).mpr ⟨piece, first, member⟩⟩

/-- What may be put for a character of a pattern without classes: any text for a star, any one
character for a question mark, and for the others only themselves. -/
inductive Replaces : Char → List Char → Prop
  | star (text : List Char) : Replaces '*' text
  | question (c : Char) : Replaces '?' [c]
  | itself {c : Char} (star : c ≠ '*') (question : c ≠ '?') : Replaces c [c]

def Covers (pattern text : List Char) : Prop :=
  ∃ pieces, List.Forall₂ Replaces pattern pieces ∧ pieces.flatten = text

def partOf (c : Char) : Part := if c = '*' then .any else if c = '?' then .one else .exactly c

theorem takes_partOf_iff (c : Char) (piece : List Char) :
    (partOf c).Takes piece ↔ Replaces c piece := by
  by_cases star : c = '*'
  · subst star
    exact iff_of_true trivial (.star piece)
  · by_cases question : c = '?'
    · subst question
      constructor
      · rintro ⟨d, rfl⟩
        exact .question d
      · rintro (_ | ⟨d⟩ | ⟨_, other⟩)
        · exact ⟨d, rfl⟩
        · exact absurd rfl other
    · rw [partOf, if_neg star, if_neg question]
      constructor
      · rintro rfl
        exact .itself star question
      · rintro (_ | _ | _)
        · exact absurd rfl star
        · exact absurd rfl question
        · rfl

theorem partsFrom_of_classless {pattern : List Char} (classless : '[' ∉ pattern) {n : Nat}
    (enough : pattern.length ≤ n) : partsFrom n pattern = pattern.map partOf := by
  induction pattern generalizing n with
  | nil => cases n <;> rfl
  | cons c rest ih =>
      obtain ⟨n, rfl⟩ : ∃ m, n = m + 1 := Nat.exists_eq_succ_of_ne_zero (by
        rw [List.length_cons] at enough
        omega)
      rw [List.mem_cons, not_or] at classless
      have onward := ih classless.2 (Nat.le_of_succ_le_succ enough)
      by_cases star : c = '*'
      · subst star
        rw [partsFrom, onward]
        rfl
      · by_cases question : c = '?'
        · subst question
          rw [partsFrom, onward]
          rfl
        · rw [partsFrom, onward, List.map_cons, partOf, if_neg star, if_neg question]
          · exact star
          · exact question
          · exact Ne.symm classless.1

end Glob

theorem globMatches_iff {pattern : String} (classless : '[' ∉ pattern.toList) (text : String) :
    globMatches pattern text = true ↔ Glob.Covers pattern.toList text.toList := by
  have single : Glob.Nested [text.toList] := List.pairwise_singleton _ _
  rw [globMatches, Glob.matchParts_iff _ single, Glob.parts,
    Glob.partsFrom_of_classless classless (String.length_toList ▸ Nat.le_refl _)]
  simp only [List.forall₂_map_left_iff, Glob.takes_partOf_iff, List.mem_singleton, Glob.Covers]

namespace Text

theorem mem_split_iff {path segment : String} :
    segment ∈ split '/' path ↔ ∃ segments, join "/" segments = path ∧
      (∀ piece ∈ segments, '/' ∉ piece.toList) ∧ segment ∈ segments := by
  constructor
  · intro member
    exact ⟨_, join_split rfl path, fun piece => free_of_mem_split, member⟩
  · rintro ⟨segments, rfl, free, member⟩
    rwa [split_join_of_free rfl (List.ne_nil_of_mem member) free]

end Text

namespace Rule

theorem holds_iff (rule : Rule) (path : String) (isDirectory : Bool) :
    rule.holds path isDirectory = true ↔ rule.pattern ≠ "" ∧
      (rule.directoryOnly = true → isDirectory = true) ∧
      ((rule.anchored = false ∧ rule.hasSlash = false ∧
          ∃ segment ∈ split '/' path, globMatches rule.pattern segment = true) ∨
        ((rule.anchored = true ∨ rule.hasSlash = true) ∧
          (globMatches rule.pattern path = true ∨
            (rule.directoryOnly = true ∧ rule.pattern.toList ++ ['/'] <+: path.toList)))) := by
  have below : startsWith path (rule.pattern ++ "/") = true ↔
      rule.pattern.toList ++ ['/'] <+: path.toList := by
    rw [startsWith_iff, String.toList_append]
    rfl
  unfold holds
  by_cases blank : rule.pattern = ""
  · simp [blank]
  · cases rule.directoryOnly <;> cases isDirectory <;> cases rule.anchored <;>
      cases rule.hasSlash <;> simp [blank, below]

/-- The rule of a written pattern without classes. It holds where the pattern itself, with its marks
replaced, is the path or, if it has no slash and is not anchored, one of the segments of the path; a
rule for directories needs one, and holds below what is spelled as its pattern. -/
theorem holds_iff_covers {written : String} (filled : ∃ c ∈ written.toList, isBlank c = false)
    (classless : '[' ∉ written.toList) (negated : Bool) :
    ∃ rule, build? written negated = some rule ∧ ∀ path isDirectory,
      rule.holds path isDirectory = true ↔ rule.pattern ≠ "" ∧
        (rule.directoryOnly = true → isDirectory = true) ∧
        ((rule.anchored = false ∧ '/' ∉ rule.pattern.toList ∧
            ∃ segments, join "/" segments = path ∧ (∀ piece ∈ segments, '/' ∉ piece.toList) ∧
              ∃ segment ∈ segments, Glob.Covers rule.pattern.toList segment.toList) ∨
          ((rule.anchored = true ∨ '/' ∈ rule.pattern.toList) ∧
            (Glob.Covers rule.pattern.toList path.toList ∨
              (rule.directoryOnly = true ∧ rule.pattern.toList ++ ['/'] <+: path.toList)))) := by
  obtain ⟨rule, built⟩ := exists_of_filled filled negated
  refine ⟨rule, built, fun path isDirectory => ?_⟩
  have plain : '[' ∉ rule.pattern.toList := fun member => classless (pattern_subset built member)
  have segments : (∃ segment ∈ split '/' path, globMatches rule.pattern segment = true) ↔
      ∃ segments, join "/" segments = path ∧ (∀ piece ∈ segments, '/' ∉ piece.toList) ∧
        ∃ segment ∈ segments, Glob.Covers rule.pattern.toList segment.toList := by
    simp only [mem_split_iff, globMatches_iff plain]
    constructor
    · rintro ⟨segment, ⟨segments, whole, free, member⟩, covers⟩
      exact ⟨segments, whole, free, segment, member, covers⟩
    · rintro ⟨segments, whole, free, segment, member, covers⟩
      exact ⟨segment, ⟨segments, whole, free, member⟩, covers⟩
  have short : rule.hasSlash = false ↔ '/' ∉ rule.pattern.toList := by
    rw [← hasSlash_iff built, Bool.not_eq_true]
  rw [holds_iff, short, hasSlash_iff built, segments, globMatches_iff plain]

theorem wide_holds : (∃ c ∈ " /lib/*-?/ ".toList, isBlank c = false) ∧
    '[' ∉ " /lib/*-?/ ".toList ∧ ∃ rule, build? " /lib/*-?/ " true = some rule ∧
      rule = ⟨"lib/*-?", true, true, true, true⟩ ∧
      rule.holds "lib/old/v-2" true = true ∧ rule.holds "lib/old/v-2" false = false := by
  have filled : ∃ c ∈ " /lib/*-?/ ".toList, isBlank c = false := ⟨'l', by decide, by decide⟩
  have classless : '[' ∉ " /lib/*-?/ ".toList := by decide
  obtain ⟨rule, built, holds⟩ := holds_iff_covers filled classless true
  obtain rfl : rule = ⟨"lib/*-?", true, true, true, true⟩ :=
    Option.some.inj (built.symm.trans (by decide +kernel))
  refine ⟨filled, classless, _, built, rfl, (holds _ _).mpr ⟨by decide, by decide, .inr ⟨.inl rfl,
    .inl ⟨[['l'], ['i'], ['b'], ['/'], "old/v".toList, ['-'], ['2']], ?_, by decide⟩⟩⟩, ?_⟩
  · refine .cons (.itself ?_ ?_) <| .cons (.itself ?_ ?_) <| .cons (.itself ?_ ?_) <|
      .cons (.itself ?_ ?_) <| .cons (.star _) <| .cons (.itself ?_ ?_) <| .cons (.question _) .nil
    all_goals decide
  · rw [← Bool.not_eq_true, holds]
    exact fun held => absurd (held.2.1 rfl) (by decide)

end Rule

end SourceAtlas
