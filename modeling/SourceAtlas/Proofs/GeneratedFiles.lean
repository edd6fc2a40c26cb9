import SourceAtlas.Classification
import SourceAtlas.Proofs.GlobTexts
import SourceAtlas.Proofs.PatternWays

/-!
Which files count as generated. The mark of such a file is looked for with a greedy gap in the
characters that stand for its first bytes. What the search finds is told here by where the pieces of
the mark stand in the bytes themselves, the window that is searched being only a bound on their
ends.
-/
namespace SourceAtlas

open Text

section Offsets

variable {α : Type} {first second piece text : List α} {size : Nat}

theorem append_prefix_iff :
    first ++ second <+: text ↔ first <+: text ∧ second <+: text.drop first.length := by
  constructor
  · rintro ⟨rest, rfl⟩
    rw [List.append_assoc, List.drop_left]
    exact ⟨List.prefix_append _ _, List.prefix_append _ _⟩
  · rintro ⟨⟨rest, rfl⟩, follows⟩
    rw [List.drop_left] at follows
    exact (List.prefix_append_right_inj first).mpr follows

theorem infix_take_iff :
    piece <:+: text.take size ↔
      ∃ start, piece <+: text.drop start ∧ start + piece.length ≤ size := by
  constructor
  · rintro ⟨front, back, whole⟩
    have lengths := congrArg List.length whole
    simp only [List.length_append, List.length_take] at lengths
    have spelled : text = front ++ (piece ++ (back ++ text.drop size)) := by
      rw [← List.append_assoc, ← List.append_assoc, whole, List.take_append_drop]
    refine ⟨front.length, ?_, by omega⟩
    rw [spelled, List.drop_left]
    exact List.prefix_append _ _
  · rintro ⟨start, stands, ends⟩
    have within : piece <+: (text.take size).drop start := by
      rw [List.drop_take, List.prefix_take_iff]
      exact ⟨stands, by omega⟩
    exact within.isInfix.trans (List.drop_suffix start _).isInfix

/-- Two pieces stand in the front of a text, the second after the first and something that is to be
avoided nowhere between them. -/
theorem exists_between_iff {avoided : α} :
    (∃ between, avoided ∉ between ∧ first ++ between ++ second <:+: text.take size) ↔
      ∃ start stop, first <+: text.drop start ∧ start + first.length ≤ stop ∧
        (∀ offset < stop, start + first.length ≤ offset → text[offset]? ≠ some avoided) ∧
        second <+: text.drop stop ∧ stop + second.length ≤ size := by
  simp only [infix_take_iff, append_prefix_iff, List.drop_drop, List.length_append]
  constructor
  · rintro ⟨between, free, start, ⟨⟨opens, gap⟩, closes⟩, ends⟩
    refine ⟨start, start + (first.length + between.length), opens, by omega, ?_, closes, by omega⟩
    intro offset early late found
    have inside : offset - (start + first.length) < between.length := by omega
    have there := List.prefix_iff_getElem?.mp gap _ inside
    rw [List.getElem?_drop, Nat.add_sub_cancel' late, found] at there
    exact free (Option.some.inj there ▸ List.getElem_mem inside)
  · rintro ⟨start, stop, opens, order, free, closes, ends⟩
    refine ⟨(text.drop (start + first.length)).take (stop - (start + first.length)), ?_, start,
      ⟨⟨opens, List.take_prefix _ _⟩, ?_⟩, ?_⟩
    · intro member
      obtain ⟨k, inside, same⟩ := List.mem_take_iff_getElem.mp member
      refine free (start + first.length + k) (by omega) (Nat.le_add_right _ k) ?_
      rw [← List.getElem?_drop, List.getElem?_eq_getElem (by omega), same]
    · rw [List.length_take, List.length_drop]
      rcases Nat.le_total stop text.length with within | beyond
      · have same : start + (first.length +
            min (stop - (start + first.length)) (text.length - (start + first.length))) = stop := by
          omega
        rwa [same]
      -- past the end of the text there is room for an empty piece only
      · rw [List.drop_eq_nil_of_le beyond] at closes
        rw [List.prefix_nil.mp closes]
        exact List.nil_prefix
    · rw [List.length_take]
      omega

end Offsets

/-- The beginning of the phrase, with the blank that ends it. -/
def phraseStart : Bytes := Utf8.encode "Code generated "

def phraseEnd : Bytes := Utf8.encode " DO NOT EDIT"

def generatedTag : Bytes := Utf8.encode "@generated"

theorem takes_generatedMark {before : Option Char} {piece rest : List Char} :
    generatedMark.Takes before piece rest ↔
      (∃ words, '\n' ∉ words ∧
        piece = "Code generated ".toList ++ words ++ " DO NOT EDIT".toList) ∨
      piece = "@generated".toList := by
  have single (words : List Char) : (∀ c ∈ words, (c != '\n') = true) ↔ '\n' ∉ words := by
    simp only [bne_iff_ne]
    exact List.forall_mem_ne'
  simp only [generatedMark, Pattern.takes_either, Pattern.takes_append, Pattern.takes_literal,
    Pattern.takes_many, single]
  refine or_congr_left ⟨?_, ?_⟩
  · rintro ⟨_, _, rfl, ⟨_, words, rfl, rfl, line⟩, rfl⟩
    exact ⟨words, line, rfl⟩
  · rintro ⟨words, line, rfl⟩
    exact ⟨_, _, rfl, ⟨_, words, rfl, rfl, line⟩, rfl⟩

theorem ofUInt8_injective : Function.Injective Char.ofUInt8 := by
  intro a b same
  exact UInt8.toUInt32_inj.mp (congrArg Char.val same)

theorem hasGeneratedMark_iff_stands (head : Bytes) :
    hasGeneratedMark head = true ↔
      (∃ words, 10 ∉ words ∧ phraseStart ++ words ++ phraseEnd <:+: head.take markerWindow) ∨
        generatedTag <:+: head.take markerWindow := by
  have opens : "Code generated ".toList = phraseStart.map Char.ofUInt8 := by decide
  have closes : " DO NOT EDIT".toList = phraseEnd.map Char.ofUInt8 := by decide
  have tag : "@generated".toList = generatedTag.map Char.ofUInt8 := by decide
  have filled : ¬((∃ words, '\n' ∉ words ∧
      [] = "Code generated ".toList ++ words ++ " DO NOT EDIT".toList) ∨
        [] = "@generated".toList) := by
    rintro (⟨words, -, nothing⟩ | nothing)
    · exact List.append_ne_nil_of_right_ne_nil _ (by decide) nothing.symm
    · exact absurd nothing (by decide)
  rw [hasGeneratedMark, Pattern.find?_isSome_iff_stands takes_generatedMark filled]
  constructor
  · rintro ⟨_, ⟨words, line, rfl⟩ | rfl, found⟩
    · obtain ⟨spelled, stands, same⟩ := List.infix_map_iff.mp found
      obtain ⟨_, back, rfl, same, closed⟩ := List.map_eq_append_iff.mp same.symm
      obtain ⟨front, between, rfl, opened, rfl⟩ := List.map_eq_append_iff.mp same
      obtain rfl := ofUInt8_injective.list_map (opened.trans opens)
      obtain rfl := ofUInt8_injective.list_map (closed.trans closes)
      exact .inl ⟨between, fun member => line (List.mem_map.mpr ⟨10, member, rfl⟩), stands⟩
    · obtain ⟨spelled, stands, same⟩ := List.infix_map_iff.mp found
      obtain rfl := ofUInt8_injective.list_map (same.symm.trans tag)
      exact .inr stands
  · rintro (⟨words, line, stands⟩ | stands)
    · have single : '\n' ∉ words.map Char.ofUInt8 := by
        intro member
        obtain ⟨b, inside, same⟩ := List.mem_map.mp member
        obtain rfl : b = 10 := ofUInt8_injective same
        exact line inside
      refine ⟨_, .inl ⟨_, single, rfl⟩, ?_⟩
      rw [opens, closes, ← List.map_append, ← List.map_append]
      exact stands.map Char.ofUInt8
    · exact ⟨_, .inr rfl, tag ▸ stands.map Char.ofUInt8⟩

theorem generatedNames_iff (name : String) :
    generatedNames.any (globMatches · name) = true ↔
      ∃ pattern ∈ generatedNames, Glob.Covers pattern.toList name.toList := by
  have classless : ∀ pattern ∈ generatedNames, '[' ∉ pattern.toList := by decide
  rw [List.any_eq_true]
  exact exists_congr fun pattern => and_congr_right fun member =>
    globMatches_iff (classless pattern member) name

theorem isGenerated_congr {first second : Bytes}
    (front : second.take markerWindow = first.take markerWindow) (name : String) :
    isGenerated name second = isGenerated name first := by
  rw [isGenerated, hasGeneratedMark, front, ← hasGeneratedMark, ← isGenerated]

/-- A file counts as generated exactly if its name comes of one of the patterns, or if the tag or
the phrase stands in its first 1024 bytes, the end of the phrase after its beginning and in the same
line. The bytes after these never matter. -/
theorem isGenerated_iff_stands (name : String) (head : Bytes) :
    (isGenerated name head = true ↔
      (∃ pattern ∈ generatedNames, Glob.Covers pattern.toList name.toList) ∨
        (∃ start, Utf8.encode "@generated" <+: head.drop start ∧ start + 10 ≤ 1024) ∨
        ∃ start stop, Utf8.encode "Code generated " <+: head.drop start ∧ start + 15 ≤ stop ∧
          (∀ offset < stop, start + 15 ≤ offset → head[offset]? ≠ some 10) ∧
          Utf8.encode " DO NOT EDIT" <+: head.drop stop ∧ stop + 12 ≤ 1024) ∧
      ∀ other : Bytes, other.take 1024 = head.take 1024 →
        isGenerated name other = isGenerated name head := by
  have start : phraseStart.length = 15 := by decide
  have stop : phraseEnd.length = 12 := by decide
  have tag : generatedTag.length = 10 := by decide
  constructor
  · rw [isGenerated, Bool.or_eq_true, generatedNames_iff, hasGeneratedMark_iff_stands,
      exists_between_iff, infix_take_iff, start, stop, tag]
    exact or_congr_right or_comm
  · intro other same
    exact isGenerated_congr same name

theorem mocks_generated :
    isGenerated "mock.go"
        (Utf8.encode "// Code generated by hand\n// Code generated by a tool. DO NOT EDIT.\n") =
          true ∧
      (List.replicate 1015 32 ++ Utf8.encode "@generated").take 1024 =
        (List.replicate 1015 32 ++ Utf8.encode "@generates").take 1024 ∧
      isGenerated "mock.go" (List.replicate 1015 32 ++ Utf8.encode "@generated") = false := by
  have front : (List.replicate 1015 32 ++ Utf8.encode "@generated").take 1024 =
      (List.replicate 1015 32 ++ Utf8.encode "@generates").take 1024 := by
    decide +kernel
  refine ⟨?_, front, ?_⟩
  · exact (isGenerated_iff_stands _ _).1.mpr (.inr (.inr ⟨29, 54, by decide⟩))
  · rw [(isGenerated_iff_stands _ _).2 _ front]
    decide +kernel

end SourceAtlas
