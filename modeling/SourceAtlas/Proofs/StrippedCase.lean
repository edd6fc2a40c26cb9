import SourceAtlas.Proofs.LowerCase
import SourceAtlas.Proofs.TextPieces
import SourceAtlas.Registry

/-!
White space around a text and its case. No white space has a case or comes out of a case, and a
capital sigma does not see it, so it makes no difference which of the two a text loses first. Names
are asked for without either.
-/
namespace SourceAtlas.Text

theorem CodeSet.exists_of_within {spans : Array (Nat × Nat)} {n low high : Nat}
    (inside : within spans n low high = true) :
    ∃ span ∈ spans.toList, span.1 ≤ n ∧ n ≤ span.2 := by
  fun_induction within spans n low high with
  | case1 => cases inside
  | case2 low high _ _ first last _ _ ih => exact ih inside
  | case3 low high _ _ first last _ _ _ ih => exact ih inside
  | case4 low high _ _ first last there above below =>
      refine ⟨(first, last), ?_, not_lt.mp above, not_lt.mp below⟩
      obtain ⟨_, at_⟩ := Array.getElem?_eq_some_iff.mp there
      exact Array.mem_toList_iff.mpr (at_ ▸ Array.getElem_mem _)
  | case5 => cases inside

def blankPoints : List Nat :=
  [9, 10, 11, 12, 13, 28, 29, 30, 31, 32, 0x85, 0xa0, 0x1680, 0x2000, 0x2001, 0x2002, 0x2003,
    0x2004, 0x2005, 0x2006, 0x2007, 0x2008, 0x2009, 0x200a, 0x2028, 0x2029, 0x202f, 0x205f, 0x3000]

theorem mem_blankPoints {c : Char} (blank : isBlank c = true) : c.toNat ∈ blankPoints := by
  simp only [isBlank, Bool.or_eq_true, Bool.and_eq_true, decide_eq_true_eq, beq_iff_eq] at blank
  simp only [blankPoints, List.mem_cons, List.not_mem_nil, or_false]
  omega

def spansApart (spans : List (Nat × Nat)) : Bool :=
  spans.all fun span => blankPoints.all fun n => n < span.1 || span.2 < n

theorem not_contains_of_apart {set : CodeSet} {spans : List (Nat × Nat)}
    (same : set.spans = spans.toArray) (apart : spansApart spans = true) {c : Char}
    (blank : isBlank c = true) : set.contains c = false := by
  rw [Bool.eq_false_iff]
  intro inside
  obtain ⟨span, listed, least, most⟩ := CodeSet.exists_of_within inside
  rw [same, List.toList_toArray] at listed
  have outside := List.all_eq_true.mp (List.all_eq_true.mp apart span listed) _
    (mem_blankPoints blank)
  simp only [Bool.or_eq_true, decide_eq_true_eq] at outside
  omega

theorem CodeSet.spans_ofPacked (text : List Char) :
    (CodeSet.ofPacked (.ofList text)).spans = (CodeSet.unpack 0 (decimalsIn text)).toArray := by
  rw [CodeSet.ofPacked, decimals_ofList]

set_option maxRecDepth 20000 in
theorem cased_apart : ∃ spans : List (Nat × Nat), cased.spans = spans.toArray ∧
    spansApart spans = true :=
  ⟨_, CodeSet.spans_ofPacked _, by decide +kernel⟩

set_option maxRecDepth 20000 in
theorem caseless_apart : ∃ spans : List (Nat × Nat), caseless.spans = spans.toArray ∧
    spansApart spans = true :=
  ⟨_, CodeSet.spans_ofPacked _, by decide +kernel⟩

set_option maxRecDepth 20000 in
theorem lowerMap_apart : ∃ runs : List CaseRun, lowerMap.runs = runs.toArray ∧
    (bitsOf blankPoints &&&
      bitsOf (runs.flatMap CaseRun.points ++ runs.flatMap CaseRun.images) == 0) = true :=
  ⟨_, CaseRun.ofPacked_ofList _, by decide +kernel⟩

theorem not_cased_of_blank {c : Char} (blank : isBlank c = true) : isCased c = false := by
  unfold isCased
  split
  next ascii =>
    have letters : ∀ n : Fin 128, n.val ∈ blankPoints → (Char.ofNat n).isAlpha = false := by decide
    have letter := letters ⟨c.toNat, ascii⟩ (mem_blankPoints blank)
    rwa [Char.ofNat_toNat] at letter
  · obtain ⟨_, same, apart⟩ := cased_apart
    exact not_contains_of_apart same apart blank

theorem not_caseless_of_blank {c : Char} (blank : isBlank c = true) :
    caseless.contains c = false := by
  obtain ⟨_, same, apart⟩ := caseless_apart
  exact not_contains_of_apart same apart blank

theorem lowerMap_image_cases {c : Char} (wide : ¬c.toNat < 128) (single : c.toNat ≠ 304) :
    lowerChar c = [c] ∨ isBlank c = false ∧ ∃ d, lowerChar c = [d] ∧ isBlank d = false := by
  obtain ⟨runs, same, apart⟩ := lowerMap_apart
  have free {n : Nat} (white : n ∈ blankPoints) :
      n ∉ runs.flatMap CaseRun.points ++ runs.flatMap CaseRun.images := by
    intro listed
    have both := congrArg (·.testBit n) (beq_iff_eq.mp apart)
    simp only [Nat.testBit_and, Nat.zero_testBit, (testBit_bitsOf _ _).mpr white,
      (testBit_bitsOf _ _).mpr listed] at both
    cases both
  rw [lowerChar_wide same wide single]
  rcases CaseRun.image_cases runs c.toNat with ⟨point, image⟩ | ⟨_, stays⟩
  · refine .inr ⟨?_, _, rfl, ?_⟩
    · refine Bool.eq_false_iff.mpr fun blank => ?_
      exact free (mem_blankPoints blank) (List.mem_append_left _ point)
    · refine Bool.eq_false_iff.mpr fun blank => ?_
      by_cases valid : (CaseRun.image runs.toArray c.toNat).isValidChar
      · have white := mem_blankPoints blank
        rw [Char.ofNat, dif_pos valid] at white
        exact free white (List.mem_append_right _ image)
      · rw [Char.ofNat, dif_neg valid] at blank
        exact absurd blank (by decide)
  · exact .inl (by rw [stays, Char.ofNat_toNat])

theorem lowerChar_of_blank {c : Char} (blank : isBlank c = true) : lowerChar c = [c] := by
  by_cases ascii : c.toNat < 128
  · have still : ∀ n : Fin 128, n.val ∈ blankPoints → (Char.ofNat n).toLower = Char.ofNat n := by
      decide
    have kept := still ⟨c.toNat, ascii⟩ (mem_blankPoints blank)
    rw [Char.ofNat_toNat] at kept
    rw [lowerChar, if_pos ascii, kept]
  · have single : c.toNat ≠ 304 := fun dotted =>
      absurd (dotted ▸ mem_blankPoints blank) (by decide)
    rcases lowerMap_image_cases ascii single with kept | ⟨solid, _⟩
    · exact kept
    · rw [blank] at solid
      cases solid

/-- A text with something in it and without white space. -/
def Solid (text : List Char) : Prop := text ≠ [] ∧ ∀ c ∈ text, isBlank c = false

theorem solid_singleton {c : Char} (solid : isBlank c = false) : Solid [c] :=
  ⟨List.cons_ne_nil _ _, fun _ member => List.mem_singleton.mp member ▸ solid⟩

theorem solid_lowerChar {c : Char} (solid : isBlank c = false) : Solid (lowerChar c) := by
  by_cases ascii : c.toNat < 128
  · have kept : ∀ n : Fin 128, isBlank (Char.ofNat n) = false →
        isBlank (Char.ofNat n).toLower = false := by decide +kernel
    have image := kept ⟨c.toNat, ascii⟩
    rw [Char.ofNat_toNat] at image
    rw [lowerChar, if_pos ascii]
    exact solid_singleton (image solid)
  · by_cases dotted : c.toNat = 304
    · rw [lowerChar, if_neg ascii, CaseMap.image, wide_lowerMap, dotted]
      exact ⟨List.cons_ne_nil _ _,
        List.forall_mem_cons.mpr ⟨by decide, List.forall_mem_singleton.mpr (by decide)⟩⟩
    · rcases lowerMap_image_cases ascii dotted with kept | ⟨_, d, image, still⟩
      · rw [kept]
        exact solid_singleton solid
      · rw [image]
        exact solid_singleton still

theorem isBlank_lowerSigma (before rest : List Char) :
    isBlank (lowerSigma before rest) = false := by
  unfold lowerSigma
  split <;> decide

def lowerAt (before : List Char) (c : Char) (rest : List Char) : List Char :=
  if c = capitalSigma then [lowerSigma before rest] else lowerChar c

theorem lowerFrom_cons (before : List Char) (c : Char) (rest : List Char) :
    lowerFrom before (c :: rest) = lowerAt before c rest ++ lowerFrom (c :: before) rest := rfl

theorem solid_lowerAt {c : Char} (solid : isBlank c = false) (before rest : List Char) :
    Solid (lowerAt before c rest) := by
  unfold lowerAt
  split
  · exact solid_singleton (isBlank_lowerSigma before rest)
  · exact solid_lowerChar solid

theorem lowerAt_of_blank {c : Char} (blank : isBlank c = true) (before rest : List Char) :
    lowerAt before c rest = [c] := by
  have other : c ≠ capitalSigma := fun same => absurd (same ▸ blank) (by decide)
  rw [lowerAt, if_neg other, lowerChar_of_blank blank]

theorem lowerFrom_of_free {text : List Char} (free : capitalSigma ∉ text) (before : List Char) :
    lowerFrom before text = text.flatMap lowerChar := by
  induction text generalizing before with
  | nil => rfl
  | cons c rest ih =>
      rw [List.mem_cons, not_or] at free
      rw [lowerFrom_cons, lowerAt, if_neg (Ne.symm free.1), ih free.2, List.flatMap_cons]

theorem lowerChars_eq (text : List Char) : lowerChars text = lowerFrom [] text := by
  unfold lowerChars
  split
  · rfl
  next free =>
    have none : capitalSigma ∉ text := fun inside => free (List.contains_iff_mem.mpr inside)
    exact (lowerFrom_of_free none []).symm

theorem meetsCased_append {blanks : List Char} (white : ∀ c ∈ blanks, isBlank c = true)
    (text : List Char) : meetsCased (text ++ blanks) = meetsCased text := by
  induction text with
  | nil =>
      cases blanks with
      | nil => rfl
      | cons c rest =>
          have blank := white c List.mem_cons_self
          change meetsCased (c :: rest) = false
          rw [meetsCased, not_caseless_of_blank blank, not_cased_of_blank blank]
          rfl
  | cons c rest ih => rw [List.cons_append, meetsCased, meetsCased, ih]

theorem lowerFrom_after_blanks {blanks : List Char} (white : ∀ c ∈ blanks, isBlank c = true)
    (before text : List Char) : lowerFrom (before ++ blanks) text = lowerFrom before text := by
  induction text generalizing before with
  | nil => rfl
  | cons c rest ih =>
      rw [lowerFrom_cons, lowerFrom_cons, ← List.cons_append, ih (c :: before), lowerAt, lowerAt,
        lowerSigma, lowerSigma, meetsCased_append white]

theorem lowerFrom_concat_blank {blank : Char} (white : isBlank blank = true)
    (before text : List Char) :
    lowerFrom before (text ++ [blank]) = lowerFrom before text ++ [blank] := by
  induction text generalizing before with
  | nil =>
      rw [List.nil_append, lowerFrom_cons, lowerAt_of_blank white]
      rfl
  | cons c rest ih =>
      have single : ∀ c ∈ [blank], isBlank c = true := fun _ member =>
        List.mem_singleton.mp member ▸ white
      rw [List.cons_append, lowerFrom_cons, lowerFrom_cons, ih, List.append_assoc, lowerAt, lowerAt,
        lowerSigma, lowerSigma, meetsCased_append single]

theorem lowerFrom_concat {last : Char} (solid : isBlank last = false) (before text : List Char) :
    ∃ front image, lowerFrom before (text ++ [last]) = front ++ image ∧ Solid image := by
  induction text generalizing before with
  | nil =>
      refine ⟨[], _, ?_, solid_lowerAt solid before []⟩
      rw [List.nil_append, lowerFrom_cons, List.nil_append, lowerFrom, List.append_nil]
  | cons c rest ih =>
      obtain ⟨front, image, same, filled⟩ := ih (c :: before)
      exact ⟨_, image, by rw [List.cons_append, lowerFrom_cons, same, List.append_assoc], filled⟩

theorem trimStart_solid {text : List Char} (solid : Solid text) (rest : List Char) :
    trimStart isBlank (text ++ rest) = text ++ rest := by
  obtain ⟨c, more, rfl⟩ := List.exists_cons_of_ne_nil solid.1
  have first : ¬isBlank c = true := Bool.eq_false_iff.mp (solid.2 c List.mem_cons_self)
  rw [List.cons_append, trimStart, List.dropWhile_cons_of_neg first]

theorem trimEnd_solid {text : List Char} (solid : Solid text) (front : List Char) :
    trimEnd isBlank (front ++ text) = front ++ text := by
  obtain ⟨most, c, rfl⟩ := List.eq_nil_or_concat text |>.resolve_left solid.1
  have last : ¬isBlank c = true := Bool.eq_false_iff.mp (solid.2 c (by simp))
  rw [List.concat_eq_append, ← List.append_assoc]
  exact List.rdropWhile_concat_neg _ _ _ last

theorem trimStart_lowerFrom {blanks : List Char} (white : ∀ c ∈ blanks, isBlank c = true)
    (text : List Char) :
    trimStart isBlank (lowerFrom blanks text) = lowerFrom [] (trimStart isBlank text) := by
  induction text generalizing blanks with
  | nil => rfl
  | cons c rest ih =>
      cases blank : isBlank c with
      | true =>
          have more : ∀ d ∈ c :: blanks, isBlank d = true := by
            rintro d (_ | ⟨_, member⟩)
            · exact blank
            · exact white d member
          rw [lowerFrom_cons, lowerAt_of_blank blank, List.singleton_append, trimStart, trimStart,
            List.dropWhile_cons_of_pos blank, List.dropWhile_cons_of_pos blank]
          exact ih more
      | false =>
          have solid : ¬isBlank c = true := Bool.eq_false_iff.mp blank
          rw [trimStart, trimStart, List.dropWhile_cons_of_neg solid,
            ← List.nil_append blanks, lowerFrom_after_blanks white, lowerFrom_cons]
          exact trimStart_solid (solid_lowerAt blank [] rest) _

theorem trimEnd_lowerFrom (before text : List Char) :
    trimEnd isBlank (lowerFrom before text) = lowerFrom before (trimEnd isBlank text) := by
  induction text using List.reverseRecOn with
  | nil => rfl
  | append_singleton text last ih =>
      cases blank : isBlank last with
      | true =>
          rw [lowerFrom_concat_blank blank]
          change List.rdropWhile isBlank _ = lowerFrom before (List.rdropWhile isBlank _)
          rw [List.rdropWhile_concat_pos _ _ _ blank, List.rdropWhile_concat_pos _ _ _ blank]
          exact ih
      | false =>
          have solid : ¬isBlank last = true := Bool.eq_false_iff.mp blank
          change _ = lowerFrom before (List.rdropWhile isBlank _)
          rw [List.rdropWhile_concat_neg _ _ _ solid]
          obtain ⟨front, image, same, filled⟩ := lowerFrom_concat blank before text
          rw [same, trimEnd_solid filled]

theorem strip_strip (text : String) : strip (strip text) = strip text := by
  rw [strip, toList_strip, trimChars_trimChars, ← strip]

theorem strip_lower (text : String) : strip (lower text) = lower (strip text) := by
  have white : ∀ c ∈ ([] : List Char), isBlank c = true := fun _ member => nomatch member
  unfold strip lower
  rw [String.toList_ofList, String.toList_ofList, lowerChars_eq, lowerChars_eq, trimChars,
    trimStart_lowerFrom white, trimEnd_lowerFrom, trimChars]

end SourceAtlas.Text

namespace SourceAtlas.Registry
open Text

theorem requestKey_lower (name : String) : requestKey (lower name) = requestKey name := by
  rw [requestKey, strip_lower, lower_lower, requestKey]

theorem requestKey_requestKey (name : String) : requestKey (requestKey name) = requestKey name := by
  change lower (strip (lower (strip name))) = lower (strip name)
  rw [strip_lower, strip_strip, lower_lower]

end SourceAtlas.Registry
