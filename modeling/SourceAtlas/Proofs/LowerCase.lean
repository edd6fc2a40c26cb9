import SourceAtlas.Text.Case
import Mathlib.Data.Nat.Bitwise

/-!
Lower case is final: a text in lower case is not changed by lowering it once more. No character that
is the lower-case image of another has an image of its own, which the table is asked once, with its
points as the bits of a number.
-/
namespace SourceAtlas.Text

def decimalsIn (text : List Char) : List Nat :=
  let step := fun (state : Option Nat × List Nat) (c : Char) =>
    if c.isDigit then (some (state.1.getD 0 * 10 + (c.toNat - 48)), state.2)
    else match state.1 with
      | some n => (none, n :: state.2)
      | none => state
  let state := text.foldl step (none, [])
  match state.1 with
  | some n => (n :: state.2).reverse
  | none => state.2.reverse

theorem decimals_ofList (text : List Char) : decimals (.ofList text) = decimalsIn text := by
  have same (written : String) : decimals written = decimalsIn written.toList := rfl
  rw [same, String.toList_ofList]

def bitsOf (points : List Nat) : Nat := points.foldr (fun n bits => bits ||| 1 <<< n) 0

theorem testBit_bitsOf (points : List Nat) (n : Nat) :
    (bitsOf points).testBit n = true ↔ n ∈ points := by
  induction points with
  | nil => simp [bitsOf]
  | cons first rest ih =>
      have one : (1 <<< first).testBit n = true ↔ n = first := by
        rw [Nat.one_shiftLeft, Nat.testBit_two_pow, decide_eq_true_iff]
        exact eq_comm
      change (bitsOf rest ||| 1 <<< first).testBit n = true ↔ _
      rw [Nat.testBit_or, Bool.or_eq_true, ih, one, List.mem_cons]
      exact or_comm

namespace CaseRun

theorem ofPacked_ofList (text : List Char) :
    ofPacked (.ofList text) = (unpack 0 (decimalsIn text)).toArray := by
  rw [ofPacked, decimals_ofList]

def points (run : CaseRun) : List Nat :=
  (List.range (run.extra + 1)).map fun k => run.first + k * run.stride

def images (run : CaseRun) : List Nat := run.points.map fun n => n + run.up - run.down

theorem mem_points_iff (run : CaseRun) (n : Nat) :
    n ∈ run.points ↔ run.first ≤ n ∧ n ≤ run.last ∧ (n - run.first) % run.stride = 0 := by
  unfold points last
  rw [List.mem_map]
  constructor
  · rintro ⟨k, few, rfl⟩
    have bound := Nat.mul_le_mul_right run.stride (Nat.le_of_lt_succ (List.mem_range.mp few))
    refine ⟨Nat.le_add_right _ _, by omega, ?_⟩
    rw [Nat.add_sub_cancel_left, Nat.mul_mod_left]
  · rintro ⟨low, high, step⟩
    refine ⟨(n - run.first) / run.stride, List.mem_range.mpr ?_, ?_⟩
    · refine Nat.lt_succ_of_le (Nat.div_le_of_le_mul ?_)
      rw [Nat.mul_comm]
      omega
    · rw [Nat.div_mul_cancel (Nat.dvd_of_mod_eq_zero step)]
      omega

theorem imageOf_eq (run : CaseRun) (n : Nat) :
    run.imageOf? n = if n ∈ run.points then some (n + run.up - run.down) else none := by
  unfold imageOf?
  simp only [mem_points_iff, Bool.and_eq_true, decide_eq_true_eq, beq_iff_eq, and_assoc]

theorem image_cases (runs : List CaseRun) (n : Nat) :
    (n ∈ runs.flatMap points ∧ image runs.toArray n ∈ runs.flatMap images) ∨
      n ∉ runs.flatMap points ∧ image runs.toArray n = n := by
  unfold image
  rw [List.findSome?_toArray]
  cases moved : runs.findSome? fun run => run.imageOf? n with
  | some m =>
      obtain ⟨run, listed, given⟩ := List.exists_of_findSome?_eq_some moved
      rw [imageOf_eq] at given
      split at given
      next point =>
        refine .inl ⟨List.mem_flatMap.mpr ⟨run, listed, point⟩,
          List.mem_flatMap.mpr ⟨run, listed, ?_⟩⟩
        rw [← Option.some.inj given]
        exact List.mem_map_of_mem point
      · cases given
  | none =>
      refine .inr ⟨fun point => ?_, rfl⟩
      obtain ⟨run, listed, inside⟩ := List.mem_flatMap.mp point
      have none := List.findSome?_eq_none_iff.mp moved run listed
      rw [imageOf_eq, if_pos inside] at none
      cases none

end CaseRun

/-- Images that are given apart from the runs: the dot above of the dotted capital i, and the two
small sigmas. -/
def spareImages : List Nat := [775, 0x3c2, 0x3c3]

def settles (runs : List CaseRun) : Bool :=
  let moved := bitsOf (304 :: runs.flatMap CaseRun.points)
  moved &&& bitsOf (spareImages ++ runs.flatMap CaseRun.images) == 0 &&
    (List.range 26).all (fun k => moved.testBit (65 + k)) && moved.testBit 0x3a3

set_option maxRecDepth 20000 in
theorem settles_lowerMap : ∃ runs : List CaseRun, lowerMap.runs = runs.toArray ∧
    settles runs = true :=
  ⟨_, CaseRun.ofPacked_ofList _, by decide +kernel⟩

/-- What the table says of a point: either nothing moves it, or it is no image. -/
structure Table (runs : List CaseRun) : Prop where
  apart : ∀ n ∈ 304 :: runs.flatMap CaseRun.points,
    n ∉ spareImages ++ runs.flatMap CaseRun.images
  capital : ∀ n, 65 ≤ n → n ≤ 90 → n ∈ 304 :: runs.flatMap CaseRun.points
  sigma : 0x3a3 ∈ 304 :: runs.flatMap CaseRun.points

theorem table_of_settles {runs : List CaseRun} (settled : settles runs = true) : Table runs := by
  unfold settles at settled
  simp only [Bool.and_eq_true, beq_iff_eq, List.all_eq_true, List.mem_range] at settled
  obtain ⟨⟨disjoint, capital⟩, sigma⟩ := settled
  refine ⟨fun n moved image => ?_, fun n low high => ?_, (testBit_bitsOf _ _).mp sigma⟩
  · have both := congrArg (·.testBit n) disjoint
    simp only [Nat.testBit_and, Nat.zero_testBit, (testBit_bitsOf _ _).mpr moved,
      (testBit_bitsOf _ _).mpr image] at both
    cases both
  · have bit := capital (n - 65) (by omega)
    rw [Nat.add_sub_cancel' low] at bit
    exact (testBit_bitsOf _ _).mp bit

theorem wide_lowerMap : lowerMap.wide = [(304, [105, 775])] := by
  have packed : decimals "304 2 105 775" = [304, 2, 105, 775] :=
    (decimals_ofList _).trans (by decide)
  unfold lowerMap
  rw [packed]
  rfl

def Lowered (c : Char) : Prop := lowerChar c = [c] ∧ c ≠ capitalSigma

theorem lowered_of_ascii {c : Char} (ascii : c.toNat < 128)
    (small : ¬(65 ≤ c.toNat ∧ c.toNat ≤ 90)) : Lowered c := by
  refine ⟨?_, fun same => absurd (same ▸ ascii) (by decide)⟩
  have kept : c.toLower = c := by
    unfold Char.toLower
    rw [dif_neg]
    exact small
  rw [lowerChar, if_pos ascii, kept]

theorem lowerChar_wide {runs : List CaseRun} (same : lowerMap.runs = runs.toArray) {c : Char}
    (wide : ¬c.toNat < 128) (single : c.toNat ≠ 304) :
    lowerChar c = [Char.ofNat (CaseRun.image runs.toArray c.toNat)] := by
  rw [lowerChar, if_neg wide, CaseMap.image, wide_lowerMap, List.lookup_cons,
    beq_false_of_ne single, same]
  rfl

theorem lowered_of_unmoved {runs : List CaseRun} (same : lowerMap.runs = runs.toArray)
    (table : Table runs) {c : Char} (unmoved : c.toNat ∉ 304 :: runs.flatMap CaseRun.points) :
    Lowered c := by
  by_cases ascii : c.toNat < 128
  · exact lowered_of_ascii ascii fun ⟨low, high⟩ => unmoved (table.capital _ low high)
  · refine ⟨?_, ?_⟩
    · rw [List.mem_cons, not_or] at unmoved
      rcases CaseRun.image_cases runs c.toNat with ⟨point, _⟩ | ⟨_, stays⟩
      · exact absurd point unmoved.2
      · rw [lowerChar_wide same ascii unmoved.1, stays, Char.ofNat_toNat]
    · rintro rfl
      exact unmoved table.sigma

/-- Images in the table are left as they are; a number that is no character stands for the first
one. -/
theorem lowered_of_image {runs : List CaseRun} (same : lowerMap.runs = runs.toArray)
    (table : Table runs) {m : Nat} (image : m ∈ spareImages ++ runs.flatMap CaseRun.images) :
    Lowered (Char.ofNat m) := by
  by_cases valid : m.isValidChar
  · refine lowered_of_unmoved same table fun moved => ?_
    have code : (Char.ofNat m).toNat = m := by
      rw [Char.ofNat, dif_pos valid]
      rfl
    exact table.apart m (code ▸ moved) image
  · rw [Char.ofNat, dif_neg valid]
    exact lowered_of_ascii (by decide) (by decide)

theorem lowered_of_mem_lowerChar {c d : Char} (member : d ∈ lowerChar c) : Lowered d := by
  obtain ⟨runs, same, settled⟩ := settles_lowerMap
  have table := table_of_settles settled
  by_cases ascii : c.toNat < 128
  · have small : ∀ n : Fin 128, (Char.ofNat n).toLower.toNat < 128 ∧
        ¬(65 ≤ (Char.ofNat n).toLower.toNat ∧ (Char.ofNat n).toLower.toNat ≤ 90) := by decide
    have image := small ⟨c.toNat, ascii⟩
    rw [Char.ofNat_toNat] at image
    rw [lowerChar, if_pos ascii, List.mem_singleton] at member
    rw [member]
    exact lowered_of_ascii image.1 image.2
  · by_cases dotted : c.toNat = 304
    · rw [lowerChar, if_neg ascii, CaseMap.image, wide_lowerMap, dotted] at member
      rcases List.mem_cons.mp (show d ∈ [Char.ofNat 105, Char.ofNat 775] from member) with
        rfl | last
      · exact lowered_of_ascii (by decide) (by decide)
      · rw [List.mem_singleton.mp last]
        exact lowered_of_image same table (List.mem_append_left _ (by decide))
    · rw [lowerChar_wide same ascii dotted, List.mem_singleton] at member
      rw [member]
      rcases CaseRun.image_cases runs c.toNat with ⟨_, image⟩ | ⟨still, stays⟩
      · exact lowered_of_image same table (List.mem_append_right _ image)
      · rw [stays, Char.ofNat_toNat]
        exact lowered_of_unmoved same table (List.not_mem_cons_of_ne_of_not_mem dotted still)

theorem lowered_lowerSigma (before rest : List Char) : Lowered (lowerSigma before rest) := by
  obtain ⟨runs, same, settled⟩ := settles_lowerMap
  have table := table_of_settles settled
  unfold lowerSigma
  split <;> exact lowered_of_image same table (List.mem_append_left _ (by decide))

theorem lowered_of_mem_lowerFrom {before text : List Char} {d : Char}
    (member : d ∈ lowerFrom before text) : Lowered d := by
  induction text generalizing before with
  | nil => cases member
  | cons c rest ih =>
      rcases List.mem_append.mp member with first | later
      · split at first
        · rw [List.mem_singleton.mp first]
          exact lowered_lowerSigma before rest
        · exact lowered_of_mem_lowerChar first
      · exact ih later

theorem lowered_of_mem_lowerChars {text : List Char} {d : Char} (member : d ∈ lowerChars text) :
    Lowered d := by
  unfold lowerChars at member
  split at member
  · exact lowered_of_mem_lowerFrom member
  · obtain ⟨c, _, image⟩ := List.mem_flatMap.mp member
    exact lowered_of_mem_lowerChar image

theorem lowerChars_of_lowered {text : List Char} (lowered : ∀ c ∈ text, Lowered c) :
    lowerChars text = text := by
  have free : ¬text.contains capitalSigma = true := fun inside =>
    (lowered _ (List.contains_iff_mem.mp inside)).2 rfl
  rw [lowerChars, if_neg free]
  induction text with
  | nil => rfl
  | cons c rest ih =>
      have others : ∀ c ∈ rest, Lowered c := fun d member =>
        lowered d (List.mem_cons_of_mem _ member)
      have onward : ¬rest.contains capitalSigma = true := fun inside =>
        (others _ (List.contains_iff_mem.mp inside)).2 rfl
      rw [List.flatMap_cons, ih others onward, (lowered c List.mem_cons_self).1,
        List.singleton_append]

theorem lower_lower (text : String) : lower (lower text) = lower text := by
  have same : lowerChars (lowerChars text.toList) = lowerChars text.toList :=
    lowerChars_of_lowered fun c member => lowered_of_mem_lowerChars member
  unfold lower
  rw [String.toList_ofList, same]

end SourceAtlas.Text
