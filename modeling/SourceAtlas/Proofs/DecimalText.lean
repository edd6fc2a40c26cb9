import SourceAtlas.CommandLine.Command
import SourceAtlas.Proofs.TextPieces

/-!
A number that has a text is read back from it, on the command line as anywhere.
-/
namespace SourceAtlas.Decimal

open Text

theorem digitIn_of_isDigit {c : Char} (digit : c.isDigit = true) :
    digitIn? 10 c = some (c.toNat - 48) := by
  have small : c.toNat - 48 < 10 := by
    simp only [Char.isDigit, Bool.and_eq_true, decide_eq_true_eq] at digit
    have most : c.toNat ≤ 57 := digit.2
    omega
  rw [digitIn?, digitValue?, if_pos digit]
  exact if_pos (decide_eq_true small)

theorem digitsFrom_of_digits {text : List Char} (digits : ∀ c ∈ text, c.isDigit = true)
    (seen : List Nat) : digitsFrom 10 seen true text =
      some ((text.map fun c => c.toNat - 48).reverse ++ seen, []) := by
  induction text generalizing seen with
  | nil => rfl
  | cons c rest ih =>
      rw [digitsFrom, digitIn_of_isDigit (digits c List.mem_cons_self)]
      dsimp only
      rw [ih fun d member => digits d (List.mem_cons_of_mem _ member), List.map_cons,
        List.reverse_cons, List.append_assoc, List.singleton_append]

theorem ofDigits_reverse (text : List Char) :
    ofDigits 10 (text.map fun c => c.toNat - 48).reverse = Nat.ofDigitChars 10 text 0 := by
  rw [ofDigits, List.foldr_reverse, List.foldl_map, Nat.ofDigitChars]
  congr 1
  funext n c
  rw [Nat.mul_comm]
  rfl

theorem digitsFrom_start {text : List Char} (filled : text ≠ [])
    (digits : ∀ c ∈ text, c.isDigit = true) : digitsFrom 10 [] false text =
      some ((text.map fun c => c.toNat - 48).reverse, []) := by
  obtain ⟨c, rest, rfl⟩ := List.exists_cons_of_ne_nil filled
  rw [digitsFrom, digitIn_of_isDigit (digits c List.mem_cons_self)]
  dsimp only
  rw [digitsFrom_of_digits fun d member => digits d (List.mem_cons_of_mem _ member),
    List.map_cons, List.reverse_cons]

theorem not_blank_of_isDigit {c : Char} (digit : c.isDigit = true) :
    isNumeralBlank c = false := by
  simp only [Char.isDigit, Bool.and_eq_true, decide_eq_true_eq] at digit
  have least : 48 ≤ c.toNat := digit.1
  have most : c.toNat ≤ 57 := digit.2
  have other : c ≠ ' ' := by
    rintro rfl
    exact absurd least (by decide)
  simp only [isNumeralBlank, Bool.or_eq_false_iff, Bool.and_eq_false_iff, decide_eq_false_iff_not,
    beq_eq_false_iff_ne]
  exact ⟨⟨by omega, other⟩, .inl (by omega)⟩

theorem signFrom_of_digits {text : List Char} (digits : ∀ c ∈ text, c.isDigit = true) :
    signFrom text = (false, text) := by
  unfold signFrom
  split
  · exact absurd (digits _ List.mem_cons_self) (by decide)
  · exact absurd (digits _ List.mem_cons_self) (by decide)
  · rfl

theorem dropBaseMark_ten (text : List Char) : dropBaseMark 10 text = text := by
  unfold dropBaseMark
  split
  · rfl
  · rfl

theorem readInteger_of_digits {text : String} (filled : text.toList ≠ [])
    (digits : ∀ c ∈ text.toList, c.isDigit = true) (few : text.toList.length ≤ digitLimit) :
    readInteger 10 text = .ok (Nat.ofDigitChars 10 text.toList 0) := by
  have solid : ∀ c ∈ text.toList, isNumeralBlank c = false := fun c member =>
    not_blank_of_isDigit (digits c member)
  have room : ¬((baseMark? 10).isNone &&
      decide ((text.toList.map fun c => c.toNat - 48).reverse.length > digitLimit)) = true := by
    simpa [baseMark?] using few
  have some : ((text.toList.map fun c => c.toNat - 48).reverse.isEmpty || !([] : List Char).isEmpty)
      ≠ true := by
    simpa using filled
  unfold readInteger
  rw [trimChars_eq_self (fun c first => solid c (List.mem_of_head? first))
    fun c last => solid c (List.mem_of_getLast? last), signFrom_of_digits digits]
  dsimp only
  rw [dropBaseMark_ten, digitsFrom_start filled digits]
  dsimp only
  rw [if_neg room, if_neg some, ofDigits_reverse]
  rfl

theorem readInteger_of_written {n : Nat} {text : String} (written : writeInteger n = .ok text) :
    readInteger 10 text = .ok n := by
  unfold writeInteger at written
  split at written
  next short =>
    have spelled : text.toList = Nat.toDigits 10 n := Except.ok.inj written ▸ Nat.toList_repr
    have few : (Nat.toDigits 10 n).length ≤ digitLimit := by
      have some : 0 < digitLimit := by decide
      -- the limit is kept from being taken as a power
      generalize digitLimit = limit at short some
      exact (Nat.length_toDigits_le_iff (by decide) some).mpr short
    have read := readInteger_of_digits (spelled ▸ Nat.toDigits_ne_nil)
      (spelled ▸ fun c member => Nat.isDigit_of_mem_toDigits (by decide) (by decide) member)
      (spelled ▸ few)
    rw [read, spelled, Nat.ofDigitChars_ten_toDigits]
  · cases written

end SourceAtlas.Decimal

namespace SourceAtlas.CommandLine

theorem positive_of_written {n : Int} {text : String} (least : 1 ≤ n)
    (written : Decimal.writeInteger n = .ok text) : positive text = .ok n := by
  obtain ⟨m, rfl⟩ := Int.eq_ofNat_of_zero_le (by omega : 0 ≤ n)
  have above : ¬(m : Int) ≤ 0 := by omega
  rw [positive, Decimal.readInteger_of_written written]
  exact if_neg above

end SourceAtlas.CommandLine
