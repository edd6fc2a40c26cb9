import Mathlib.Tactic.Common
import SourceAtlas.Text.Base64
import SourceAtlas.Text.Lines

/-!
Bytes are read back from their base64 text: from every quadruple of digits the three bytes it was
made of, and from the padded one at the end the one or two bytes that are left.
-/
namespace SourceAtlas.Text.Base64

theorem digitOf_reads : ∀ n : Fin 64, valueOf? (digitOf n) = some n.val ∧ digitOf n ≠ '=' ∧
    isBlank (digitOf n) = false ∧ (digitOf n).toNat < 128 := by
  decide +kernel

theorem valueOf_digitOf {n : Nat} (small : n < 64) : valueOf? (digitOf n) = some n :=
  (digitOf_reads ⟨n, small⟩).1

theorem digitOf_ne {n : Nat} (small : n < 64) : digitOf n ≠ '=' := (digitOf_reads ⟨n, small⟩).2.1

theorem toUInt8_toNat (b : UInt8) {n : Nat} (same : n = b.toNat) : n.toUInt8 = b := by
  rw [same]
  exact UInt8.ofNat_toNat

theorem forall_encodeChars {p : Char → Prop} (padding : p '=') (digit : ∀ n < 64, p (digitOf n))
    (bytes : Bytes) : ∀ c ∈ encodeChars bytes, p c := by
  fun_induction encodeChars bytes with
  | case1 a b c rest n ih =>
      have first := a.toNat_lt
      have second := b.toNat_lt
      have third := c.toNat_lt
      simp only [List.forall_mem_cons]
      exact ⟨digit _ (by omega), digit _ (by omega), digit _ (by omega), digit _ (by omega), ih⟩
  | case2 a b n =>
      have first := a.toNat_lt
      have second := b.toNat_lt
      simp only [List.forall_mem_cons]
      exact ⟨digit _ (by omega), digit _ (by omega), digit _ (by omega), padding, by simp⟩
  | case3 a n =>
      have first := a.toNat_lt
      simp only [List.forall_mem_cons]
      exact ⟨digit _ (by omega), digit _ (by omega), padding, padding, by simp⟩
  | case4 => simp

theorem ascii_encodeChars (bytes : Bytes) : ∀ c ∈ encodeChars bytes, c.toNat < 128 :=
  forall_encodeChars (by decide) (fun n small => (digitOf_reads ⟨n, small⟩).2.2.2) bytes

theorem not_blank_encodeChars (bytes : Bytes) : ∀ c ∈ encodeChars bytes, isBlank c = false :=
  forall_encodeChars (by decide) (fun n small => (digitOf_reads ⟨n, small⟩).2.2.1) bytes

theorem readFrom_digit (r : Reader) (unpadded : r.padded = false) {n : Nat} (small : n < 64)
    (rest : List Char) : readFrom r (digitOf n :: rest) = readFrom (r.push n) rest := by
  rw [readFrom, if_neg (digitOf_ne small), valueOf_digitOf small]
  simp [unpadded]

theorem readFrom_encodeChars (bytes seen : Bytes) :
    readFrom { bytes := seen } (encodeChars bytes) = .ok (seen.reverse ++ bytes) := by
  fun_induction encodeChars bytes generalizing seen with
  | case1 a b c rest n ih =>
      have first := a.toNat_lt
      have second := b.toNat_lt
      have third := c.toNat_lt
      have high : (n / 262144 * 4 + n / 4096 % 64 / 16).toUInt8 = a :=
        toUInt8_toNat a (by omega)
      have middle : (n / 4096 % 64 % 16 * 16 + n / 64 % 64 / 4).toUInt8 = b :=
        toUInt8_toNat b (by omega)
      have low : (n / 64 % 64 % 4 * 64 + n % 64).toUInt8 = c := toUInt8_toNat c (by omega)
      rw [readFrom_digit _ rfl (by omega), readFrom_digit _ rfl (by omega),
        readFrom_digit _ rfl (by omega), readFrom_digit _ rfl (by omega)]
      simp only [Reader.push, high, middle, low]
      rw [ih]
      simp
  | case2 a b n =>
      have first := a.toNat_lt
      have second := b.toNat_lt
      have high : (n / 4096 * 4 + n / 64 % 64 / 16).toUInt8 = a := toUInt8_toNat a (by omega)
      have low : (n / 64 % 64 % 16 * 16 + n % 64 / 4).toUInt8 = b := toUInt8_toNat b (by omega)
      rw [readFrom_digit _ rfl (by omega), readFrom_digit _ rfl (by omega),
        readFrom_digit _ rfl (by omega)]
      simp only [Reader.push, readFrom, openBytes, high, low]
      simp
  | case3 a n =>
      have first := a.toNat_lt
      have only : (n / 64 * 4 + n % 64 / 16).toUInt8 = a := toUInt8_toNat a (by omega)
      rw [readFrom_digit _ rfl (by omega), readFrom_digit _ rfl (by omega)]
      simp [Reader.push, readFrom, openBytes, only]
  | case4 => simp [readFrom, Reader.finish]

theorem head_encodeChars (bytes : Bytes) : (encodeChars bytes).head? ≠ some '=' := by
  fun_cases encodeChars bytes with
  | case1 a b c rest n =>
      have first := a.toNat_lt
      have second := b.toNat_lt
      have third := c.toNat_lt
      have small : n / 262144 < 64 := by omega
      exact fun same => digitOf_ne small (Option.some.inj same)
  | case2 a b n =>
      have first := a.toNat_lt
      have second := b.toNat_lt
      have small : n / 4096 < 64 := by omega
      exact fun same => digitOf_ne small (Option.some.inj same)
  | case3 a n =>
      have first := a.toNat_lt
      have small : n / 64 < 64 := by omega
      exact fun same => digitOf_ne small (Option.some.inj same)
  | case4 => simp

theorem decodeChars_encodeChars (bytes : Bytes) :
    decodeChars (encodeChars bytes) = .ok bytes := by
  have ascii : ¬((encodeChars bytes).any fun c => c.toNat ≥ 128) = true := by
    rw [List.any_eq_true]
    rintro ⟨c, member, large⟩
    have small := ascii_encodeChars bytes c member
    simp only [decide_eq_true_eq] at large
    omega
  rw [decodeChars, if_neg ascii, if_neg (head_encodeChars bytes)]
  exact readFrom_encodeChars bytes []

end SourceAtlas.Text.Base64
