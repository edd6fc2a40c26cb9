import SourceAtlas.Proofs.EncodedBytes

/-!
Which texts the strict reading takes as base64, and for which bytes. A text is digits and padding.
The padding fills up the last quadruple of digits; where that is whole, any padding after it is let
pass, though none at the very front. Bits of the last digit that make no whole byte do not count.
-/
namespace SourceAtlas.Text.Base64

/-- The bytes that six-bit values make: three for every four values, and the whole ones among the
bits of what is left. -/
def bytesOf : List Nat → Bytes
  | a :: b :: c :: d :: rest =>
      (a * 4 + b / 16).toUInt8 :: (b % 16 * 16 + c / 4).toUInt8 :: (c % 4 * 64 + d).toUInt8 ::
        bytesOf rest
  | [a, b, c] => [(a * 4 + b / 16).toUInt8, (b % 16 * 16 + c / 4).toUInt8]
  | [a, b] => [(a * 4 + b / 16).toUInt8]
  | _ => []

def Closes (digits pads : Nat) : Prop :=
  digits % 4 = 0 ∨ digits % 4 = 2 ∧ pads = 2 ∨ digits % 4 = 3 ∧ pads = 1

def Spells (text : List Char) (bytes : Bytes) : Prop :=
  ∃ (values : List Nat) (pads : Nat),
    text = values.map digitOf ++ List.replicate pads '=' ∧ (∀ n ∈ values, n < 64) ∧
      Closes values.length pads ∧ (values = [] → pads = 0) ∧ bytes = bytesOf values

theorem ascii_of_valueOf {c : Char} {n : Nat} (read : valueOf? c = some n) : c.toNat < 128 := by
  have least (d : Char) : c ≤ d → c.toNat ≤ d.toNat := UInt32.le_iff_toNat_le.mp
  unfold valueOf? at read
  split at read
  next upper =>
    simp only [Bool.and_eq_true, decide_eq_true_eq] at upper
    have bound := least 'Z' upper.2
    change c.toNat ≤ 90 at bound
    omega
  next =>
    split at read
    next lower =>
      simp only [Bool.and_eq_true, decide_eq_true_eq] at lower
      have bound := least 'z' lower.2
      change c.toNat ≤ 122 at bound
      omega
    next =>
      split at read
      next digit =>
        simp only [Bool.and_eq_true, decide_eq_true_eq] at digit
        have bound := least '9' digit.2
        change c.toNat ≤ 57 at bound
        omega
      next =>
        split at read
        next same => rw [same]; decide
        next =>
          split at read
          next same => rw [same]; decide
          next => cases read

theorem digit_of_valueOf {c : Char} {n : Nat} (read : valueOf? c = some n) :
    n < 64 ∧ c = digitOf n := by
  have table : ∀ k : Fin 128, ((valueOf? (Char.ofNat k)).all fun n =>
      decide (n < 64) && digitOf n == Char.ofNat k) = true := by decide +kernel
  have entry := table ⟨c.toNat, ascii_of_valueOf read⟩
  rw [Char.ofNat_toNat, read] at entry
  simp only [Option.all_some, Bool.and_eq_true, decide_eq_true_eq, beq_iff_eq] at entry
  exact ⟨entry.1, entry.2.symm⟩

theorem readFrom_whole (r : Reader) (whole : r.quad = []) (pads : Nat) :
    readFrom r (List.replicate pads '=') = .ok r.bytes.reverse := by
  induction pads generalizing r with
  | zero => simp [readFrom, Reader.finish, whole]
  | succ pads ih =>
      rw [List.replicate_succ, readFrom, if_pos rfl, whole]
      exact ih _ rfl

theorem readFrom_lone (r : Reader) {a : Nat} (lone : r.quad = [a]) (pads : Nat) (bytes : Bytes) :
    readFrom r (List.replicate pads '=') ≠ .ok bytes := by
  induction pads generalizing r with
  | zero => simp [readFrom, Reader.finish, lone]
  | succ pads ih =>
      rw [List.replicate_succ, readFrom, if_pos rfl, lone]
      exact ih _ rfl

theorem readFrom_two (seen : Bytes) (a b pads : Nat) (bytes : Bytes) :
    readFrom { quad := [b, a], bytes := seen } (List.replicate pads '=') = .ok bytes ↔
      pads = 2 ∧ bytes = seen.reverse ++ bytesOf [a, b] := by
  match pads with
  | 0 | 1 => simp [readFrom, Reader.finish]
  | 2 => simp [List.replicate_succ, readFrom, openBytes, bytesOf, eq_comm]
  | n + 3 => simp [List.replicate_succ, readFrom]

theorem readFrom_three (seen : Bytes) (a b c pads : Nat) (bytes : Bytes) :
    readFrom { quad := [c, b, a], bytes := seen } (List.replicate pads '=') = .ok bytes ↔
      pads = 1 ∧ bytes = seen.reverse ++ bytesOf [a, b, c] := by
  match pads with
  | 0 => simp [readFrom, Reader.finish]
  | 1 => simp [readFrom, openBytes, bytesOf, eq_comm]
  | n + 2 => simp [List.replicate_succ, readFrom]

theorem padding_of_readFrom (r : Reader) (padded : r.padded = true) {text : List Char}
    {bytes : Bytes} (read : readFrom r text = .ok bytes) : ∀ c ∈ text, c = '=' := by
  induction text generalizing r with
  | nil => simp
  | cons c rest ih =>
      rw [readFrom] at read
      split at read
      next pad =>
        rw [List.forall_mem_cons]
        refine ⟨pad, ?_⟩
        split at read
        next =>
          split at read
          next last => simp [List.isEmpty_iff.mp last]
          next => cases read
        next => exact ih _ rfl read
      next => split at read <;> cases read

@[simp] theorem padded_push (r : Reader) (value : Nat) : (r.push value).padded = r.padded := by
  unfold Reader.push
  split <;> rfl

theorem exists_of_readFrom (r : Reader) (unpadded : r.padded = false) {text : List Char}
    {bytes : Bytes} (read : readFrom r text = .ok bytes) :
    ∃ (values : List Nat) (pads : Nat),
      text = values.map digitOf ++ List.replicate pads '=' ∧ ∀ n ∈ values, n < 64 := by
  induction text generalizing r with
  | nil => exact ⟨[], 0, rfl, by simp⟩
  | cons c rest ih =>
      by_cases pad : c = '='
      · refine ⟨[], rest.length + 1, ?_, by simp⟩
        have others : ∀ d ∈ rest, d = '=' := by
          rw [readFrom, if_pos pad] at read
          split at read
          next =>
            split at read
            next last => simp [List.isEmpty_iff.mp last]
            next => cases read
          next => exact padding_of_readFrom _ rfl read
        rw [List.map_nil, List.nil_append, List.replicate_succ, pad,
          ← List.eq_replicate_of_mem others]
      · rw [readFrom, if_neg pad] at read
        split at read
        next => cases read
        next value found =>
          simp only [unpadded, Bool.false_eq_true, if_false] at read
          obtain ⟨small, digit⟩ := digit_of_valueOf found
          obtain ⟨values, pads, parts, bounded⟩ := ih (r.push value) (by simp [unpadded]) read
          refine ⟨value :: values, pads, by rw [digit, parts]; rfl, ?_⟩
          rw [List.forall_mem_cons]
          exact ⟨small, bounded⟩

theorem readFrom_values (seen : Bytes) {values : List Nat} (small : ∀ n ∈ values, n < 64)
    (pads : Nat) (bytes : Bytes) :
    readFrom { bytes := seen } (values.map digitOf ++ List.replicate pads '=') = .ok bytes ↔
      Closes values.length pads ∧ bytes = seen.reverse ++ bytesOf values := by
  fun_induction bytesOf values generalizing seen with
  | case1 a b c d rest ih =>
      simp only [List.forall_mem_cons] at small
      obtain ⟨first, second, third, fourth, others⟩ := small
      simp only [List.map_cons, List.cons_append]
      rw [readFrom_digit _ rfl first, readFrom_digit _ rfl second, readFrom_digit _ rfl third,
        readFrom_digit _ rfl fourth]
      simp only [Reader.push]
      have length : (a :: b :: c :: d :: rest).length % 4 = rest.length % 4 := by
        simp only [List.length_cons]
        omega
      rw [ih _ others, Closes, Closes, length]
      simp
  | case2 a b c =>
      simp only [List.forall_mem_cons] at small
      obtain ⟨first, second, third, _⟩ := small
      simp only [List.map_cons, List.map_nil, List.cons_append, List.nil_append]
      rw [readFrom_digit _ rfl first, readFrom_digit _ rfl second, readFrom_digit _ rfl third]
      simpa [Reader.push, Closes, bytesOf] using readFrom_three seen a b c pads bytes
  | case3 a b =>
      simp only [List.forall_mem_cons] at small
      obtain ⟨first, second, _⟩ := small
      simp only [List.map_cons, List.map_nil, List.cons_append, List.nil_append]
      rw [readFrom_digit _ rfl first, readFrom_digit _ rfl second]
      simpa [Reader.push, Closes, bytesOf] using readFrom_two seen a b pads bytes
  | case4 values many three two =>
      rcases values with _ | ⟨a, _ | ⟨b, _ | ⟨c, _ | ⟨d, rest⟩⟩⟩⟩
      · have whole := readFrom_whole { bytes := seen } rfl pads
        simp [whole, Closes, eq_comm]
      · rw [List.forall_mem_singleton] at small
        rw [List.map_singleton, List.singleton_append, readFrom_digit _ rfl small]
        simp [Reader.push, Closes, readFrom_lone]
      · exact absurd rfl (two a b)
      · exact absurd rfl (three a b c)
      · exact absurd rfl (many a b c d rest)

theorem ascii_of_spelled {values : List Nat} (small : ∀ n ∈ values, n < 64) (pads : Nat) :
    ((values.map digitOf ++ List.replicate pads '=').any fun c => c.toNat ≥ 128) = false := by
  have digit (n : Nat) (member : n ∈ values) : (digitOf n).toNat < 128 :=
    (digitOf_reads ⟨n, small n member⟩).2.2.2
  simp only [List.any_append, List.any_map, Bool.or_eq_false_iff, List.any_eq_false]
  refine ⟨fun n member => ?_, fun c member => ?_⟩
  · have bound := digit n member
    simpa using bound
  · rw [(List.mem_replicate.mp member).2]
    decide

theorem head_of_spelled {values : List Nat} (small : ∀ n ∈ values, n < 64) (pads : Nat) :
    (values.map digitOf ++ List.replicate pads '=').head? = some '=' ↔
      values = [] ∧ pads ≠ 0 := by
  cases values with
  | nil => simp [List.head?_replicate]
  | cons n rest => simpa using digitOf_ne (small n List.mem_cons_self)

theorem decodeChars_eq_ok_iff (text : List Char) (bytes : Bytes) :
    decodeChars text = .ok bytes ↔ Spells text bytes := by
  constructor
  · intro read
    unfold decodeChars at read
    split at read
    next => cases read
    next =>
      split at read
      next => cases read
      next unpadded =>
        obtain ⟨values, pads, rfl, small⟩ := exists_of_readFrom _ rfl read
        obtain ⟨closed, same⟩ := (readFrom_values [] small pads bytes).mp read
        refine ⟨values, pads, rfl, small, closed, fun none => ?_, same⟩
        by_contra some
        exact unpadded ((head_of_spelled small pads).mpr ⟨none, some⟩)
  · rintro ⟨values, pads, rfl, small, closed, front, same⟩
    have unpadded : ¬(values.map digitOf ++ List.replicate pads '=').head? = some '=' := by
      rw [head_of_spelled small]
      exact fun leading => leading.2 (front leading.1)
    rw [decodeChars, ascii_of_spelled small, if_neg Bool.false_ne_true, if_neg unpadded]
    exact (readFrom_values [] small pads bytes).mpr ⟨closed, same⟩

example : decodeChars ['A', 'A', 'A', 'B', '='] = .ok [0, 0, 1] := rfl

end SourceAtlas.Text.Base64
