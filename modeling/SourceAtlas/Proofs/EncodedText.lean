import Mathlib.Tactic.Common
import SourceAtlas.Text.StrictEncoding

/-!
A text is read back from its bytes. The bytes of each character are one front of the byte list, and
no front reaches into the next character. Bytes that are read as a text are the bytes of that text.
-/
namespace SourceAtlas.Text.Utf8

theorem toNat_byte {n : Nat} (small : n < 256) : (UInt8.ofNat n).toNat = n := by
  rw [UInt8.toNat_ofNat', Nat.mod_eq_of_lt small]

theorem isContinuation_iff (b : UInt8) :
    isContinuation b = true ↔ 0x80 ≤ b.toNat ∧ b.toNat ≤ 0xbf := by
  simp [isContinuation, UInt8.le_iff_toNat_le]

theorem mayFollow_iff (lead b : UInt8) :
    mayFollow lead b = true ↔
      if lead.toNat = 0xe0 then 0xa0 ≤ b.toNat ∧ b.toNat ≤ 0xbf
      else if lead.toNat = 0xed then 0x80 ≤ b.toNat ∧ b.toNat ≤ 0x9f
      else if lead.toNat = 0xf0 then 0x90 ≤ b.toNat ∧ b.toNat ≤ 0xbf
      else if lead.toNat = 0xf4 then 0x80 ≤ b.toNat ∧ b.toNat ≤ 0x8f
      else 0x80 ≤ b.toNat ∧ b.toNat ≤ 0xbf := by
  have same (n : UInt8) : (lead == n) = true ↔ lead.toNat = n.toNat := by
    rw [beq_iff_eq, UInt8.toNat_inj]
  simp only [mayFollow, same, UInt8.reduceToNat]
  split_ifs <;> simp [UInt8.le_iff_toNat_le, isContinuation_iff]

theorem front_eq (lead : UInt8) (rest : Bytes) : front lead rest =
    if lead.toNat < 0x80 then .char (Char.ofNat lead.toNat) 0
    else if lead.toNat < 0xc2 then .badStart
    else if lead.toNat < 0xe0 then frontTwo lead rest
    else if lead.toNat < 0xf0 then frontThree lead rest
    else if lead.toNat < 0xf5 then frontFour lead rest
    else .badStart := by
  simp only [front, UInt8.lt_iff_toNat_lt]
  rfl

/-- A byte that carries six bits after a lead byte. -/
def continuing (n : Nat) : UInt8 := UInt8.ofNat (n % 64 + 128)

theorem toNat_continuing (n : Nat) : (continuing n).toNat = n % 64 + 128 :=
  toNat_byte (by omega)

theorem isContinuation_continuing (n : Nat) : isContinuation (continuing n) = true := by
  rw [isContinuation_iff, toNat_continuing]
  omega

theorem low_continuing (n : Nat) : low (continuing n) = n % 64 := by
  rw [low, toNat_continuing]
  omega

theorem front_two {c : Char} (least : 0x80 ≤ c.toNat) (most : c.toNat ≤ 0x7ff) (rest : Bytes) :
    front (UInt8.ofNat (c.toNat / 64 % 32 + 192)) (continuing c.toNat :: rest) = .char c 1 := by
  have lead : (UInt8.ofNat (c.toNat / 64 % 32 + 192)).toNat = c.toNat / 64 % 32 + 192 :=
    toNat_byte (by omega)
  have code : (c.toNat / 64 % 32 + 192) % 32 * 64 + c.toNat % 64 = c.toNat := by omega
  rw [front_eq, lead, if_neg (by omega), if_neg (by omega), if_pos (by omega), frontTwo,
    if_pos (isContinuation_continuing c.toNat), lead, low_continuing, code, Char.ofNat_toNat]

theorem front_three {c : Char} (least : 0x800 ≤ c.toNat) (most : c.toNat ≤ 0xffff)
    (valid : c.toNat < 0xd800 ∨ 0xdfff < c.toNat) (rest : Bytes) :
    front (UInt8.ofNat (c.toNat / 4096 % 16 + 224))
        (continuing (c.toNat / 64) :: continuing c.toNat :: rest) = .char c 2 := by
  have lead : (UInt8.ofNat (c.toNat / 4096 % 16 + 224)).toNat = c.toNat / 4096 % 16 + 224 :=
    toNat_byte (by omega)
  have follows : mayFollow (UInt8.ofNat (c.toNat / 4096 % 16 + 224)) (continuing (c.toNat / 64)) =
      true := by
    rw [mayFollow_iff, lead, toNat_continuing]
    split_ifs <;> omega
  have code : (c.toNat / 4096 % 16 + 224) % 16 * 4096 + c.toNat / 64 % 64 * 64 + c.toNat % 64 =
      c.toNat := by omega
  rw [front_eq, lead, if_neg (by omega), if_neg (by omega), if_neg (by omega), if_pos (by omega),
    frontThree, follows]
  simp only [Bool.not_true, Bool.false_eq_true, if_false, isContinuation_continuing, if_true, lead,
    low_continuing, code, Char.ofNat_toNat]

theorem front_four {c : Char} (least : 0x10000 ≤ c.toNat) (most : c.toNat < 0x110000)
    (rest : Bytes) :
    front (UInt8.ofNat (c.toNat / 262144 % 8 + 240))
        (continuing (c.toNat / 4096) :: continuing (c.toNat / 64) :: continuing c.toNat :: rest) =
      .char c 3 := by
  have lead : (UInt8.ofNat (c.toNat / 262144 % 8 + 240)).toNat = c.toNat / 262144 % 8 + 240 :=
    toNat_byte (by omega)
  have follows : mayFollow (UInt8.ofNat (c.toNat / 262144 % 8 + 240))
      (continuing (c.toNat / 4096)) = true := by
    rw [mayFollow_iff, lead, toNat_continuing]
    split_ifs <;> omega
  have code : (c.toNat / 262144 % 8 + 240) % 8 * 262144 + c.toNat / 4096 % 64 * 4096 +
      c.toNat / 64 % 64 * 64 + c.toNat % 64 = c.toNat := by omega
  rw [front_eq, lead, if_neg (by omega), if_neg (by omega), if_neg (by omega), if_neg (by omega),
    if_pos (by omega), frontFour, follows]
  simp only [Bool.not_true, Bool.false_eq_true, if_false, isContinuation_continuing, if_true, lead,
    low_continuing, code, Char.ofNat_toNat]

theorem front_encodeChar (c : Char) (rest : Bytes) :
    ∃ lead tail, String.utf8EncodeChar c = lead :: tail ∧
      front lead (tail ++ rest) = .char c tail.length := by
  have valid : c.toNat < 0xd800 ∨ 0xdfff < c.toNat ∧ c.toNat < 0x110000 := c.valid
  have code : c.val.toNat = c.toNat := rfl
  unfold String.utf8EncodeChar
  simp only [code]
  split
  next one =>
    have lead : (UInt8.ofNat c.toNat).toNat = c.toNat := toNat_byte (by omega)
    refine ⟨_, [], rfl, ?_⟩
    rw [front_eq, lead, if_pos (by omega), Char.ofNat_toNat, List.length_nil]
  next =>
    split
    next two => exact ⟨_, [_], rfl, front_two (by omega) two rest⟩
    next =>
      split
      next three => exact ⟨_, [_, _], rfl, front_three (by omega) three (by omega) rest⟩
      next => exact ⟨_, [_, _, _], rfl, front_four (by omega) (by omega) rest⟩

theorem frontsFrom_encodeChars (text : List Char) (seen : List Front) :
    ∃ fronts : List Front, frontsFrom seen (encodeChars text) = fronts.reverse ++ seen ∧
      ∀ mark, fronts.flatMap (Front.lenient mark) = text := by
  induction text generalizing seen with
  | nil => exact ⟨[], by simp [encodeChars, frontsFrom], fun _ => rfl⟩
  | cons c text ih =>
      obtain ⟨lead, tail, bytes, read⟩ := front_encodeChar c (encodeChars text)
      obtain ⟨fronts, onward, chars⟩ := ih (.char c tail.length :: seen)
      refine ⟨.char c tail.length :: fronts, ?_, fun mark => ?_⟩
      · have whole : encodeChars (c :: text) = lead :: (tail ++ encodeChars text) := by
          rw [encodeChars, List.flatMap_cons, bytes]
          rfl
        rw [whole, frontsFrom, read]
        simp only [Front.size, Nat.add_sub_cancel, List.drop_left, onward]
        simp
      · rw [List.flatMap_cons, chars]
        rfl

theorem decodeWith_encode (mark : List Char) (text : String) :
    decodeWith mark (encode text) = text := by
  obtain ⟨fronts, read, chars⟩ := frontsFrom_encodeChars text.toList []
  rw [decodeWith, Utf8.fronts, encode, read, List.append_nil, List.reverse_reverse, chars,
    String.ofList_toList]

theorem decodeReplacing_encode (text : String) : decodeReplacing (encode text) = text :=
  decodeWith_encode _ text

theorem toNat_char {n : Nat} (valid : n.isValidChar) : (Char.ofNat n).toNat = n := by
  rw [Char.ofNat, dif_pos valid]
  rfl

theorem eq_byte {b : UInt8} {n : Nat} (same : b.toNat = n) : UInt8.ofNat n = b := by
  rw [← same, UInt8.ofNat_toNat]

theorem encodeChar_char {n : Nat} (valid : n.isValidChar) :
    String.utf8EncodeChar (Char.ofNat n) =
      if n ≤ 127 then [UInt8.ofNat n]
      else if n ≤ 2047 then [UInt8.ofNat (n / 64 % 32 + 192), continuing n]
      else if n ≤ 65535 then
        [UInt8.ofNat (n / 4096 % 16 + 224), continuing (n / 64), continuing n]
      else
        [UInt8.ofNat (n / 262144 % 8 + 240), continuing (n / 4096), continuing (n / 64),
          continuing n] := by
  have code : (Char.ofNat n).val.toNat = n := toNat_char valid
  unfold String.utf8EncodeChar
  simp only [code]
  rfl

theorem continuing_eq {b : UInt8} (follows : 0x80 ≤ b.toNat ∧ b.toNat ≤ 0xbf) {n : Nat}
    (same : n % 64 = b.toNat % 64) : continuing n = b :=
  eq_byte (by omega)

theorem encode_one {lead : UInt8} (single : lead.toNat < 0x80) :
    String.utf8EncodeChar (Char.ofNat lead.toNat) = [lead] := by
  rw [encodeChar_char (.inl (by omega)), if_pos (by omega), UInt8.ofNat_toNat]

theorem encode_two {lead b : UInt8} (least : 0xc2 ≤ lead.toNat) (most : lead.toNat < 0xe0)
    (first : isContinuation b = true) :
    String.utf8EncodeChar (Char.ofNat (lead.toNat % 32 * 64 + low b)) = [lead, b] := by
  rw [isContinuation_iff] at first
  generalize code : lead.toNat % 32 * 64 + low b = n
  unfold low at code
  rw [encodeChar_char (.inl (by omega)), if_neg (by omega), if_pos (by omega),
    eq_byte (b := lead) (by omega), continuing_eq first (by omega)]

theorem encode_three {lead b c : UInt8} (least : 0xe0 ≤ lead.toNat) (most : lead.toNat < 0xf0)
    (first : mayFollow lead b = true) (second : isContinuation c = true) :
    String.utf8EncodeChar (Char.ofNat (lead.toNat % 16 * 4096 + low b * 64 + low c)) =
      [lead, b, c] := by
  rw [isContinuation_iff] at second
  rw [mayFollow_iff] at first
  have bounds : (0x80 ≤ b.toNat ∧ b.toNat ≤ 0xbf) ∧ (lead.toNat = 0xe0 → 0xa0 ≤ b.toNat) ∧
      (lead.toNat = 0xed → b.toNat ≤ 0x9f) := by
    split_ifs at first <;> omega
  clear first
  generalize code : lead.toNat % 16 * 4096 + low b * 64 + low c = n
  unfold low at code
  have valid : n.isValidChar := by
    unfold Nat.isValidChar
    omega
  rw [encodeChar_char valid, if_neg (by omega), if_neg (by omega), if_pos (by omega),
    eq_byte (b := lead) (by omega), continuing_eq bounds.1 (by omega),
    continuing_eq second (by omega)]

theorem encode_four {lead b c d : UInt8} (least : 0xf0 ≤ lead.toNat) (most : lead.toNat < 0xf5)
    (first : mayFollow lead b = true) (second : isContinuation c = true)
    (third : isContinuation d = true) :
    String.utf8EncodeChar
        (Char.ofNat (lead.toNat % 8 * 262144 + low b * 4096 + low c * 64 + low d)) =
      [lead, b, c, d] := by
  rw [isContinuation_iff] at second third
  rw [mayFollow_iff] at first
  have bounds : (0x80 ≤ b.toNat ∧ b.toNat ≤ 0xbf) ∧ (lead.toNat = 0xf0 → 0x90 ≤ b.toNat) ∧
      (lead.toNat = 0xf4 → b.toNat ≤ 0x8f) := by
    split_ifs at first <;> omega
  clear first
  generalize code : lead.toNat % 8 * 262144 + low b * 4096 + low c * 64 + low d = n
  unfold low at code
  have valid : n.isValidChar := by
    unfold Nat.isValidChar
    omega
  rw [encodeChar_char valid, if_neg (by omega), if_neg (by omega), if_neg (by omega),
    eq_byte (b := lead) (by omega), continuing_eq bounds.1 (by omega),
    continuing_eq second (by omega), continuing_eq third (by omega)]

theorem encode_front {lead : UInt8} {rest : Bytes} {c : Char} {more : Nat}
    (read : front lead rest = .char c more) :
    String.utf8EncodeChar c ++ rest.drop more = lead :: rest := by
  rw [front_eq] at read
  split_ifs at read with one start two three four
  · cases read
    rw [encode_one one, List.drop_zero, List.singleton_append]
  · unfold frontTwo at read
    split at read
    · cases read
    next b rest =>
      split at read
      next first =>
        cases read
        rw [encode_two (by omega) two first]
        rfl
      · cases read
  · unfold frontThree at read
    split at read
    · cases read
    next b rest =>
      split at read
      · cases read
      next first =>
        split at read
        · cases read
        next c rest =>
          split at read
          next second =>
            cases read
            rw [encode_three (by omega) three (by simpa using first) second]
            rfl
          · cases read
  · unfold frontFour at read
    split at read
    · cases read
    next b rest =>
      split at read
      · cases read
      next first =>
        split at read
        · cases read
        next c rest =>
          split at read
          · cases read
          next second =>
            split at read
            · cases read
            next d rest =>
              split at read
              next third =>
                cases read
                rw [encode_four (by omega) four (by simpa using first) (by simpa using second)
                  third]
                rfl
              · cases read

theorem encodeChars_append (first second : List Char) :
    encodeChars (first ++ second) = encodeChars first ++ encodeChars second :=
  List.flatMap_append

theorem encodeChars_readStrict (earlier : List Front) (bytes : Bytes) :
    ∃ fronts : List Front, frontsFrom earlier bytes = fronts.reverse ++ earlier ∧
      ∀ position seen chars, readStrict position seen fronts = (chars, none) →
        encodeChars chars.reverse = encodeChars seen.reverse ++ bytes := by
  fun_induction frontsFrom earlier bytes
  case case1 =>
    refine ⟨[], rfl, fun position seen chars read => ?_⟩
    cases read
    exact (List.append_nil _).symm
  case case2 earlier lead rest f ih =>
    obtain ⟨fronts, onward, whole⟩ := ih
    refine ⟨f :: fronts, by rw [onward, List.reverse_cons, List.append_assoc,
      List.singleton_append], fun position seen chars read => ?_⟩
    cases first : front lead rest with
    | char c more =>
        have kind : f = .char c more := first
        rw [kind, readStrict] at read
        have after := whole _ _ _ read
        rw [kind, Front.size, Nat.add_sub_cancel, List.reverse_cons, encodeChars_append,
          List.append_assoc] at after
        have single : encodeChars [c] = String.utf8EncodeChar c := List.append_nil _
        rw [after, ← encode_front first, single]
    | badStart | badContinuation more | cutOff more =>
        rw [show f = _ from first] at read
        cases read

theorem encode_of_decode {bytes : Bytes} {text : String} (decoded : decode bytes = .ok text) :
    encode text = bytes := by
  obtain ⟨fronts, split, whole⟩ := encodeChars_readStrict [] bytes
  have order : Utf8.fronts bytes = fronts := by
    rw [Utf8.fronts, split, List.append_nil, List.reverse_reverse]
  unfold decode at decoded
  rw [order] at decoded
  split at decoded
  next chars read =>
    cases decoded
    rw [encode, String.toList_ofList, whole _ _ _ read]
    rfl
  · cases decoded

theorem isSurrogate_toNat (c : Char) : isSurrogate c.toNat = false := by
  have scalar : c.toNat < 0xD800 ∨ 0xDFFF < c.toNat ∧ c.toNat < 0x110000 := c.valid
  rw [isSurrogate, Bool.and_eq_false_iff, decide_eq_false_iff_not, decide_eq_false_iff_not]
  omega

theorem any_isSurrogate_points (text : String) : (points text).any isSurrogate = false := by
  rw [points, List.any_map, List.any_eq_false]
  exact fun c _ => Bool.not_eq_true _ ▸ isSurrogate_toNat c

theorem encodePoints_of_scalar {text : Points} (scalar : text.any isSurrogate = false) :
    encodePoints text = .ok (encodeChars (text.map Char.ofNat)) := by
  have none' : text.findIdx? isSurrogate = none := by
    rw [List.findIdx?_eq_none_iff]
    exact fun point member => by simpa using List.any_eq_false.mp scalar point member
  rw [encodePoints, none']

theorem exists_encodePoints_fault {text : Points} (lone : text.any isSurrogate = true) :
    ∃ fault, encodePoints text = .error fault := by
  unfold encodePoints
  split
  next none' =>
    obtain ⟨point, member, surrogate⟩ := List.any_eq_true.mp lone
    rw [List.findIdx?_eq_none_iff] at none'
    exact absurd surrogate (by simp [none' point member])
  next => exact ⟨_, rfl⟩

theorem encodePoints_fault_iff (text : Points) :
    (∃ fault, encodePoints text = .error fault) ↔ text.any isSurrogate = true := by
  refine ⟨fun ⟨fault, failed⟩ => ?_, exists_encodePoints_fault⟩
  by_contra scalar
  rw [encodePoints_of_scalar (Bool.eq_false_iff.mpr scalar)] at failed
  cases failed

theorem encodePoints_points (text : String) : encodePoints (points text) = .ok (encode text) := by
  have back : (points text).map Char.ofNat = text.toList := by
    rw [points, List.map_map]
    exact (List.map_congr_left fun c _ => Char.ofNat_toNat c).trans text.toList.map_id
  rw [encodePoints_of_scalar (any_isSurrogate_points text), back, encode]

end SourceAtlas.Text.Utf8
