import Mathlib.Tactic.Common
import SourceAtlas.Cipher.Gcm

/-!
Authenticated counter mode undoes itself. Every block of the key stream has sixteen bytes, whatever
the key, so a text and its cipher text have one length and the same blocks of the stream lie over
both; the tag is made of the cipher text alone.
-/
namespace SourceAtlas.Cipher

open Text (Bytes)

@[simp] theorem length_xorBytes (xs ys : Bytes) :
    (xorBytes xs ys).length = min xs.length ys.length := List.length_zipWith

theorem xorBytes_xorBytes {xs ys : Bytes} (covered : xs.length ≤ ys.length) :
    xorBytes (xorBytes xs ys) ys = xs := by
  induction xs generalizing ys with
  | nil => rfl
  | cons x xs ih =>
      cases ys with
      | nil => simp at covered
      | cons y ys =>
          have rest : xs.length ≤ ys.length := by simpa using covered
          have twice : x ^^^ y ^^^ y = x := by
            rw [UInt8.xor_assoc, UInt8.xor_self, UInt8.xor_zero]
          change (x ^^^ y ^^^ y) :: xorBytes (xorBytes xs ys) ys = x :: xs
          rw [twice, ih rest]

theorem length_shiftRows (block : Bytes) : (shiftRows block).length = block.length := by
  fun_cases shiftRows block <;> rfl

theorem length_mixColumns (block : Bytes) : (mixColumns block).length = block.length := by
  fun_induction mixColumns block with
  | case1 a b c d rest all ih => simp only [List.length_cons, ih]
  | case2 => rfl

theorem length_cipherRounds {block : Bytes} {keys : List Bytes} (whole : block.length = 16)
    (wide : ∀ key ∈ keys, key.length = 16) : (cipherRounds block keys).length = 16 := by
  fun_induction cipherRounds block keys with
  | case1 => exact whole
  | case2 block last =>
      have key := wide last List.mem_cons_self
      simp [length_shiftRows, whole, key]
  | case3 block key rest more ih =>
      rw [List.forall_mem_cons] at wide
      exact ih (by simp [length_mixColumns, length_shiftRows, whole, wide.1]) wide.2

theorem length_encryptBlock {block : Bytes} {keys : List Bytes} (whole : block.length = 16)
    (wide : ∀ key ∈ keys, key.length = 16) : (encryptBlock keys block).length = 16 := by
  cases keys with
  | nil => exact whole
  | cons first rest =>
      rw [List.forall_mem_cons] at wide
      exact length_cipherRounds (by simp [whole, wide.1]) wide.2

theorem length_of_mem_fours (key : Bytes) : ∀ word ∈ fours key, word.length = 4 := by
  fun_induction fours key with
  | case1 a b c d rest ih => exact List.forall_mem_cons.mpr ⟨rfl, ih⟩
  | case2 => simp

theorem length_of_mem_nextKeys (rcon : UInt8) {words : List Bytes}
    (fourBytes : ∀ word ∈ words, word.length = 4) :
    ∀ word ∈ nextKeys rcon words, word.length = 4 := by
  fun_cases nextKeys rcon words with
  | case1 w0 w1 w2 w3 w4 w5 w6 w7 turned v0 v1 v2 v3 v4 v5 v6 =>
      simp only [List.forall_mem_cons] at fourBytes
      obtain ⟨l0, l1, l2, l3, l4, l5, l6, l7, _⟩ := fourBytes
      have lt : turned.length = 4 := by
        unfold turned
        split
        · rfl
        · exact l7
      have m0 : v0.length = 4 := by simp [v0, l0, lt]
      have m1 : v1.length = 4 := by simp [v1, l1, m0]
      have m2 : v2.length = 4 := by simp [v2, l2, m1]
      have m3 : v3.length = 4 := by simp [v3, l3, m2]
      have m4 : v4.length = 4 := by simp [v4, l4, m3]
      have m5 : v5.length = 4 := by simp [v5, l5, m4]
      have m6 : v6.length = 4 := by simp [v6, l6, m5]
      simp only [List.forall_mem_cons]
      exact ⟨m0, m1, m2, m3, m4, m5, m6, by simp [l7, m6], by simp⟩
  | case2 => exact fourBytes

theorem length_of_mem_scheduleFrom (n : Nat) (rcon : UInt8) {words : List Bytes}
    (fourBytes : ∀ word ∈ words, word.length = 4) :
    ∀ word ∈ scheduleFrom n rcon words, word.length = 4 := by
  induction n generalizing rcon words with
  | zero => exact fourBytes
  | succ n ih =>
      rw [scheduleFrom]
      intro word member
      rcases List.mem_append.mp member with early | late
      · exact fourBytes word early
      · exact ih (double rcon) (length_of_mem_nextKeys rcon fourBytes) word late

theorem length_of_mem_roundKeysOf {words : List Bytes}
    (fourBytes : ∀ word ∈ words, word.length = 4) :
    ∀ key ∈ roundKeysOf words, key.length = 16 := by
  fun_induction roundKeysOf words with
  | case1 a b c d rest ih =>
      simp only [List.forall_mem_cons] at fourBytes ⊢
      obtain ⟨la, lb, lc, ld, others⟩ := fourBytes
      exact ⟨by simp [la, lb, lc, ld], ih others⟩
  | case2 => simp

theorem length_of_mem_roundKeys (key : Bytes) : ∀ round ∈ roundKeys key, round.length = 16 := by
  intro round member
  exact length_of_mem_roundKeysOf (length_of_mem_scheduleFrom 7 1 (length_of_mem_fours key)) round
    (List.mem_of_mem_take member)

namespace Gcm

section Stream

variable {keys : List Bytes} {nonce : Bytes} (wide : ∀ key ∈ keys, key.length = 16)
  (twelve : nonce.length = 12)

include wide twelve

theorem length_streamBlock (counter : Nat) : (streamBlock keys nonce counter).length = 16 := by
  refine length_encryptBlock ?_ wide
  rw [List.length_append, twelve]
  rfl

omit wide twelve in
theorem streamFrom_append {chunk rest : Bytes}
    (block : chunk.length = 16 ∨ chunk.length ≤ 16 ∧ rest = []) (counter : Nat) :
    streamFrom keys nonce counter (chunk ++ rest) =
      xorBytes chunk (streamBlock keys nonce counter) ++
        streamFrom keys nonce (counter + 1) rest := by
  cases chunk with
  | nil =>
      rcases block with full | ⟨_, rfl⟩
      · simp at full
      · simp [streamFrom, xorBytes]
  | cons b more =>
      rw [List.cons_append, streamFrom]
      rcases block with full | ⟨short, rfl⟩
      · have fifteen : more.length = 15 := by simpa using full
        rw [List.take_left' fifteen, List.drop_left' fifteen]
      · have fifteen : more.length ≤ 15 := by
          rw [List.length_cons] at short
          omega
        rw [List.append_nil, List.take_of_length_le fifteen, List.drop_eq_nil_of_le fifteen]

theorem length_streamFrom (counter : Nat) (text : Bytes) :
    (streamFrom keys nonce counter text).length = text.length := by
  fun_induction streamFrom keys nonce counter text with
  | case1 => rfl
  | case2 counter b rest ih =>
      have block := length_streamBlock wide twelve counter
      simp only [List.length_append, length_xorBytes, ih, block, List.length_cons, List.length_take,
        List.length_drop]
      omega

theorem streamFrom_streamFrom (counter : Nat) (text : Bytes) :
    streamFrom keys nonce counter (streamFrom keys nonce counter text) = text := by
  fun_induction streamFrom keys nonce counter text with
  | case1 => simp [streamFrom]
  | case2 counter b rest ih =>
      have block := length_streamBlock wide twelve counter
      have size : (xorBytes (b :: rest.take 15) (streamBlock keys nonce counter)).length =
          min (rest.length + 1) 16 := by
        rw [length_xorBytes, block, List.length_cons, List.length_take]
        omega
      have chunk : (xorBytes (b :: rest.take 15) (streamBlock keys nonce counter)).length = 16 ∨
          (xorBytes (b :: rest.take 15) (streamBlock keys nonce counter)).length ≤ 16 ∧
            streamFrom keys nonce (counter + 1) (rest.drop 15) = [] := by
        rw [size]
        by_cases long : 15 ≤ rest.length
        · exact .inl (by omega)
        · have none : rest.drop 15 = [] := List.drop_eq_nil_of_le (by omega)
          exact .inr ⟨by omega, by rw [none, streamFrom]⟩
      have covered : (b :: rest.take 15).length ≤ (streamBlock keys nonce counter).length := by
        rw [block, List.length_cons, List.length_take]
        omega
      rw [streamFrom_append chunk, xorBytes_xorBytes covered, ih, List.cons_append,
        List.take_append_drop]

theorem length_tag (cipherText : Bytes) : (tag keys nonce cipherText).length = 16 := by
  simp [tag, length_streamBlock wide twelve, Element.bytes, wordBytes]

end Stream

variable {key nonce : Bytes} (twelve : nonce.length = 12)

include twelve

theorem length_encrypt (text : Bytes) : (encrypt key nonce text).length = text.length + 16 := by
  have wide := length_of_mem_roundKeys key
  rw [encrypt, List.length_append, length_streamFrom wide twelve, length_tag wide twelve]

theorem decrypt_encrypt (text : Bytes) :
    decrypt? key nonce (encrypt key nonce text) = some text := by
  have wide := length_of_mem_roundKeys key
  let cipherText := streamFrom (roundKeys key) nonce 2 text
  have tagSize := length_tag wide twelve cipherText
  have front : (encrypt key nonce text).length - 16 = cipherText.length := by
    rw [encrypt, List.length_append, tagSize, Nat.add_sub_cancel]
  have twice : streamFrom (roundKeys key) nonce 2 cipherText = text :=
    streamFrom_streamFrom wide twelve 2 text
  rw [decrypt?, front, encrypt, List.take_left, List.drop_left, if_pos rfl, twice]

theorem encrypt_of_decrypt {message text : Bytes}
    (opened : decrypt? key nonce message = some text) : encrypt key nonce text = message := by
  have wide := length_of_mem_roundKeys key
  unfold decrypt? at opened
  dsimp only at opened
  split at opened
  next right =>
    have twice := streamFrom_streamFrom wide twelve 2 (message.take (message.length - 16))
    have plain := Option.some.inj opened
    rw [plain] at twice
    rw [encrypt, twice, right, List.take_append_drop]
  next => cases opened

end Gcm

end SourceAtlas.Cipher
