import SourceAtlas.Envelope
import SourceAtlas.Proofs.CounterMode
import SourceAtlas.Proofs.EncodedBytes
import SourceAtlas.Proofs.EncodedText
import SourceAtlas.Proofs.TextPieces

/-!
Sealed texts are opened by their passphrase, as texts and as bytes, and with white space around
them. A text that a passphrase opens is the seal of what is in it, its base64 spelled canonically.
A passphrase with a surrogate in it gives no key, and seals nothing.
-/
namespace SourceAtlas

open Text

namespace Envelope

def payload (text : String) : Except Fault Bytes :=
  match dropFront? mark.toList (trimChars isBlank text.toList) with
  | none => .error .unmarked
  | some body => (Base64.decodeChars body).mapError .encoding

theorem exists_keyOf {passphrase : Points} (scalar : passphrase.any Utf8.isSurrogate = false)
    (salt : Bytes) : ∃ key, keyOf passphrase salt = .ok key := by
  rw [keyOf, Utf8.encodePoints_of_scalar scalar]
  exact ⟨_, rfl⟩

theorem keyOf_eq_error_iff (passphrase : Points) (salt : Bytes) (fault : Utf8.EncodeFault) :
    keyOf passphrase salt = .error fault ↔ Utf8.encodePoints passphrase = .error fault := by
  unfold keyOf
  cases Utf8.encodePoints passphrase with
  | error other => exact Iff.rfl
  | ok bytes => exact ⟨nofun, nofun⟩

def opened (passphrase : Points) (raw : Bytes) : Except Fault Bytes :=
  if raw.length < saltSize + nonceSize + tagSize then .error .tooShort
  else
    match keyOf passphrase (raw.take saltSize) with
    | .error fault => .error (.passphrase fault)
    | .ok key =>
        match Cipher.Gcm.decrypt? key ((raw.drop saltSize).take nonceSize)
            ((raw.drop saltSize).drop nonceSize) with
        | some content => .ok content
        | none => .error .unauthentic

theorem reveal_eq (passphrase : Points) (text : String) :
    reveal passphrase text = payload text >>= opened passphrase := by
  unfold reveal payload
  cases dropFront? mark.toList (trimChars isBlank text.toList) with
  | none => rfl
  | some body =>
      dsimp only
      cases Base64.decodeChars body with
      | error fault => rfl
      | ok raw =>
          change _ = opened passphrase raw
          unfold opened
          by_cases short : raw.length < saltSize + nonceSize + tagSize
          · exact (if_pos short).trans (if_pos short).symm
          · exact (if_neg short).trans (if_neg short).symm

def carrying (raw : Bytes) : String := mark ++ Base64.encode raw

theorem toList_carrying (raw : Bytes) :
    (carrying raw).toList = mark.toList ++ Base64.encodeChars raw := by
  rw [carrying, String.toList_append, Base64.encode, String.toList_ofList]

theorem ascii_carrying (raw : Bytes) : ∀ c ∈ (carrying raw).toList, c.toNat < 128 := by
  have marked (c : Char) (member : c ∈ mark.toList) : c.toNat < 128 := by
    have all : mark.toList.all (decide <| ·.toNat < 128) = true := by decide
    exact of_decide_eq_true (List.all_eq_true.mp all c member)
  rw [toList_carrying]
  intro c member
  exact (List.mem_append.mp member).elim (marked c) (Base64.ascii_encodeChars raw c)

theorem isMarked_carrying (raw : Bytes) : isMarked (carrying raw) = true := by
  rw [isMarked, startsWith, toList_carrying, dropFront_append]
  rfl

theorem isMarkedBytes_carrying (raw : Bytes) :
    isMarkedBytes (Utf8.encode (carrying raw)) = true := by
  rw [isMarkedBytes, List.isPrefixOf_iff_prefix, Utf8.encode, Utf8.encode, toList_carrying,
    Utf8.encodeChars, Utf8.encodeChars, List.flatMap_append]
  exact List.prefix_append _ _

theorem payload_carrying {before after : String} (front : before.toList.all isBlank = true)
    (back : after.toList.all isBlank = true) (raw : Bytes) :
    payload (before ++ carrying raw ++ after) = .ok raw := by
  have marked (c : Char) (member : c ∈ mark.toList) : isBlank c = false := by
    have all : mark.toList.all (!isBlank ·) = true := by decide
    simpa using List.all_eq_true.mp all c member
  have kept : ∀ c ∈ mark.toList ++ Base64.encodeChars raw, isBlank c = false := by
    intro c member
    exact (List.mem_append.mp member).elim (marked c) (Base64.not_blank_encodeChars raw c)
  rw [payload, String.toList_append, String.toList_append, toList_carrying,
    trimChars_append (List.all_eq_true.mp front) (fun c first => kept c (List.mem_of_head? first))
      (fun c last => kept c (List.mem_of_getLast? last)) (List.all_eq_true.mp back),
    dropFront_append]
  dsimp only
  rw [Base64.decodeChars_encodeChars]
  rfl

section Key

variable {passphrase : Points} {salt nonce key : Bytes}

theorem seal_eq (filled : passphrase ≠ []) (stretched : keyOf passphrase salt = .ok key)
    (nonce content : Bytes) : sealText passphrase salt nonce content =
      .ok (carrying (salt ++ nonce ++ Cipher.Gcm.encrypt key nonce content)) := by
  have given : ¬passphrase.isEmpty = true := by simpa using filled
  rw [sealText, if_neg given, stretched]
  rfl

theorem seal_of_lone (filled : passphrase ≠ []) (lone : passphrase.any Utf8.isSurrogate = true)
    (salt nonce content : Bytes) :
    ∃ fault, sealText passphrase salt nonce content = .error (.passphrase fault) := by
  have given : ¬passphrase.isEmpty = true := by simpa using filled
  obtain ⟨fault, refused⟩ := Utf8.exists_encodePoints_fault lone
  refine ⟨fault, ?_⟩
  rw [sealText, if_neg given, (keyOf_eq_error_iff passphrase salt fault).mpr refused]

theorem opened_sealed (stretched : keyOf passphrase salt = .ok key)
    (sixteen : salt.length = saltSize) (twelve : nonce.length = nonceSize) (content : Bytes) :
    opened passphrase (salt ++ nonce ++ Cipher.Gcm.encrypt key nonce content) = .ok content := by
  have long : ¬(salt ++ nonce ++ Cipher.Gcm.encrypt key nonce content).length <
      saltSize + nonceSize + tagSize := by
    have sealed : (Cipher.Gcm.encrypt key nonce content).length = content.length + 16 :=
      Cipher.Gcm.length_encrypt twelve content
    rw [List.length_append, List.length_append, sixteen, twelve, sealed, tagSize]
    omega
  rw [opened, if_neg long, List.append_assoc, List.take_left' sixteen, List.drop_left' sixteen,
    List.take_left' twelve, List.drop_left' twelve, stretched]
  dsimp only
  rw [Cipher.Gcm.decrypt_encrypt twelve]

theorem exists_sealed_of_opened {raw content : Bytes}
    (found : opened passphrase raw = .ok content) :
    ∃ salt nonce key, salt.length = saltSize ∧ nonce.length = nonceSize ∧
      keyOf passphrase salt = .ok key ∧
      raw = salt ++ nonce ++ Cipher.Gcm.encrypt key nonce content := by
  unfold opened at found
  split at found
  · cases found
  next long =>
    have size : saltSize + nonceSize + tagSize ≤ raw.length := Nat.not_lt.mp long
    have sixteen : (raw.take saltSize).length = saltSize := by
      rw [List.length_take]
      omega
    have twelve : ((raw.drop saltSize).take nonceSize).length = nonceSize := by
      rw [List.length_take, List.length_drop]
      omega
    split at found
    · cases found
    next key stretched =>
      split at found
      next same =>
        cases found
        refine ⟨_, _, key, sixteen, twelve, stretched, ?_⟩
        rw [Cipher.Gcm.encrypt_of_decrypt twelve same, List.append_assoc, List.take_append_drop,
          List.take_append_drop]
      next => cases found

theorem reveal_around (stretched : keyOf passphrase salt = .ok key)
    (sixteen : salt.length = saltSize) (twelve : nonce.length = nonceSize) (content : Bytes)
    {before after : String} (front : before.toList.all isBlank = true)
    (back : after.toList.all isBlank = true) :
    reveal passphrase (before ++ carrying (salt ++ nonce ++
      Cipher.Gcm.encrypt key nonce content) ++ after) = .ok content := by
  rw [reveal_eq, payload_carrying front back]
  exact opened_sealed stretched sixteen twelve content

end Key

theorem revealBytes_encode (passphrase : Points) (text : String) :
    revealBytes passphrase (Utf8.encode text) = reveal passphrase text := by
  rw [revealBytes, Utf8.decodeReplacing_encode]

/-- Sealing a content with the salt and the nonce at the front of some bytes gives the text that
carries those bytes. -/
def Reseals (passphrase : Points) (raw content : Bytes) : Prop :=
  sealText passphrase (raw.take saltSize) ((raw.drop saltSize).take nonceSize) content =
    .ok (mark ++ Base64.encode raw)

theorem reseals_of_opened {passphrase : Points} (filled : passphrase ≠ []) {raw content : Bytes}
    (found : opened passphrase raw = .ok content) : Reseals passphrase raw content := by
  obtain ⟨salt, nonce, key, sixteen, twelve, stretched, rfl⟩ := exists_sealed_of_opened found
  rw [Reseals, List.append_assoc, List.take_left' sixteen, List.drop_left' sixteen,
    List.take_left' twelve, seal_eq filled stretched, List.append_assoc, carrying]

theorem reseals_of_reveal {passphrase : Points} (filled : passphrase ≠ []) {text : String}
    {content : Bytes} (found : reveal passphrase text = .ok content) :
    ∃ raw, payload text = .ok raw ∧ Reseals passphrase raw content := by
  rw [reveal_eq] at found
  cases carried : payload text with
  | error fault =>
      rw [carried] at found
      cases found
  | ok raw =>
      rw [carried] at found
      exact ⟨raw, rfl, reseals_of_opened filled found⟩

/-- Under a passphrase that is not empty, sealing and opening undo each other: a sealed text carries
the mark, is plain ASCII, and is opened as a text or as bytes with any white space around it; and
whatever is opened is, its base64 apart, the seal of its content with the salt and the nonce that
it carries. Only a surrogate in the passphrase keeps a content from being sealed. -/
theorem seal_and_reveal {passphrase : Points} (filled : passphrase ≠ []) :
    (passphrase.any Utf8.isSurrogate = false →
      ∀ salt nonce content : Bytes, salt.length = saltSize → nonce.length = nonceSize →
      ∃ token, sealText passphrase salt nonce content = .ok token ∧
        isMarked token = true ∧ isMarkedBytes (Utf8.encode token) = true ∧
        (∀ c ∈ token.toList, c.toNat < 128) ∧
        reveal passphrase token = .ok content ∧
        revealBytes passphrase (Utf8.encode token) = .ok content ∧
        ∀ before after : String, before.toList.all isBlank = true →
          after.toList.all isBlank = true →
          reveal passphrase (before ++ token ++ after) = .ok content ∧
          revealBytes passphrase (Utf8.encode (before ++ token ++ after)) = .ok content) ∧
    (passphrase.any Utf8.isSurrogate = true → ∀ salt nonce content : Bytes,
      ∃ fault, sealText passphrase salt nonce content = .error (.passphrase fault)) ∧
    (∀ (text : String) (content : Bytes), reveal passphrase text = .ok content →
      ∃ raw, payload text = .ok raw ∧ Reseals passphrase raw content) ∧
    ∀ data content : Bytes, revealBytes passphrase data = .ok content →
      ∃ raw, payload (Utf8.decodeReplacing data) = .ok raw ∧ Reseals passphrase raw content := by
  refine ⟨fun scalar salt nonce content sixteen twelve => ?_, seal_of_lone filled,
    fun text content found => reseals_of_reveal filled found,
    fun data content found => reseals_of_reveal filled found⟩
  obtain ⟨key, stretched⟩ := exists_keyOf scalar salt
  have nothing : "".toList.all isBlank = true := rfl
  have bare := reveal_around stretched sixteen twelve content nothing nothing
  rw [String.empty_append, String.append_empty] at bare
  refine ⟨_, seal_eq filled stretched nonce content, isMarked_carrying _, isMarkedBytes_carrying _,
    ascii_carrying _, bare, (revealBytes_encode _ _).trans bare, ?_⟩
  intro before after front back
  have spaced := reveal_around stretched sixteen twelve content front back
  exact ⟨spaced, (revealBytes_encode _ _).trans spaced⟩

theorem greeting_sealed_and_revealed :
    points "tall ship" ≠ [] ∧ (points "tall ship").any Utf8.isSurrogate = false ∧
      (List.replicate 16 (7 : UInt8)).length = saltSize ∧
      (List.replicate 12 (9 : UInt8)).length = nonceSize ∧
      ∃ token, sealText (points "tall ship") (List.replicate 16 7) (List.replicate 12 9)
          (Utf8.encode "naïve") = .ok token ∧
        reveal (points "tall ship") ("\n" ++ token ++ " \t") = .ok (Utf8.encode "naïve") ∧
        ∃ raw, payload token = .ok raw ∧
          Reseals (points "tall ship") raw (Utf8.encode "naïve") := by
  have filled : points "tall ship" ≠ [] := by decide
  have scalar := Utf8.any_isSurrogate_points "tall ship"
  have sixteen : (List.replicate 16 (7 : UInt8)).length = saltSize := rfl
  have twelve : (List.replicate 12 (9 : UInt8)).length = nonceSize := rfl
  obtain ⟨forth, _, back, _⟩ := seal_and_reveal filled
  obtain ⟨token, sealed, _, _, _, revealed, _, around⟩ :=
    forth scalar _ _ (Utf8.encode "naïve") sixteen twelve
  have spaced := around "\n" " \t" (by decide) (by decide)
  exact ⟨filled, scalar, sixteen, twelve, token, sealed, spaced.1, back token _ revealed⟩

end Envelope

end SourceAtlas
