import SourceAtlas.Proofs.NotedWork
import SourceAtlas.Proofs.SealedText
import SourceAtlas.Proofs.StrictBase64

/-!
How the opening of a text ends. White space around the text aside, it is opened if it is the mark
and strict base64 for a salt, a nonce and a message that is authentic under the key that the
passphrase and the salt give. Of what is refused the first thing that is amiss is told. A passphrase
with a surrogate in it has no bytes to make a key from, and opening fails with that for every text
that carries enough bytes.
-/
namespace SourceAtlas

open Text

namespace Envelope

def Carries (text : String) (raw : Bytes) : Prop :=
  ∃ body : String, strip text = mark ++ body ∧ Base64.Spells body.toList raw

def Accepts (passphrase : Points) (raw content : Bytes) : Prop :=
  ∃ key, keyOf passphrase (raw.take 16) = .ok key ∧
    Cipher.Gcm.decrypt? key ((raw.drop 16).take 12) (raw.drop 28) = some content

/-- How the opening of a text must end: with its content exactly if it carries enough bytes that are
accepted, with what keeps the passphrase from being encoded if it carries enough bytes at all, and
else with the first refusal that applies. -/
structure Answers (passphrase : Points) (text : String) (result : Except Fault Bytes) : Prop where
  opened : ∀ content, result = .ok content ↔
    ∃ raw, Carries text raw ∧ 44 ≤ raw.length ∧ Accepts passphrase raw content
  unmarked : result = .error .unmarked ↔ ¬∃ body, strip text = mark ++ body
  unspelled : (∃ fault, result = .error (.encoding fault)) ↔
    ∃ body, strip text = mark ++ body ∧ ¬∃ raw, Base64.Spells body.toList raw
  tooShort : result = .error .tooShort ↔ ∃ raw, Carries text raw ∧ raw.length < 44
  unencoded : ∀ fault, result = .error (.passphrase fault) ↔
    (∃ raw, Carries text raw ∧ 44 ≤ raw.length) ∧ Utf8.encodePoints passphrase = .error fault
  unauthentic : result = .error .unauthentic ↔ passphrase.any Utf8.isSurrogate = false ∧
    ∃ raw, Carries text raw ∧ 44 ≤ raw.length ∧ ¬∃ content, Accepts passphrase raw content

theorem strip_eq_mark_iff (text body : String) : strip text = mark ++ body ↔
    dropFront? mark.toList (trimChars isBlank text.toList) = some body.toList := by
  rw [dropFront?_eq_some_iff, ← String.toList_inj, toList_strip, String.toList_append]

theorem payload_of_unmarked {text : String} (unmarked : ¬∃ body, strip text = mark ++ body) :
    payload text = .error .unmarked := by
  unfold payload
  split
  · rfl
  next body found =>
    refine absurd ⟨.ofList body, ?_⟩ unmarked
    rw [strip_eq_mark_iff, String.toList_ofList, found]

theorem payload_of_marked {text body : String} (marked : strip text = mark ++ body) :
    payload text = (Base64.decodeChars body.toList).mapError .encoding := by
  rw [payload, (strip_eq_mark_iff text body).mp marked]

variable {text body : String}

theorem strip_eq_iff (marked : strip text = mark ++ body) (other : String) :
    strip text = mark ++ other ↔ other = body := by
  rw [marked, String.append_right_inj]
  exact eq_comm

theorem carries_iff (marked : strip text = mark ++ body) (raw : Bytes) :
    Carries text raw ↔ Base64.decodeChars body.toList = .ok raw := by
  simp only [Carries, strip_eq_iff marked, exists_eq_left, Base64.decodeChars_eq_ok_iff]

theorem answers_unmarked (passphrase : Points) (unmarked : ¬∃ body, strip text = mark ++ body) :
    Answers passphrase text (.error .unmarked) := by
  have nothing (raw : Bytes) : ¬Carries text raw := fun ⟨body, marked, _⟩ => unmarked ⟨body, marked⟩
  constructor <;> simp [nothing, unmarked]
  exact fun body marked => absurd ⟨body, marked⟩ unmarked

theorem answers_unspelled (passphrase : Points) (marked : strip text = mark ++ body)
    {fault : Base64.Fault} (refused : Base64.decodeChars body.toList = .error fault) :
    Answers passphrase text (.error (.encoding fault)) := by
  have nothing (raw : Bytes) : ¬Carries text raw := by simp [carries_iff marked, refused]
  constructor <;>
    simp [nothing, strip_eq_iff marked, ← Base64.decodeChars_eq_ok_iff, refused]

section Opened

variable {passphrase : Points} {raw content other : Bytes}

theorem accepts_iff {key : Bytes} (stretched : keyOf passphrase (raw.take saltSize) = .ok key) :
    Accepts passphrase raw content ↔ Cipher.Gcm.decrypt? key ((raw.drop saltSize).take nonceSize)
      ((raw.drop saltSize).drop nonceSize) = some content := by
  have same : keyOf passphrase (raw.take 16) = .ok key := stretched
  rw [Accepts, same, List.drop_drop]
  simp only [Except.ok.injEq, exists_eq_left']
  exact Iff.rfl

theorem opened_of_short (short : raw.length < 44) : opened passphrase raw = .error .tooShort :=
  if_pos short

theorem opened_of_unencoded (long : 44 ≤ raw.length) {fault : Utf8.EncodeFault}
    (unencoded : Utf8.encodePoints passphrase = .error fault) :
    opened passphrase raw = .error (.passphrase fault) := by
  have size : saltSize + nonceSize + tagSize ≤ raw.length := long
  rw [opened, if_neg (Nat.not_lt.mpr size), (keyOf_eq_error_iff _ _ _).mpr unencoded]

theorem opened_of_accepts (long : 44 ≤ raw.length) (accepted : Accepts passphrase raw content) :
    opened passphrase raw = .ok content := by
  have size : saltSize + nonceSize + tagSize ≤ raw.length := long
  obtain ⟨key, stretched, -⟩ := id accepted
  have same : keyOf passphrase (raw.take saltSize) = .ok key := stretched
  rw [accepts_iff same] at accepted
  rw [opened, if_neg (Nat.not_lt.mpr size), same]
  dsimp only
  rw [accepted]

theorem opened_of_rejects (long : 44 ≤ raw.length)
    (scalar : passphrase.any Utf8.isSurrogate = false)
    (rejected : ¬∃ content, Accepts passphrase raw content) :
    opened passphrase raw = .error .unauthentic := by
  have size : saltSize + nonceSize + tagSize ≤ raw.length := long
  obtain ⟨key, stretched⟩ := exists_keyOf scalar (raw.take saltSize)
  simp only [accepts_iff stretched, not_exists, ← Option.eq_none_iff_forall_ne_some] at rejected
  rw [opened, if_neg (Nat.not_lt.mpr size), stretched]
  dsimp only
  rw [rejected]

theorem accepts_unique (first : Accepts passphrase raw content) :
    Accepts passphrase raw other ↔ content = other := by
  obtain ⟨key, stretched, -⟩ := id first
  have same : keyOf passphrase (raw.take saltSize) = .ok key := stretched
  rw [accepts_iff same] at first ⊢
  rw [first, Option.some.injEq]

theorem not_accepts {fault : Utf8.EncodeFault}
    (unencoded : Utf8.encodePoints passphrase = .error fault) :
    ¬Accepts passphrase raw content := by
  rintro ⟨key, stretched, -⟩
  rw [(keyOf_eq_error_iff _ _ _).mpr unencoded] at stretched
  cases stretched

theorem any_isSurrogate_of_unencoded {fault : Utf8.EncodeFault}
    (unencoded : Utf8.encodePoints passphrase = .error fault) :
    passphrase.any Utf8.isSurrogate = true :=
  (Utf8.encodePoints_fault_iff passphrase).mp ⟨fault, unencoded⟩

theorem any_isSurrogate_of_encoded {bytes : Bytes}
    (encoded : Utf8.encodePoints passphrase = .ok bytes) :
    passphrase.any Utf8.isSurrogate = false := by
  by_contra lone
  obtain ⟨fault, failed⟩ := Utf8.exists_encodePoints_fault (Bool.not_eq_false _ ▸ lone)
  rw [encoded] at failed
  cases failed

end Opened

theorem answers_opened (passphrase : Points) (marked : strip text = mark ++ body) {raw : Bytes}
    (spelled : Base64.decodeChars body.toList = .ok raw) :
    Answers passphrase text (opened passphrase raw) := by
  have only (other : Bytes) : Carries text other ↔ other = raw := by
    rw [carries_iff marked, spelled, Except.ok.injEq, eq_comm]
  have spells : ∃ raw, Base64.Spells body.toList raw :=
    ⟨raw, (Base64.decodeChars_eq_ok_iff _ _).mp spelled⟩
  by_cases short : raw.length < 44
  · have less : ¬44 ≤ raw.length := Nat.not_le.mpr short
    rw [opened_of_short short]
    constructor <;> simp [only, strip_eq_iff marked, spells, short, less]
  have long : 44 ≤ raw.length := Nat.not_lt.mp short
  cases encoded : Utf8.encodePoints passphrase with
  | error fault =>
      rw [opened_of_unencoded long encoded]
      constructor <;> simp [only, strip_eq_iff marked, spells, long, not_accepts encoded, encoded,
        any_isSurrogate_of_unencoded encoded]
  | ok bytes =>
      have scalar := any_isSurrogate_of_encoded encoded
      by_cases accepted : ∃ content, Accepts passphrase raw content
      · obtain ⟨content, accepted⟩ := accepted
        rw [opened_of_accepts long accepted]
        constructor <;>
          simp [only, strip_eq_iff marked, spells, long, accepts_unique accepted, encoded]
      · rw [opened_of_rejects long scalar accepted]
        rw [not_exists] at accepted
        constructor <;>
          simp [only, strip_eq_iff marked, spells, long, accepted, encoded, scalar]

theorem answers_text (passphrase : Points) (text : String) :
    Answers passphrase text (reveal passphrase text) := by
  rw [reveal_eq]
  by_cases marked : ∃ body, strip text = mark ++ body
  · obtain ⟨body, marked⟩ := marked
    have carried := payload_of_marked marked
    cases read : Base64.decodeChars body.toList with
    | error fault =>
        rw [read] at carried
        rw [bind_of_error carried]
        exact answers_unspelled passphrase marked read
    | ok raw =>
        rw [read] at carried
        rw [bind_of_ok carried]
        exact answers_opened passphrase marked read
  · rw [bind_of_error (payload_of_unmarked marked)]
    exact answers_unmarked passphrase marked

theorem opened_eq_ok_iff (passphrase : Points) (raw content : Bytes) :
    opened passphrase raw = .ok content ↔ 44 ≤ raw.length ∧ Accepts passphrase raw content := by
  constructor
  · intro found
    have long : 44 ≤ raw.length := by
      by_contra short
      rw [opened_of_short (Nat.not_le.mp short)] at found
      cases found
    refine ⟨long, ?_⟩
    obtain ⟨salt, nonce, key, sixteen, twelve, stretched, rfl⟩ := exists_sealed_of_opened found
    have same : keyOf passphrase ((salt ++ nonce ++
        Cipher.Gcm.encrypt key nonce content).take saltSize) = .ok key := by
      rw [List.append_assoc, List.take_left' sixteen, stretched]
    rw [accepts_iff same, List.append_assoc, List.drop_left' sixteen, List.take_left' twelve,
      List.drop_left' twelve, Cipher.Gcm.decrypt_encrypt twelve]
  · rintro ⟨long, accepted⟩
    exact opened_of_accepts long accepted

theorem accepts_sealed_iff (passphrase : Points) (raw content : Bytes) :
    44 ≤ raw.length ∧ Accepts passphrase raw content ↔
      ∃ salt nonce key, salt.length = saltSize ∧ nonce.length = nonceSize ∧
        keyOf passphrase salt = .ok key ∧
        raw = salt ++ nonce ++ Cipher.Gcm.encrypt key nonce content := by
  rw [← opened_eq_ok_iff]
  constructor
  · exact exists_sealed_of_opened
  · rintro ⟨salt, nonce, key, sixteen, twelve, stretched, rfl⟩
    exact opened_sealed stretched sixteen twelve content

/-- A text is opened exactly if it carries bytes that are accepted, and its content is what they
say; any other text is refused, for the first reason there is, or the passphrase cannot be encoded,
which is so exactly if there is a surrogate in it. Bytes are opened as the text that they are read
as. What is accepted is what was sealed under the same passphrase. -/
theorem reveal_answers (passphrase : Points) :
    (∀ text, Answers passphrase text (reveal passphrase text)) ∧
      (∀ data, Answers passphrase (Utf8.decodeReplacing data) (revealBytes passphrase data)) ∧
      ((∃ fault, Utf8.encodePoints passphrase = .error fault) ↔
        passphrase.any Utf8.isSurrogate = true) ∧
      ∀ raw content, 44 ≤ raw.length ∧ Accepts passphrase raw content ↔
        ∃ salt nonce key, salt.length = saltSize ∧ nonce.length = nonceSize ∧
          keyOf passphrase salt = .ok key ∧
          raw = salt ++ nonce ++ Cipher.Gcm.encrypt key nonce content :=
  ⟨answers_text passphrase, fun data => answers_text passphrase (Utf8.decodeReplacing data),
    Utf8.encodePoints_fault_iff passphrase, accepts_sealed_iff passphrase⟩

end Envelope

end SourceAtlas
