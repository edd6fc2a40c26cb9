import SourceAtlas.Cipher.Gcm
import SourceAtlas.Digest.KeyStretch
import SourceAtlas.Text.Base64
import SourceAtlas.Text.Lines
import SourceAtlas.Text.StrictEncoding

/-!
Sealed texts: a fixed prefix and the base64 form of salt, nonce and the authenticated cipher text
under a key stretched from a passphrase. Salt and nonce come from the caller.
-/
namespace SourceAtlas.Envelope

open Text

def mark : String := "CODEINDEX_ENCRYPTED_V1:"

def saltSize : Nat := 16

def nonceSize : Nat := 12

def tagSize : Nat := 16

def iterations : Nat := 200000

/-- Why a text cannot be opened. All but the last are refusals of the text. -/
inductive Fault
  | unmarked
  | encoding (fault : Base64.Fault)
  | tooShort
  | unauthentic
  | passphrase (fault : Utf8.EncodeFault)

def Fault.message : Fault → String
  | .unmarked => "Invalid encrypted data: missing prefix"
  | .encoding fault => "Invalid encrypted data: " ++ fault.message
  | .tooShort => "Invalid encrypted data: too short"
  | .unauthentic => "Failed to decrypt (wrong passphrase or corrupted data)"
  | .passphrase fault => fault.message

/-- The key that a passphrase and a salt give. A passphrase comes from outside and may have no
bytes. -/
def keyOf (passphrase : Points) (salt : Bytes) : Except Utf8.EncodeFault Bytes := do
  return Digest.stretch (← Utf8.encodePoints passphrase) salt iterations

/-- Why nothing is sealed. -/
inductive SealFault
  | empty
  | passphrase (fault : Utf8.EncodeFault)

def SealFault.message : SealFault → String
  | .empty => "Encryption requires a non-empty passphrase"
  | .passphrase fault => fault.message

def sealText (passphrase : Points) (salt nonce content : Bytes) : Except SealFault String :=
  if passphrase.isEmpty then .error .empty
  else match keyOf passphrase salt with
    | .error fault => .error (.passphrase fault)
    | .ok key =>
        .ok (mark ++ Base64.encode (salt ++ nonce ++ Cipher.Gcm.encrypt key nonce content))

/-- The bytes in a sealed text, white space around it aside. -/
def reveal (passphrase : Points) (text : String) : Except Fault Bytes :=
  match dropFront? mark.toList (trimChars isBlank text.toList) with
  | none => .error .unmarked
  | some body =>
      match Base64.decodeChars body with
      | .error fault => .error (.encoding fault)
      | .ok raw =>
          if raw.length < saltSize + nonceSize + tagSize then .error .tooShort
          else
            let salt := raw.take saltSize
            let rest := raw.drop saltSize
            match keyOf passphrase salt with
            | .error fault => .error (.passphrase fault)
            | .ok key =>
                match Cipher.Gcm.decrypt? key (rest.take nonceSize) (rest.drop nonceSize) with
                | some content => .ok content
                | none => .error .unauthentic

/-- The bytes in a sealed file, read as a text with replacement of what is no character. -/
def revealBytes (passphrase : Points) (data : Bytes) : Except Fault Bytes :=
  reveal passphrase (Utf8.decodeReplacing data)

def isMarked (text : String) : Bool := startsWith text mark

def isMarkedBytes (data : Bytes) : Bool := (Utf8.encode mark).isPrefixOf data

end SourceAtlas.Envelope
