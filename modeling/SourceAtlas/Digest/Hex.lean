import SourceAtlas.Digest.Sha256
import SourceAtlas.Digest.XxHash

/-!
Content hashes as lower-case hexadecimal text, by the name of the algorithm.
-/
namespace SourceAtlas.Digest

open Text (Bytes)

def hexDigit (n : Nat) : Char := if n < 10 then Char.ofNat (48 + n) else Char.ofNat (87 + n)

def hexOf (bytes : Bytes) : String :=
  .ofList (bytes.flatMap fun b => [hexDigit (b.toNat / 16), hexDigit (b.toNat % 16)])

/-- The text of a content hash; every name but `sha256` means the short hash. -/
def contentHash (algorithm : String) (content : Bytes) : String :=
  if algorithm = "sha256" then hexOf (sha256 content) else hexOf (xxHash content)

end SourceAtlas.Digest
