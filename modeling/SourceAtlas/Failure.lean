import SourceAtlas.Envelope
import SourceAtlas.Index
import SourceAtlas.Settings

/-!
Why a run fails. Each cause has a text; front ends treat causes by their kind.
-/
namespace SourceAtlas

open Text

inductive Failure
  | settings (fault : SettingsFault)
  | path (fault : PathFault)
  | os (error : OsError)
  | rootMissing (shown : String)
  | rootNotDirectory (shown : String)
  | unsupported (requested available : List String)
  | undetected (root : String) (available : List String)
  | unknownTier (label : String)
  | unknownStore (label : String)
  | unknownChoice (what label : String)
  | keyMissing
  | unsealed (fault : Envelope.SealFault)
  | passphrase (fault : Utf8.EncodeFault)
  | notText (fault : Utf8.Fault)
  | brokenOff (fault : OsFault)
  | tooNested
  | outside (reason : String)

/-- What front ends tell apart. -/
inductive FailureKind
  | configuration
  | noAdapters
  | missing
  | notDirectory
  | exists
  | isDirectory
  | denied
  | system
  | invalid
  | encoding
  | unencodable
  | lookup
  | index
  | attribute
  | overflow
  | runtime
  | recursion
  deriving BEq, DecidableEq, Repr

def OsFault.kind : OsFault → FailureKind
  | .missing => .missing
  | .denied => .denied
  | .exists => .exists
  | .notDirectory => .notDirectory
  | .isDirectory => .isDirectory
  | .device | .noSpace | .readOnly | .nameTooLong | .linkLoop => .system

def PathFault.kind : PathFault → FailureKind
  | .noHome => .runtime
  | .linkLoop _ => .runtime
  | .embeddedNul => .invalid
  | .emptyName _ => .invalid

def Yaml.Fault.kind : Yaml.Fault → FailureKind
  | .malformed => .configuration
  | .pointOutOfRange => .invalid
  | .pointTooLarge => .overflow
  | .numeral _ => .invalid
  | .calendar _ => .invalid
  | .noMoment => .attribute
  | .noDigits => .index
  | .noTruthValue _ => .lookup

def Yaml.Fault.message : Yaml.Fault → String
  | .malformed => "Failed to parse " ++ settingsName
  | .pointOutOfRange => "chr() arg not in range(0x110000)"
  | .pointTooLarge => "Python int too large to convert to C int"
  | .numeral fault => fault.message
  | .calendar reason => reason
  | .noMoment => "'NoneType' object has no attribute 'groupdict'"
  | .noDigits => "string index out of range"
  | .noTruthValue text => quotedText text

namespace SettingsFault

def kind : SettingsFault → FailureKind
  | .path fault => fault.kind
  | .os error => error.fault.kind
  | .encoding _ => .encoding
  | .notAMapping => .configuration
  | .document fault => fault.kind
  | .numeral _ => .invalid

def message : SettingsFault → String
  | .path fault => fault.message
  | .os error => error.message
  | .encoding fault => fault.message
  | .notAMapping => settingsName ++ " must contain a mapping at the root"
  | .document fault => fault.message
  | .numeral fault => fault.message

end SettingsFault

def Envelope.SealFault.kind : Envelope.SealFault → FailureKind
  | .empty => .invalid
  | .passphrase _ => .unencodable

namespace Failure

/-- What a file that is not written fails with. -/
def ofWrite : WriteFault → Failure
  | .path fault => .path fault
  | .os error => .os error
  | .cut fault => .brokenOff fault

def kind : Failure → FailureKind
  | .settings fault => fault.kind
  | .path fault => fault.kind
  | .os error => error.fault.kind
  | .rootMissing _ => .missing
  | .rootNotDirectory _ => .notDirectory
  | .unsupported .. => .noAdapters
  | .undetected .. => .noAdapters
  | .unknownTier _ => .invalid
  | .unknownStore _ => .invalid
  | .unknownChoice .. => .invalid
  | .keyMissing => .invalid
  | .unsealed fault => fault.kind
  | .passphrase _ => .unencodable
  | .notText _ => .encoding
  | .brokenOff fault => fault.kind
  | .tooNested => .recursion
  | .outside _ => .runtime

def message : Failure → String
  | .settings fault => fault.message
  | .path fault => fault.message
  | .os error => error.message
  | .rootMissing shown => "Repository path not found: " ++ shown
  | .rootNotDirectory shown => "Repository path is not a directory: " ++ shown
  | .unsupported requested available =>
      "None of the requested languages are supported: " ++ join ", " requested ++
        ". Available adapters: " ++ join ", " available
  | .undetected root available =>
      "No supported languages detected in " ++ root ++
        ". Add a manifest (for example go.mod or pyproject.toml) or pass --languages with one of: " ++
        join ", " available
  | .unknownTier label => Tier.unknown label
  | .unknownStore label =>
      s!"Unknown store location '{label}'. Expected one of: " ++ join ", " storeNames
  | .unknownChoice what label => s!"Unknown {what} '{label}'"
  | .keyMissing => "Encryption enabled but no encryption key provided"
  | .unsealed fault => fault.message
  | .passphrase fault => fault.message
  | .notText fault => fault.message
  | .brokenOff fault => fault.message
  | .tooNested => "maximum recursion depth exceeded"
  | .outside reason => reason

end Failure

end SourceAtlas
