import DataSchema.Document.Compact
import DataSchema.Sha256

/-!
# Fingerprints

The fingerprint of a document is the SHA-256 digest of its compact text, so
the order of keys matters.
-/

namespace DataSchema

structure Fingerprint where
  hex : String
deriving DecidableEq

namespace Fingerprint

def ofText (text : String) : Fingerprint := ⟨Sha256.hexDigest text.toUTF8.toList⟩

def ofDocument (document : Document) : Fingerprint := ofText document.compact

/-- The first twelve digits. -/
def short (fingerprint : Fingerprint) : String := String.ofList (fingerprint.hex.toList.take 12)

def isOf (fingerprint : Fingerprint) (document : Document) : Bool :=
  fingerprint == ofDocument document

end Fingerprint

end DataSchema
