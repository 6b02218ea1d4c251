/-!
# Bytes

Two runs of bytes are equal when their arrays are, which is decided byte by byte.
-/

namespace Scribe.Text

/-- Runs of bytes are compared by their bytes. -/
instance decidableEqBytes : DecidableEq ByteArray := fun left right =>
  decidable_of_iff (left.data = right.data) ⟨ByteArray.ext, congrArg ByteArray.data⟩

end Scribe.Text
