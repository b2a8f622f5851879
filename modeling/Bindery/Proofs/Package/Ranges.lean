import Bindery.Proofs.Native.Range
import Bindery.Proofs.Package.Constants

/-!
# Ranges of constants

The base of an enumeration is the signed integer of as many bytes, whatever its values are. Those of an
enumeration of eight bytes fit. In a narrower one only the values of two's complement do, which the upper
half of an unsigned enumeration is not among.
-/

namespace Bindery

open Native (Identity)

/-! ## Signed integers of the managed language -/

namespace Package

variable {p p' : Package} {included : List Package}

/-! ## Enumerators behind constants -/

end Package

end Bindery
