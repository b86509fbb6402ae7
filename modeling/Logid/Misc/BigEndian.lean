import Mathlib.Data.List.Basic

/-!
# Words in a run of bytes

The big-endian 16-bit words that a run of bytes starts with; a last byte without a second one is left.
-/

namespace BigEndian

def word (high low : UInt8) : UInt16 := high.toUInt16 <<< 8 ||| low.toUInt16

def words : List UInt8 → List UInt16
  | [] => []
  | [_] => []
  | high :: low :: rest => word high low :: words rest

end BigEndian
