/-!
# Base 64

Bytes as text: three bytes are four letters of an alphabet of sixty-four, and
equals signs fill up what the last bytes leave open.
-/

namespace LifecycleOperator
namespace Text

def base64Alphabet : List Char :=
  "ABCDEFGHIJKLMNOPQRSTUVWXYZabcdefghijklmnopqrstuvwxyz0123456789+/".toList

/-- The letter of a value below sixty-four. -/
def base64Letter (value : Nat) : Char := base64Alphabet.getD (value % 64) '='

def base64 : List UInt8 → List Char
  | [] => []
  | [first] =>
      let value := first.toNat * 16
      [base64Letter (value / 64), base64Letter value, '=', '=']
  | [first, second] =>
      let value := (first.toNat * 256 + second.toNat) * 4
      [base64Letter (value / 4096), base64Letter (value / 64), base64Letter value, '=']
  | first :: second :: third :: rest =>
      let value := (first.toNat * 256 + second.toNat) * 256 + third.toNat
      [base64Letter (value / 262144), base64Letter (value / 4096),
        base64Letter (value / 64), base64Letter value] ++ base64 rest

end Text
end LifecycleOperator
