import LifecycleOperator.Text.Numeral

/-!
# The address of the diagnostics server

An address is the name of a host and a port behind the last colon.
-/

namespace LifecycleOperator

/-- Why nothing can be served under an address. -/
inductive AddressProblem
  | noPort
  | unusablePort
  deriving DecidableEq, Repr, Inhabited

namespace AddressProblem

def message : AddressProblem → String
  | .noPort => "invalid socket address"
  | .unusablePort => "invalid port value"

end AddressProblem

namespace ListenAddress

def port (address : String) : Except AddressProblem Nat :=
  let characters := address.toList
  if !characters.contains ':' then .error .noPort
  else
    match Text.unsigned? 0x10000 (characters.reverse.takeWhile (· != ':')).reverse with
    | some port => .ok port
    | none => .error .unusablePort

end ListenAddress

end LifecycleOperator
