/-
**What can go wrong when values are worked with.**

* `Fault` — the causes, each with what its message names.
* `digitLimit` — the message about a number with too many digits.
* `Fault.message` — the message.
-/

namespace QueryDesk

/-- Why an operation on values has no result. -/
inductive Fault where
  /-- Two values that cannot be put in order. -/
  | incomparable
  /-- A value of this kind cannot be a member or a key. -/
  | unhashable (kind : String)
  /-- A signalling not-a-number cannot be a member or a key. -/
  | signallingKey
  /-- A decimal operation on a value that is not a number. -/
  | invalidOperation
  /-- A whole number beyond the range of doubles. -/
  | doubleOverflow
  /-- A whole number with too many digits to be written. -/
  | tooManyDigits
deriving DecidableEq, Repr

/-- A number with too many digits, which may be counted. -/
def digitLimit (count : Option Nat) : String :=
  "Exceeds the limit (4300 digits) for integer string conversion" ++
    (count.elim "" fun digits => ": value has " ++ toString digits ++ " digits") ++
    "; use sys.set_int_max_str_digits() to increase the limit"

namespace Fault

/-- The message of a fault. -/
def message : Fault → String
  | .incomparable => "values cannot be put in order"
  | .unhashable kind => "unhashable type: '" ++ kind ++ "'"
  | .signallingKey => "Cannot hash a signaling NaN value"
  | .invalidOperation => "[<class 'decimal.InvalidOperation'>]"
  | .doubleOverflow => "int too large to convert to float"
  | .tooManyDigits => digitLimit none

end Fault

end QueryDesk
