import HostWatch.Text.Utf8

/-!
# JSON values

The values of JSON. Whole numbers of 64 bits are kept exactly; every other number
is a binary floating-point number. The members of an object are kept in order of
their keys, one per key.

`Fault` is the class of a reading error: a text is read from left to right and the
first error found decides the class.
-/

namespace HostWatch.Json

/-- Why a text does not decode. -/
inductive Fault where
  /-- The text is not JSON. -/
  | malformed
  /-- The text ended before the value did. -/
  | truncated
  /-- The text is JSON, but not of the type that is due. -/
  | mismatched
  deriving DecidableEq, Repr

/-- A number of JSON. -/
inductive Number where
  /-- A whole number between `-2^63` and `2^64 - 1`. -/
  | integer (z : Int)
  /-- Any other number. -/
  | real (x : Float)

/-- A value of JSON. -/
inductive Value where
  /-- The value `null`. -/
  | null
  /-- A truth value. -/
  | bool (b : Bool)
  /-- A number. -/
  | number (n : Number)
  /-- A string. -/
  | string (s : String)
  /-- An array. -/
  | array (items : List Value)
  /-- An object, its members in order of their keys. -/
  | object (members : List (String × Value))

/-- Nothing is known of a value but that there is one. -/
instance : Inhabited Value := ⟨.null⟩

/-- The whole number `z` as a value. -/
def Value.ofInt (z : Int) : Value :=
  .number (.integer z)

end HostWatch.Json
