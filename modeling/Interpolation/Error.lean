import Interpolation.Pattern.Reader.Basic

/-!
# Errors

* `Error` says why an evaluation ended without an answer;
* `Error.message` is its wording.

A strategy that does not recognise a token, or whose property is unset, makes no error: it gives
no answer.
-/

namespace Interpolation

/-- What is missing in the configuration of a strategy. -/
inductive Misconfiguration where
  /-- A recogniser without a pattern. -/
  | patternUnset
  /-- A delimiter that is empty. -/
  | emptyDelimiter
  /-- A strategy keyed on a prefix, without one. -/
  | prefixUnset
  deriving DecidableEq, Repr

/-- Why an evaluation ended without an answer. -/
inductive Error where
  /-- A strategy was used before it was fully configured. -/
  | configuration (fault : Misconfiguration)
  /-- A failure that is reported to the user, such as a required property that is not set. -/
  | failure (message : Text)
  /-- A substring that is no part of the value of a property. -/
  | outOfRange (property : Text) (start stop length : Nat)
  /-- A frame was to be taken from the top of the guard, and something else was found there, or
  nothing. -/
  | imbalance (expected : Text) (found : Option Text)
  /-- A pattern that cannot be read. -/
  | pattern (fault : Pattern.Fault)
  deriving DecidableEq, Repr

/-- The wording of a fault in a configuration. -/
def Misconfiguration.message : Misconfiguration → Text
  | .patternUnset => "pattern not set".toList
  | .emptyDelimiter => "invalid delimiter: empty".toList
  | .prefixUnset => "prefix unset".toList

namespace Error

/-- A name as it stands in a message. -/
def cited (t : Text) : Text :=
  Char.ofNat 96 :: t ++ [Char.ofNat 96]

/-- The wording of an error. -/
def message : Error → Text
  | .configuration fault => "configuration error: ".toList ++ fault.message
  | .failure message => message
  | .outOfRange property start stop length =>
    "substring ".toList ++ Text.ofNat start ++ "..".toList ++ Text.ofNat stop
      ++ " out of range for property ".toList ++ cited property
      ++ " (length ".toList ++ Text.ofNat length ++ ")".toList
  | .imbalance expected (some found) =>
    "internal consistency error: stack out of balance: expected ".toList ++ cited expected
      ++ " on top, found ".toList ++ cited found
  | .imbalance expected none =>
    "internal consistency error: stack out of balance: ".toList ++ cited expected
      ++ " popped from an empty guard".toList
  | .pattern fault => "invalid pattern: ".toList ++ fault.message.toList

end Error

end Interpolation
