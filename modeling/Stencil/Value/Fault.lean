/-! Why an operation on values fails. -/
namespace Stencil

/-- The kinds of values that messages tell apart. Safe text is text. -/
inductive Kind where
  | undefined
  | null
  | boolean
  | integer
  | float
  | string
  | list
  | map
deriving DecidableEq

/-- The name of a kind. -/
def Kind.name : Kind → String
  | .undefined => "undefined"
  | .null => "null"
  | .boolean => "boolean"
  | .integer => "integer"
  | .float => "float"
  | .string => "string"
  | .list => "list"
  | .map => "map"

/-- The reason why an operator, a filter, a test or a built-in function refuses its input. -/
inductive Fault where
  /-- The operation is not defined on a value of this kind. -/
  | operand (verb : String) (kind : Kind)
  /-- The operation is not defined on this pair of kinds. -/
  | operands (verb : String) (left right : Kind)
  /-- A value of this kind has no such part. -/
  | lacks (kind : Kind) (part : String)
  /-- Another kind was expected. -/
  | expected (what : String) (kind : Kind)
  /-- The named operation needs something else. -/
  | needs (operation what : String) (kind : Kind)
  /-- The named function takes values of another kind. -/
  | expects (function what : String) (kind : Kind)
  /-- A value of this kind cannot become that. -/
  | conversion (kind : Kind) (target : String)
  | divisionByZero
  | moduloByZero
  /-- No number is neither less than, equal to nor greater than another. -/
  | unorderedNaN
  | divisibleByZero
  | roundingMethod (name : String)
  | replaceArguments
  | indentWidth
  /-- The named function takes another number of arguments. -/
  | argumentCount (function takes : String) (given : Nat)
  | rangeStep
  | rangeSize (count limit : Nat)
  /-- The path of a template has to be text. -/
  | pathKind (kind : Kind)
  /-- A pair of names needs a list of two items. -/
  | unpackKind (kind : Kind)
  | unpackCount (count : Nat)
  /-- A function supplied by the host gave this message. -/
  | host (message : String)
deriving DecidableEq

/-- The text of the reason. -/
def Fault.message : Fault → String
  | .operand verb kind => s!"cannot {verb} {kind.name}"
  | .operands verb left right => s!"cannot {verb} {left.name} and {right.name}"
  | .lacks kind part => s!"{kind.name} has no {part}"
  | .expected what kind => s!"expected {what}, got {kind.name}"
  | .needs operation what kind => s!"`{operation}` needs {what}, got {kind.name}"
  | .expects function what kind => s!"{function} expects {what}, got {kind.name}"
  | .conversion kind target => s!"cannot convert {kind.name} to {target}"
  | .divisionByZero => "division by zero"
  | .moduloByZero => "modulo by zero"
  | .unorderedNaN => "cannot order NaN"
  | .divisibleByZero => "divisibleby(0)"
  | .roundingMethod name => s!"unknown rounding method `{name}`"
  | .replaceArguments => "replace needs two arguments"
  | .indentWidth => "indent width too large"
  | .argumentCount function takes given => s!"{function} takes {takes}, {given} given"
  | .rangeStep => "range step must not be zero"
  | .rangeSize count limit => s!"range of {count} items exceeds the limit of {limit}"
  | .pathKind kind => s!"template path must be a string, got {kind.name}"
  | .unpackKind kind => s!"cannot unpack {kind.name} into two names"
  | .unpackCount count => s!"cannot unpack {count} items into two names"
  | .host message => message

end Stencil
