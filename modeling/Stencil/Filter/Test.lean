import Stencil.Filter.Basic
import Stencil.Text.Casing

/-! The tests that templates find without a host. -/
namespace Stencil.Test

/-- The integer that the named test needs. -/
def integer (test : String) (v : Value) : Except Fault Int :=
  match v.int? with
  | some i => .ok i.toInt
  | none => .error (.needs test "an integer" v.kind)

/-- Whether an integer is a multiple of the argument. True for the least integer and
-1, where the remainder of machine integers overflows and gives no answer. -/
def divisibleBy (v : Value) (args : List Value) : Except Fault Bool := do
  let n ← integer "divisibleby" v
  let d ← integer "divisibleby" ((argument? args 0).getD .undefined)
  if d = 0 then throw .divisibleByZero
  return n.tmod d = 0

/-- Whether a text has a character of the one case and none of the other. -/
def cased (wanted other : Char → Bool) (v : Value) : Bool :=
  match v.text? with
  | some s => s.toList.any wanted && !s.toList.any other
  | none => false

def isSequence : Value → Bool
  | .list _ | .str _ | .safe _ => true
  | _ => false

def isIterable : Value → Bool
  | .list _ | .map _ | .str _ | .safe _ => true
  | _ => false

/-- Whether there is nothing or nothing in it. -/
def isEmpty : Value → Bool
  | .undefined | .null => true
  | .str s | .safe s => s.isEmpty
  | .list items => items.isEmpty
  | .map entries => entries.isEmpty
  | _ => false

/-- A test that needs no arguments and cannot fail. -/
def plain (p : Value → Bool) : Test := fun v _ => .ok (p v)

/-- The built-in tests by name. -/
def builtin : List (String × Test) :=
  [("defined", plain (!·.isUndefined)),
   ("undefined", plain Value.isUndefined),
   ("none", plain (·.kind = .null)),
   ("null", plain (·.kind = .null)),
   ("boolean", plain (·.kind = .boolean)),
   ("number", plain Value.isNumber),
   ("integer", plain (·.kind = .integer)),
   ("float", plain (·.kind = .float)),
   ("string", plain (·.kind = .string)),
   ("mapping", plain (·.kind = .map)),
   ("sequence", plain isSequence),
   ("iterable", plain isIterable),
   ("even", fun v _ => (integer "even" v).map (·.tmod 2 = 0)),
   ("odd", fun v _ => (integer "odd" v).map (·.tmod 2 ≠ 0)),
   ("divisibleby", divisibleBy),
   ("lower", plain (cased Unicode.isLowercase Unicode.isUppercase)),
   ("upper", plain (cased Unicode.isUppercase Unicode.isLowercase)),
   ("empty", plain isEmpty)]

end Stencil.Test
