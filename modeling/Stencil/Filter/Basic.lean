import Stencil.Value.Basic

/-! Filters and tests, and the registry that finds them by name. -/
namespace Stencil

/-- A filter: a function of the filtered value and the arguments. -/
structure Filter where
  run : Value → List Value → Except Fault Value
  /-- Whether the filter runs on an undefined value; all others pass it through. -/
  rescuesUndefined : Bool

/-- A test: a predicate of the tested value and the arguments. -/
abbrev Test := Value → List Value → Except Fault Bool

/-- Applies a filter to a value. -/
def Filter.apply (f : Filter) (v : Value) (args : List Value) : Except Fault Value :=
  if v.isUndefined && !f.rescuesUndefined then .ok .undefined else f.run v args

/-- The argument at `i`; an undefined one counts as missing. -/
def argument? (args : List Value) (i : Nat) : Option Value :=
  args[i]?.filter (!·.isUndefined)

/-- The filters and tests that templates may name. -/
structure Registry where
  filters : Dict Filter
  tests : Dict Test

namespace Registry

def filter? (r : Registry) (name : String) : Option Filter := Dict.get? r.filters name

def test? (r : Registry) (name : String) : Option Test := Dict.get? r.tests name

def hasFilter (r : Registry) (name : String) : Bool := (r.filter? name).isSome

def hasTest (r : Registry) (name : String) : Bool := (r.test? name).isSome

/-- Applies the filter of that name, if there is one. -/
def run? (r : Registry) (name : String) (v : Value) (args : List Value) :
    Option (Except Fault Value) :=
  (r.filter? name).map (·.apply v args)

/-- Adds or replaces a filter. A filter of the host does not run on undefined values. -/
def addFilter (r : Registry) (name : String) (run : Value → List Value → Except Fault Value) :
    Registry :=
  { r with filters := Dict.insert name ⟨run, false⟩ r.filters }

/-- Adds or replaces a test. -/
def addTest (r : Registry) (name : String) (test : Test) : Registry :=
  { r with tests := Dict.insert name test r.tests }

end Registry

end Stencil
