import Stencil.Template.Basic

/-! The compiled templates that an engine keeps. -/
namespace Stencil

/-- A template that was loaded, and the number of the load. Loads of one name are told apart by
it. -/
structure Loaded where
  edition : Nat
  template : Template

/-- Loaded templates by name, and their names in the order of insertion, oldest first. -/
structure Cache where
  entries : Dict Loaded := []
  order : List String := []

namespace Cache

def get? (c : Cache) (name : String) : Option Loaded := Dict.get? c.entries name

/-- Drops the oldest templates so that at most `n` are left. -/
def shrink (c : Cache) (n : Nat) : Cache :=
  let gone := c.order.take (c.order.length - n)
  { entries := gone.foldl Dict.erase c.entries, order := c.order.drop (c.order.length - n) }

/-- Keeps a template under a name and makes room for it first. Without capacity nothing is kept. -/
def insert (c : Cache) (capacity : Nat) (name : String) (t : Loaded) : Cache :=
  if capacity = 0 then c
  else
    let c := c.shrink (capacity - 1)
    { entries := Dict.insert name t c.entries,
      order := if Dict.contains c.entries name then c.order else c.order ++ [name] }

end Cache

end Stencil
