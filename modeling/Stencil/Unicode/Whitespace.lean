import Stencil.Unicode.CharRange

/-! The Unicode property White_Space. -/
namespace Stencil.Unicode

/-- The code points with the property White_Space, in ascending order. -/
def whitespace : List CharRange :=
  [⟨0x0009, 0x000d, 1⟩, ⟨0x0020, 0x0020, 1⟩, ⟨0x0085, 0x0085, 1⟩, ⟨0x00a0, 0x00a0, 1⟩,
   ⟨0x1680, 0x1680, 1⟩, ⟨0x2000, 0x200a, 1⟩, ⟨0x2028, 0x2029, 1⟩, ⟨0x202f, 0x202f, 1⟩,
   ⟨0x205f, 0x205f, 1⟩, ⟨0x3000, 0x3000, 1⟩]

/-- Blanks, tabs, line and page breaks of any script. -/
def isWhitespace (c : Char) : Bool :=
  if c.toNat < 128 then c == ' ' || (9 ≤ c.toNat && c.toNat ≤ 13)
  else whitespace.any (·.contains c.toNat)

end Stencil.Unicode
