import MockCluster.Text.Printable.Extending
import MockCluster.Text.Printable.Unassigned

/-!
# Printable characters

A character is printable if it is seen by itself when it is printed. Not printable are controls, format characters,
separators other than the space, letters that fill a place and are blank, characters for private use, unassigned code
points, and characters that join the one before them.
-/

namespace MockCluster.Printable

/-- The ranges of control characters. -/
def controls : List (Nat × Nat) := [(0x0, 0x1f), (0x7f, 0x9f)]

/-- The ranges of separators other than the space. -/
def separators : List (Nat × Nat) := [
  (0xa0, 0xa0), (0x1680, 0x1680), (0x2000, 0x200a), (0x2028, 0x2029), (0x202f, 0x202f), (0x205f, 0x205f),
  (0x3000, 0x3000)]

/-- The ranges of format characters. -/
def formats : List (Nat × Nat) := [
  (0xad, 0xad), (0x600, 0x605), (0x61c, 0x61c), (0x6dd, 0x6dd), (0x70f, 0x70f), (0x890, 0x891), (0x8e2, 0x8e2),
  (0x180e, 0x180e), (0x200b, 0x200f), (0x202a, 0x202e), (0x2060, 0x2064), (0x2066, 0x206f), (0xfeff, 0xfeff),
  (0xfff9, 0xfffb), (0x110bd, 0x110bd), (0x110cd, 0x110cd), (0x13430, 0x1343f), (0x1bca0, 0x1bca3),
  (0x1d173, 0x1d17a), (0xe0001, 0xe0001), (0xe0020, 0xe007f)]

/-- The ranges of letters that are blank: they hold the place of a part of a Korean syllable. -/
def fillers : List (Nat × Nat) := [(0x115f, 0x1160), (0x3164, 0x3164), (0xffa0, 0xffa0)]

/-- The ranges of characters for private use. -/
def privateUse : List (Nat × Nat) := [(0xe000, 0xf8ff), (0xf0000, 0xffffd), (0x100000, 0x10fffd)]

/-- Whether one of the ranges holds a number. -/
def within (ranges : List (Nat × Nat)) (n : Nat) : Bool := ranges.any fun (first, last) => first ≤ n && n ≤ last

/-- Whether a character is not seen by itself when it is printed. -/
def isHidden (c : Char) : Bool :=
  [controls, separators, formats, fillers, privateUse, extending, unassigned].any (within · c.toNat)

/-- Whether a character is seen by itself when it is printed. The first test answers for most characters. -/
def isPrintable (c : Char) : Bool := (' ' ≤ c && c ≤ '~') || !isHidden c

end MockCluster.Printable
