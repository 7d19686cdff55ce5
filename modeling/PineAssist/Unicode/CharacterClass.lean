/-!
# Character classes

A class of a few hundred ranges is kept as a balanced search tree, so that membership takes a
handful of comparisons and still unfolds by plain structural recursion. Decimal digits of all
scripts are such a class; its table lists the ranges above ASCII in increasing order. White space is
a short list: the ASCII controls from tab to carriage return, the space, and the separators of the
general punctuation block.
-/

namespace PineAssist.Unicode

/-- Search tree of disjoint closed ranges, every range to the left being below the node's own. -/
inductive RangeTree where
  | empty
  | node (left : RangeTree) (first last : Nat) (right : RangeTree)

namespace RangeTree

/-- Whether some range of the tree covers the code point. -/
def contains : RangeTree → Nat → Bool
  | empty, _ => false
  | node left first last right, point =>
    if point < first then left.contains point
    else if last < point then right.contains point
    else true

/-- Balanced tree of the given height bound over increasing ranges. -/
def build : Nat → List (Nat × Nat) → RangeTree
  | 0, _ => empty
  | height + 1, ranges =>
    match ranges.drop (ranges.length / 2) with
    | [] => empty
    | (first, last) :: above =>
      node (build height (ranges.take (ranges.length / 2))) first last (build height above)

/-- Balanced tree over ranges listed in increasing order. -/
def ofSorted (ranges : List (Nat × Nat)) : RangeTree :=
  build ranges.length ranges

end RangeTree

/-- Every white-space code point. -/
def whiteSpacePoints : List Nat :=
  [0x9, 0xA, 0xB, 0xC, 0xD, 0x20, 0x85, 0xA0, 0x1680, 0x2000, 0x2001, 0x2002, 0x2003, 0x2004,
    0x2005, 0x2006, 0x2007, 0x2008, 0x2009, 0x200A, 0x2028, 0x2029, 0x202F, 0x205F, 0x3000]

/-- Holds of the white-space characters. -/
def isWhiteSpace (char : Char) : Bool :=
  whiteSpacePoints.contains char.toNat

/-- Code points above ASCII that are decimal digits. -/
def digitRanges : RangeTree :=
  RangeTree.ofSorted [
    (0x660, 0x669), (0x6F0, 0x6F9), (0x7C0, 0x7C9), (0x966, 0x96F), (0x9E6, 0x9EF),
    (0xA66, 0xA6F), (0xAE6, 0xAEF), (0xB66, 0xB6F), (0xBE6, 0xBEF), (0xC66, 0xC6F),
    (0xCE6, 0xCEF), (0xD66, 0xD6F), (0xDE6, 0xDEF), (0xE50, 0xE59), (0xED0, 0xED9),
    (0xF20, 0xF29), (0x1040, 0x1049), (0x1090, 0x1099), (0x17E0, 0x17E9), (0x1810, 0x1819),
    (0x1946, 0x194F), (0x19D0, 0x19D9), (0x1A80, 0x1A89), (0x1A90, 0x1A99), (0x1B50, 0x1B59),
    (0x1BB0, 0x1BB9), (0x1C40, 0x1C49), (0x1C50, 0x1C59), (0xA620, 0xA629), (0xA8D0, 0xA8D9),
    (0xA900, 0xA909), (0xA9D0, 0xA9D9), (0xA9F0, 0xA9F9), (0xAA50, 0xAA59), (0xABF0, 0xABF9),
    (0xFF10, 0xFF19), (0x104A0, 0x104A9), (0x10D30, 0x10D39), (0x10D40, 0x10D49),
    (0x11066, 0x1106F), (0x110F0, 0x110F9), (0x11136, 0x1113F), (0x111D0, 0x111D9),
    (0x112F0, 0x112F9), (0x11450, 0x11459), (0x114D0, 0x114D9), (0x11650, 0x11659),
    (0x116C0, 0x116C9), (0x116D0, 0x116E3), (0x11730, 0x11739), (0x118E0, 0x118E9),
    (0x11950, 0x11959), (0x11BF0, 0x11BF9), (0x11C50, 0x11C59), (0x11D50, 0x11D59),
    (0x11DA0, 0x11DA9), (0x11F50, 0x11F59), (0x16130, 0x16139), (0x16A60, 0x16A69),
    (0x16AC0, 0x16AC9), (0x16B50, 0x16B59), (0x16D70, 0x16D79), (0x1CCF0, 0x1CCF9),
    (0x1D7CE, 0x1D7FF), (0x1E140, 0x1E149), (0x1E2F0, 0x1E2F9), (0x1E4F0, 0x1E4F9),
    (0x1E5F1, 0x1E5FA), (0x1E950, 0x1E959), (0x1FBF0, 0x1FBF9)]

/-- Holds of the decimal digits of every script. -/
def isDecimalDigit (char : Char) : Bool :=
  if char.toNat < 0x80 then char.isDigit else digitRanges.contains char.toNat

theorem toNat_lt_of_isDigit {char : Char} (digit : char.isDigit) : char.toNat < 0x80 := by
  have value : char.toNat = char.val.toNat := rfl
  delta Char.isDigit at digit
  simp [UInt32.le_iff_toNat_le] at digit
  omega

/-- Among the decimal digits, the ASCII characters are the ASCII digits. -/
theorem isDigit_iff_of_isDecimalDigit {char : Char} (decimal : isDecimalDigit char) :
    char.isDigit ↔ char.toNat < 0x80 := by
  constructor
  · exact toNat_lt_of_isDigit
  · intro ascii
    rwa [isDecimalDigit, if_pos ascii] at decimal

end PineAssist.Unicode
