/-!
# White space

The characters with Unicode's `White_Space` property: tab to carriage return, the blank, the
next-line control, the no-break spaces, the typographic spaces, the line and paragraph
separators and the ideographic space. Trimming removes them at both ends.
-/

namespace Fanout.Text

/-- Whether `c` has the `White_Space` property. -/
def isWhiteSpace (c : Char) : Bool :=
  let n := c.toNat
  (0x9 ≤ n && n ≤ 0xd) || n == 0x20 || n == 0x85 || n == 0xa0 || n == 0x1680 ||
    (0x2000 ≤ n && n ≤ 0x200a) || n == 0x2028 || n == 0x2029 || n == 0x202f || n == 0x205f ||
    n == 0x3000

/-- `s` without white space at either end. -/
def trimWhite (s : String) : String :=
  String.ofList ((s.toList.dropWhile isWhiteSpace).reverse.dropWhile isWhiteSpace).reverse

/-- Whether `s` holds only white space. -/
def isBlank (s : String) : Bool := s.toList.all isWhiteSpace

theorem isWhiteSpace_of_isWhitespace {c : Char} (h : c.isWhitespace = true) :
    isWhiteSpace c = true := by
  simp only [Char.isWhitespace, Bool.or_eq_true, decide_eq_true_eq] at h
  simp only [isWhiteSpace, Bool.or_eq_true, Bool.and_eq_true, decide_eq_true_eq, beq_iff_eq]
  rcases h with ((h | h) | h) | h <;> subst h <;> simp

end Fanout.Text
