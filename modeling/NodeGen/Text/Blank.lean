/-
Blank characters.

`isBlank` is the Unicode property White_Space, which has twenty-five members.
Descriptors skip blanks between their pieces, and an answer or a message is read
without the blanks around it.  Where only ASCII counts as blank, the vertical
tab does not.
-/

namespace NodeGen
namespace Text

def isBlank (c : Char) : Bool :=
  let n := c.toNat
  (0x09 ≤ n && n ≤ 0x0D) || n == 0x20 || n == 0x85 || n == 0xA0 || n == 0x1680
    || (0x2000 ≤ n && n ≤ 0x200A) || n == 0x2028 || n == 0x2029 || n == 0x202F
    || n == 0x205F || n == 0x3000

def isAsciiBlank (c : Char) : Bool :=
  c == ' ' || c == '\t' || c == '\n' || c == '\x0c' || c == '\r'

/-- Text without the blanks at its two ends. -/
def trim (s : String) : String :=
  String.ofList ((s.toList.dropWhile isBlank).reverse.dropWhile isBlank).reverse

theorem isBlank_dot : isBlank '.' = false := by decide

theorem isBlank_lt : isBlank '<' = false := by decide

theorem isBlank_gt : isBlank '>' = false := by decide

end Text
end NodeGen
