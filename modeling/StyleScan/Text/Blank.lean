/-!
# StyleScan.Text.Blank

Blank characters and blank-trimmed text.

* `Text.isBlank` — the characters with the `White_Space` property.
* `Text.trim`    — a text without the blanks at its two ends.
-/

namespace StyleScan
namespace Text

/-- The characters with the `White_Space` property: the blanks of every script, and the line
and paragraph separators. -/
def isBlank (c : Char) : Bool :=
  let n := c.toNat
  (0x09 ≤ n && n ≤ 0x0D) || n == 0x20 || n == 0x85 || n == 0xA0 || n == 0x1680
    || (0x2000 ≤ n && n ≤ 0x200A) || n == 0x2028 || n == 0x2029 || n == 0x202F || n == 0x205F
    || n == 0x3000

@[simp] theorem isBlank_newline : isBlank '\n' = true := by decide

@[simp] theorem isBlank_return : isBlank '\r' = true := by decide

/-- Drops the blanks in front of a text and behind it. -/
def trimChars (cs : List Char) : List Char :=
  ((cs.dropWhile isBlank).reverse.dropWhile isBlank).reverse

/-- Drops the blanks in front of a string and behind it. -/
def trim (s : String) : String := String.ofList (trimChars s.toList)

end Text
end StyleScan
