import StyleScan.Encoding.ByteOrder
import StyleScan.Encoding.Utf8

/-!
# StyleScan.Encoding.Utf32

UTF-32 in either byte order, one byte at a time. A group of four bytes that is no character, and an
unfinished group at the end, become one U+FFFD each.

* `Utf32.scalar` — the character of a number.
* `Utf32.step`   — takes one byte; the state is the bytes of the unfinished group.
* `Utf32.flush`  — what an unfinished group becomes at the end.
* `Utf32.encode` — the bytes of a character.
-/

namespace StyleScan
namespace Utf32

open Utf8 (replacement)

/-- The character of a number, or U+FFFD for a surrogate and for a number that is too large. -/
def scalar (n : Nat) : Char := if n.isValidChar then Char.ofNat n else replacement

/-- Takes one byte. -/
def step (order : ByteOrder) (group : List Nat) (b : Nat) : List Nat × List Char :=
  let group := group ++ [b]
  if group.length < 4 then (group, []) else ([], [scalar (order.number group)])

/-- What an unfinished group becomes at the end of the input. -/
def flush (group : List Nat) : List Char := if group.isEmpty then [] else [replacement]

/-- The bytes of a character. -/
def encode (order : ByteOrder) (c : Char) : List Nat := order.bytes 4 c.toNat

end Utf32
end StyleScan
