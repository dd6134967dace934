import StyleScan.Encoding.ByteOrder
import StyleScan.Encoding.Utf8

/-!
# StyleScan.Encoding.Utf16

UTF-16 in either byte order, one byte at a time. A surrogate without its partner is malformed.

* `Utf16.State`  — the first byte of a unit and the first unit of a pair, where there are any.
* `Utf16.step`   — takes one byte.
* `Utf16.flush`  — what an unfinished character becomes at the end: one U+FFFD.
* `Utf16.encode` — the bytes of a character.
-/

namespace StyleScan
namespace Utf16

open Utf8 (replacement)

/-- The first byte of the unit under way, and the high surrogate that waits for its partner. -/
structure State where
  byte : Option Nat := none
  surrogate : Option Nat := none
deriving DecidableEq, Repr, Inhabited

/-- A unit that is the first of a pair. -/
def isHigh (unit : Nat) : Bool := 0xD800 ≤ unit && unit < 0xDC00

/-- A unit that is the second of a pair. -/
def isLow (unit : Nat) : Bool := 0xDC00 ≤ unit && unit < 0xE000

/-- The character of a pair. -/
def join (high low : Nat) : Char := Char.ofNat (0x10000 + (high - 0xD800) * 1024 + (low - 0xDC00))

/-- Takes a unit that starts a character. -/
def startUnit (unit : Nat) : State × List Char :=
  if isHigh unit then ({ surrogate := some unit }, [])
  else if isLow unit then ({}, [replacement])
  else ({}, [Char.ofNat unit])

/-- Takes a unit. One that is not the partner of the waiting surrogate starts a new character. -/
def stepUnit (surrogate : Option Nat) (unit : Nat) : State × List Char :=
  match surrogate with
  | none => startUnit unit
  | some high =>
    if isLow unit then ({}, [join high unit])
    else
      let next := startUnit unit
      (next.1, replacement :: next.2)

/-- Takes one byte. -/
def step (order : ByteOrder) (s : State) (b : Nat) : State × List Char :=
  match s.byte with
  | none => ({ s with byte := some b }, [])
  | some first => stepUnit s.surrogate (order.number [first, b])

/-- What is unfinished at the end of the input is one malformed character. -/
def flush (s : State) : List Char :=
  if s.byte.isSome || s.surrogate.isSome then [replacement] else []

/-- The bytes of a character. -/
def encode (order : ByteOrder) (c : Char) : List Nat :=
  let n := c.toNat
  if n < 0x10000 then order.bytes 2 n
  else order.bytes 2 (0xD800 + (n - 0x10000) / 1024)
    ++ order.bytes 2 (0xDC00 + (n - 0x10000) % 1024)

end Utf16
end StyleScan
