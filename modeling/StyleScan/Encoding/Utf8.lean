/-!
# StyleScan.Encoding.Utf8

UTF-8, one byte at a time. Malformed input gives one U+FFFD for each longest run of bytes that
could have started a character, as soon as the run is known to be broken.

* `Utf8.State`  — what is known of the character under way.
* `Utf8.step`   — takes one byte.
* `Utf8.flush`  — what an unfinished character becomes at the end.
* `Utf8.encode` — the bytes of a character, and `Utf8.bytes` those of a text.
-/

namespace StyleScan
namespace Utf8

/-- The character that stands for malformed input. -/
def replacement : Char := '\ufffd'

/-- Between two characters, or inside one: the further bytes it needs, the bits so far, and the
range in which the next byte must lie. -/
inductive State where
  | ready
  | within (needed bits low high : Nat)
deriving DecidableEq, Repr, Inhabited

/-- Takes a byte that starts a character. -/
def start (b : Nat) : State × List Char :=
  if b < 0x80 then (.ready, [Char.ofNat b])
  else if b < 0xC2 then (.ready, [replacement])
  else if b < 0xE0 then (.within 1 (b - 0xC0) 0x80 0xBF, [])
  else if b = 0xE0 then (.within 2 0 0xA0 0xBF, [])
  else if b = 0xED then (.within 2 0xD 0x80 0x9F, [])
  else if b < 0xF0 then (.within 2 (b - 0xE0) 0x80 0xBF, [])
  else if b = 0xF0 then (.within 3 0 0x90 0xBF, [])
  else if b < 0xF4 then (.within 3 (b - 0xF0) 0x80 0xBF, [])
  else if b = 0xF4 then (.within 3 4 0x80 0x8F, [])
  else (.ready, [replacement])

/-- Takes one byte. A byte that cannot continue the character under way starts a new one. -/
def step (s : State) (b : Nat) : State × List Char :=
  match s with
  | .ready => start b
  | .within needed bits low high =>
    if low ≤ b ∧ b ≤ high then
      let bits := bits * 64 + (b - 0x80)
      if needed ≤ 1 then (.ready, [Char.ofNat bits]) else (.within (needed - 1) bits 0x80 0xBF, [])
    else
      let next := start b
      (next.1, replacement :: next.2)

/-- What an unfinished character becomes at the end of the input. -/
def flush : State → List Char
  | .ready => []
  | .within .. => [replacement]

/-- The bytes of a character. -/
def encode (c : Char) : List Nat :=
  let n := c.toNat
  if n < 0x80 then [n]
  else if n < 0x800 then [0xC0 + n / 64, 0x80 + n % 64]
  else if n < 0x10000 then [0xE0 + n / 4096, 0x80 + n / 64 % 64, 0x80 + n % 64]
  else [0xF0 + n / 262144, 0x80 + n / 4096 % 64, 0x80 + n / 64 % 64, 0x80 + n % 64]

/-- The bytes of a text. -/
def bytes (s : String) : List UInt8 := (s.toList.flatMap encode).map UInt8.ofNat

end Utf8
end StyleScan
