/-!
# StyleScan.Encoding.ByteOrder

The order of the bytes of a number.

* `ByteOrder.number` — the number that two or four bytes spell.
* `ByteOrder.bytes`  — the bytes of a number.
-/

namespace StyleScan

/-- Which byte of a number comes first. -/
inductive ByteOrder where
  | littleEndian
  | bigEndian
deriving DecidableEq, Repr, Inhabited

namespace ByteOrder

/-- The number whose bytes are given from the highest to the lowest. -/
def ofBigEndian (bs : List Nat) : Nat := bs.foldl (fun n b => n * 256 + b) 0

/-- The number that bytes spell in an order. -/
def number (order : ByteOrder) (bs : List Nat) : Nat :=
  match order with
  | .bigEndian => ofBigEndian bs
  | .littleEndian => ofBigEndian bs.reverse

/-- The lowest `count` bytes of a number, from the highest to the lowest. -/
def toBigEndian : Nat → Nat → List Nat
  | 0, _ => []
  | count + 1, n => toBigEndian count (n / 256) ++ [n % 256]

/-- The lowest `count` bytes of a number in an order. -/
def bytes (order : ByteOrder) (count n : Nat) : List Nat :=
  match order with
  | .bigEndian => toBigEndian count n
  | .littleEndian => (toBigEndian count n).reverse

end ByteOrder
end StyleScan
