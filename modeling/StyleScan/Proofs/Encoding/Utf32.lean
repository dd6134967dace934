import StyleScan.Proofs.Encoding.Pieces
import StyleScan.Proofs.Encoding.RoundTrip

/-!
# StyleScan.Proofs.Encoding.Utf32

What the UTF-32 decoder makes of bytes that come in pieces. The bytes fall into groups of four,
wherever they are cut; between two pieces the decoder holds the bytes behind the last whole group.

* `Utf32.units`, `Utf32.leftover` — the characters of the whole groups, and the bytes behind them.
* `Utf32.run_eq`         — the decoder has given the one and holds the other.
* `Decoder.feed`         — a decoder that takes pieces of its input, none of them the last.
* `Decoder.utf32_pieces` — what it holds between pieces, and what it gives for all of them.
-/

namespace StyleScan
namespace Utf32

/-- The number that four bytes spell. -/
def value (order : ByteOrder) (a b c d : UInt8) : Nat :=
  match order with
  | .bigEndian => a.toNat * 2 ^ 24 + b.toNat * 2 ^ 16 + c.toNat * 2 ^ 8 + d.toNat
  | .littleEndian => a.toNat + b.toNat * 2 ^ 8 + c.toNat * 2 ^ 16 + d.toNat * 2 ^ 24

/-- The character of four bytes, or U+FFFD for a surrogate and for a number above U+10FFFF. -/
def unit (order : ByteOrder) (a b c d : UInt8) : Char :=
  let n := value order a b c d
  if (0xD800 ≤ n ∧ n ≤ 0xDFFF) ∨ 0x10FFFF < n then '\ufffd' else Char.ofNat n

/-- The characters of the whole groups, in their order. -/
def units (order : ByteOrder) : List UInt8 → List Char
  | a :: b :: c :: d :: rest => unit order a b c d :: units order rest
  | _ => []

/-- The bytes behind the last whole group. -/
def leftover (bs : List UInt8) : List UInt8 := bs.drop (4 * (bs.length / 4))

theorem length_leftover (bs : List UInt8) : (leftover bs).length = bs.length % 4 := by
  rw [leftover, List.length_drop]
  omega

theorem leftover_group (a b c d : UInt8) (rest : List UInt8) :
    leftover (a :: b :: c :: d :: rest) = leftover rest := by
  have hgroups : 4 * ((a :: b :: c :: d :: rest).length / 4) = 4 * (rest.length / 4) + 4 := by
    simp only [List.length_cons]
    omega
  rw [leftover, hgroups]
  rfl

/-! ## One group -/

theorem number_eq_value (order : ByteOrder) (a b c d : UInt8) :
    order.number [a.toNat, b.toNat, c.toNat, d.toNat] = value order a b c d := by
  cases order with
  | bigEndian =>
    show (((0 * 256 + a.toNat) * 256 + b.toNat) * 256 + c.toNat) * 256 + d.toNat = _
    rw [value]
    omega
  | littleEndian =>
    show (((0 * 256 + d.toNat) * 256 + c.toNat) * 256 + b.toNat) * 256 + a.toNat = _
    rw [value]
    omega

theorem scalar_value (order : ByteOrder) (a b c d : UInt8) :
    scalar (value order a b c d) = unit order a b c d := by
  simp only [scalar, unit]
  generalize value order a b c d = n
  by_cases hvalid : n.isValidChar
  · rw [if_pos hvalid, if_neg]
    simp only [Nat.isValidChar] at hvalid
    omega
  · rw [if_neg hvalid, if_pos]
    · rfl
    · simp only [Nat.isValidChar] at hvalid
      omega

theorem run_group (order : ByteOrder) (a b c d : UInt8) :
    (bytewise order).run [] [a, b, c, d] = ([], [unit order a b c d]) := by
  rw [← scalar_value, ← number_eq_value]
  rfl

/-! ## All groups -/

theorem run_eq (order : ByteOrder) (bs : List UInt8) :
    (bytewise order).run [] bs = ((leftover bs).map UInt8.toNat, units order bs) := by
  fun_induction units order bs with
  | case1 a b c d rest ih =>
    have hcut : a :: b :: c :: d :: rest = [a, b, c, d] ++ rest := rfl
    rw [leftover_group, hcut, Bytewise.run_append, run_group, ih]
    rfl
  | case2 bs hshort =>
    match bs with
    | [] => rfl
    | [a] => simp [Bytewise.run, bytewise, step, leftover]
    | [a, b] => simp [Bytewise.run, bytewise, step, leftover]
    | [a, b, c] => simp [Bytewise.run, bytewise, step, leftover]
    | a :: b :: c :: d :: rest => exact absurd rfl (hshort a b c d rest)

/-- At the end one U+FFFD stands for the bytes that are left, if there are any. -/
theorem decode_last (order : ByteOrder) (bs : List UInt8) :
    (bytewise order).decode [] bs true =
      ([], units order bs ++ if bs.length % 4 = 0 then [] else ['\ufffd']) := by
  have hwhole : leftover bs = [] ↔ bs.length % 4 = 0 := by
    rw [← length_leftover, List.length_eq_zero_iff]
  rw [Bytewise.decode, run_eq]
  simp only [bytewise, flush, if_true, List.isEmpty_iff, List.map_eq_nil_iff, hwhole]
  rfl

end Utf32

namespace Decoder

open Utf32 (units leftover)

variable {codecs : Codecs}

/-- The decoder behind some pieces of its input, none of them the last, and the text that they have
given. -/
def feed (d : Decoder codecs) : List (List UInt8) → Decoder codecs × List Char
  | [] => (d, [])
  | piece :: pieces =>
    let one := d.decode piece false
    let others := one.1.feed pieces
    (others.1, one.2 ++ others.2)

theorem feed_utf32 (order : ByteOrder) (group : List Nat) (pieces : List (List UInt8)) :
    (utf32 order group : Decoder codecs).feed pieces =
      ((Utf32.bytewise order).run group pieces.flatten).map (utf32 order) id := by
  induction pieces generalizing group with
  | nil => rfl
  | cons piece pieces ih =>
    have hone : (utf32 order group : Decoder codecs).decode piece false =
        ((Utf32.bytewise order).run group piece).map (utf32 order) id := rfl
    simp [feed, hone, ih, Bytewise.run_append]

theorem decode_feed_utf32 (order : ByteOrder) (group : List Nat) (pieces : List (List UInt8))
    (last : List UInt8) :
    let fed := (utf32 order group : Decoder codecs).feed pieces
    let ended := fed.1.decode last true
    (ended.1, fed.2 ++ ended.2) = (utf32 order group).decode (pieces.flatten ++ last) true := by
  intro fed ended
  have hfed : fed = ((Utf32.bytewise order).run group pieces.flatten).map (utf32 order) id :=
    feed_utf32 order group pieces
  have hwhole := (Utf32.bytewise order).decode_append group pieces.flatten last true
  simp only [ended, hfed, decode, hwhole]
  rfl

/-- **UTF-32 is decoded by groups of four bytes, wherever it is cut.** Behind any pieces the decoder
holds the bytes of the unfinished group, three at most. With the last piece, which may be empty, it
has given a character for each whole group, and one U+FFFD if bytes are left; then it is as at the
start. What a text was encoded to gives that text. -/
theorem utf32_pieces (order : ByteOrder) (pieces : List (List UInt8)) (last : List UInt8) :
    let start : Decoder codecs := ofEncoding (.utf32 order) codecs
    let fed := start.feed pieces
    let ended := fed.1.decode last true
    let bs := pieces.flatten ++ last
    fed.1 = utf32 order ((leftover pieces.flatten).map UInt8.toNat) ∧
      (leftover pieces.flatten).length ≤ 3 ∧
      fed.2 ++ ended.2 = units order bs ++ (if bs.length % 4 = 0 then [] else ['\ufffd']) ∧
      ended.1 = start ∧
      ∀ text, bs = (UnicodeForm.utf32 order).bytes text → fed.2 ++ ended.2 = text := by
  intro start fed ended bs
  have hfed : fed = ((Utf32.bytewise order).run [] pieces.flatten).map (utf32 order) id :=
    feed_utf32 order [] pieces
  have hended : (ended.1, fed.2 ++ ended.2) = start.decode bs true :=
    decode_feed_utf32 order [] pieces last
  have hwhole : start.decode bs true =
      (start, units order bs ++ if bs.length % 4 = 0 then [] else ['\ufffd']) := by
    show ((Utf32.bytewise order).decode [] bs true).map (utf32 order) id = _
    rw [Utf32.decode_last]
    rfl
  have hlength := Utf32.length_leftover pieces.flatten
  refine ⟨?_, by omega, ?_, ?_, ?_⟩
  · rw [hfed, Utf32.run_eq]
    rfl
  · exact congrArg Prod.snd (hended.trans hwhole)
  · exact congrArg Prod.fst (hended.trans hwhole)
  · intro text htext
    have hback := (Utf32.bytewise order).decode_flatMap (Utf32.run_encode order) rfl text
    calc fed.2 ++ ended.2 = (start.decode bs true).2 := congrArg Prod.snd hended
      _ = ((Utf32.bytewise order).decode [] ((UnicodeForm.utf32 order).bytes text) true).2 := by
        rw [htext]
        rfl
      _ = text := hback

/-- Every character is cut, one of them by an empty piece. -/
theorem utf32_pieces_cut :
    let text := ['x', '→', '𝄞']
    let pieces : List (List UInt8) :=
      [[0x78, 0x00], [], [0x00, 0x00, 0x92], [0x21, 0x00, 0x00, 0x1E]]
    let last : List UInt8 := [0xD1, 0x01, 0x00]
    let fed := (ofEncoding (.utf32 .littleEndian) : Decoder).feed pieces
    pieces.flatten ++ last = (UnicodeForm.utf32 .littleEndian).bytes text ∧
      fed.2 = ['x', '→'] ∧ fed.2 ++ (fed.1.decode last true).2 = text := by
  intro text pieces last fed
  have hbytes : pieces.flatten ++ last = (UnicodeForm.utf32 .littleEndian).bytes text := by
    decide +kernel
  refine ⟨hbytes, by decide +kernel, ?_⟩
  exact (utf32_pieces .littleEndian pieces last).2.2.2.2 text hbytes

/-- A surrogate, a number that is too large, and a group that is cut off. -/
example :
    (ofEncoding (.utf32 .bigEndian) : Decoder).text
        [0x00, 0x00, 0xD8, 0x00, 0x00, 0x11, 0x00, 0x00, 0x00, 0x00, 0x00, 0x41, 0x00] =
      ['\ufffd', '\ufffd', 'A', '\ufffd'] := by
  decide +kernel

end Decoder
end StyleScan
