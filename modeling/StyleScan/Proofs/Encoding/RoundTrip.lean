import Mathlib.Algebra.Group.Nat.Defs
import StyleScan.Encoding.Decoder

/-!
# StyleScan.Proofs.Encoding.RoundTrip

Every decoder gives back the text that its encoder wrote.

* `UnicodeForm`          — the encodings that can hold every text, with `UnicodeForm.bytes`.
* `asciiBytes`           — the bytes of an ASCII text.
* `Codecs.Inverse`       — decoders for the named encodings that give back what was encoded.
* `Bytewise.run_flatMap` — decoding one character at a time decodes a whole text.
* `Codecs.builtIn_inverse`, `Decoder.text_bytes` — all the decoders give back what was encoded.
-/

namespace StyleScan

namespace Bytewise

variable {σ : Type} (m : Bytewise σ) {s : σ} {encode : Char → List UInt8}

/-- A decoder that takes each encoded character and is ready again takes a whole text. -/
theorem run_flatMap (h : ∀ c, m.run s (encode c) = (s, [c])) (text : List Char) :
    m.run s (text.flatMap encode) = (s, text) := by
  induction text with
  | nil => rfl
  | cons c cs ih => rw [List.flatMap_cons, run_append, h, ih, List.singleton_append]

theorem decode_flatMap (h : ∀ c, m.run s (encode c) = (s, [c])) (hend : (m.flush s).2 = [])
    (text : List Char) : (m.decode s (text.flatMap encode) true).2 = text := by
  simp [decode, run_flatMap m h, hend]

end Bytewise

/-! ## Numbers and their bytes -/

namespace ByteOrder

theorem ofBigEndian_toBigEndian (count n : Nat) :
    ofBigEndian (toBigEndian count n) = n % 256 ^ count := by
  induction count generalizing n with
  | zero => rw [Nat.pow_zero, Nat.mod_one]; rfl
  | succ count ih =>
    have happend (bs : List Nat) (b : Nat) :
        ofBigEndian (bs ++ [b]) = ofBigEndian bs * 256 + b := by simp [ofBigEndian]
    rw [toBigEndian, happend, ih, Nat.pow_succ', Nat.mod_mul, Nat.mul_comm, Nat.add_comm]

theorem number_bytes (order : ByteOrder) (count n : Nat) :
    order.number (order.bytes count n) = n % 256 ^ count := by
  cases order with
  | bigEndian => exact ofBigEndian_toBigEndian count n
  | littleEndian => rw [bytes, number, List.reverse_reverse, ofBigEndian_toBigEndian]

theorem length_bytes (order : ByteOrder) (count n : Nat) :
    (order.bytes count n).length = count := by
  have hbig : (toBigEndian count n).length = count := by
    induction count generalizing n with
    | zero => rfl
    | succ count ih => simp [toBigEndian, ih]
  cases order with
  | bigEndian => exact hbig
  | littleEndian => rw [bytes, List.length_reverse, hbig]

theorem lt_of_mem_bytes {order : ByteOrder} {count n b : Nat} (h : b ∈ order.bytes count n) :
    b < 256 := by
  have hbig : b ∈ toBigEndian count n := by
    cases order with
    | bigEndian => exact h
    | littleEndian => exact List.mem_reverse.mp h
  clear h
  induction count generalizing n with
  | zero => cases hbig
  | succ count ih =>
    rcases List.mem_append.mp hbig with h | h
    · exact ih h
    · rw [List.mem_singleton.mp h]
      exact Nat.mod_lt _ (by decide)

end ByteOrder

theorem toNat_valid (c : Char) : c.toNat < 0xD800 ∨ 0xDFFF < c.toNat ∧ c.toNat < 0x110000 := c.valid

/-! ## UTF-8 -/

namespace Utf8

theorem start_two {n : Nat} (h1 : 0x80 ≤ n) (h2 : n < 0x800) :
    start (0xC0 + n / 64) = (.within 1 (n / 64) 0x80 0xBF, []) := by
  rw [start, if_neg (by omega), if_neg (by omega), if_pos (by omega), Nat.add_sub_cancel_left]

/-- The range for the second byte of three shuts out what two bytes can hold, and surrogates. -/
theorem start_three {n : Nat} (h1 : 0x800 ≤ n) (h2 : n < 0x10000)
    (hvalid : n < 0xD800 ∨ 0xDFFF < n) :
    ∃ low high, start (0xE0 + n / 4096) = (.within 2 (n / 4096) low high, []) ∧
      low ≤ 0x80 + n / 64 % 64 ∧ 0x80 + n / 64 % 64 ≤ high := by
  rw [start, if_neg (by omega), if_neg (by omega), if_neg (by omega)]
  by_cases he0 : 0xE0 + n / 4096 = 0xE0
  · have hbits : n / 4096 = 0 := by omega
    rw [if_pos he0, hbits]
    exact ⟨0xA0, 0xBF, rfl, by omega, by omega⟩
  · rw [if_neg he0]
    by_cases hed : 0xE0 + n / 4096 = 0xED
    · have hbits : n / 4096 = 0xD := by omega
      rw [if_pos hed, hbits]
      exact ⟨0x80, 0x9F, rfl, by omega, by omega⟩
    · rw [if_neg hed, if_pos (by omega), Nat.add_sub_cancel_left]
      exact ⟨0x80, 0xBF, rfl, by omega, by omega⟩

/-- The range for the second byte of four shuts out what three bytes can hold, and numbers that are
too large. -/
theorem start_four {n : Nat} (h1 : 0x10000 ≤ n) (h2 : n < 0x110000) :
    ∃ low high, start (0xF0 + n / 262144) = (.within 3 (n / 262144) low high, []) ∧
      low ≤ 0x80 + n / 4096 % 64 ∧ 0x80 + n / 4096 % 64 ≤ high := by
  rw [start, if_neg (by omega), if_neg (by omega), if_neg (by omega), if_neg (by omega),
    if_neg (by omega), if_neg (by omega)]
  by_cases hf0 : 0xF0 + n / 262144 = 0xF0
  · have hbits : n / 262144 = 0 := by omega
    rw [if_pos hf0, hbits]
    exact ⟨0x90, 0xBF, rfl, by omega, by omega⟩
  · rw [if_neg hf0]
    by_cases hlow : 0xF0 + n / 262144 < 0xF4
    · rw [if_pos hlow, Nat.add_sub_cancel_left]
      exact ⟨0x80, 0xBF, rfl, by omega, by omega⟩
    · have hbits : n / 262144 = 4 := by omega
      rw [if_neg hlow, if_pos (by omega), hbits]
      exact ⟨0x80, 0x8F, rfl, by omega, by omega⟩

theorem step_more {needed bits low high b : Nat} (hlow : low ≤ b) (hhigh : b ≤ high)
    (hneeded : 1 < needed) :
    step (.within needed bits low high) b =
      (.within (needed - 1) (bits * 64 + (b - 0x80)) 0x80 0xBF, []) := by
  simp [step, hlow, hhigh, show ¬ needed ≤ 1 by omega]

theorem step_last {bits low high b : Nat} (hlow : low ≤ b) (hhigh : b ≤ high) :
    step (.within 1 bits low high) b = (.ready, [Char.ofNat (bits * 64 + (b - 0x80))]) := by
  simp [step, hlow, hhigh]

end Utf8

/-- Bytes given as numbers. -/
theorem CharsetDecoder.run_utf8_cons (state : Utf8.State) {b : Nat} (hb : b < 256) (bs : List Nat) :
    bytewise.run (utf8 state) ((b :: bs).map UInt8.ofNat) =
      let next := bytewise.run (utf8 (Utf8.step state b).1) (bs.map UInt8.ofNat)
      (next.1, (Utf8.step state b).2 ++ next.2) := by
  simp only [List.map_cons, Bytewise.run, bytewise, CharsetDecoder.step, Prod.map, id]
  rw [UInt8.toNat_ofNat_of_lt' hb]

theorem CharsetDecoder.run_utf8 (c : Char) :
    bytewise.run (utf8 .ready) ((Utf8.encode c).map UInt8.ofNat) = (utf8 .ready, [c]) := by
  have hvalid := toNat_valid c
  rw [Utf8.encode]
  generalize hn : c.toNat = n at hvalid
  have hc : Char.ofNat n = c := by rw [← hn, Char.ofNat_toNat]
  by_cases h1 : n < 0x80
  · rw [if_pos h1, run_utf8_cons _ (by omega)]
    simp [Utf8.step, Utf8.start, h1, hc]
  rw [if_neg h1]
  by_cases h2 : n < 0x800
  · rw [if_pos h2, run_utf8_cons _ (by omega), run_utf8_cons _ (by omega), Utf8.step,
      Utf8.start_two (by omega) h2, Utf8.step_last (by omega) (by omega)]
    have hbits : n / 64 * 64 + (0x80 + n % 64 - 0x80) = n := by omega
    rw [hbits, hc]
    rfl
  rw [if_neg h2]
  by_cases h3 : n < 0x10000
  · obtain ⟨low, high, hstart, hlow, hhigh⟩ := Utf8.start_three (by omega) h3 (by omega)
    rw [if_pos h3, run_utf8_cons _ (by omega), run_utf8_cons _ (by omega),
      run_utf8_cons _ (by omega), Utf8.step, hstart, Utf8.step_more hlow hhigh (by decide),
      Utf8.step_last (by omega) (by omega)]
    have hbits : (n / 4096 * 64 + (0x80 + n / 64 % 64 - 0x80)) * 64 + (0x80 + n % 64 - 0x80) =
        n := by omega
    rw [hbits, hc]
    rfl
  · obtain ⟨low, high, hstart, hlow, hhigh⟩ := Utf8.start_four (n := n) (by omega) (by omega)
    rw [if_neg h3, run_utf8_cons _ (by omega), run_utf8_cons _ (by omega),
      run_utf8_cons _ (by omega), run_utf8_cons _ (by omega), Utf8.step, hstart,
      Utf8.step_more hlow hhigh (by decide), Utf8.step_more (by omega) (by omega) (by decide),
      Utf8.step_last (by omega) (by omega)]
    have hbits : ((n / 262144 * 64 + (0x80 + n / 4096 % 64 - 0x80)) * 64 +
        (0x80 + n / 64 % 64 - 0x80)) * 64 + (0x80 + n % 64 - 0x80) = n := by
      omega
    rw [hbits, hc]
    rfl

/-! ## UTF-16 -/

theorem CharsetDecoder.run_utf16_unit (order : ByteOrder) (surrogate : Option Nat) {unit : Nat}
    (hunit : unit < 0x10000) :
    bytewise.run (utf16 order { surrogate }) ((order.bytes 2 unit).map UInt8.ofNat) =
      (Utf16.stepUnit surrogate unit).map (utf16 order) id := by
  have hlength := order.length_bytes 2 unit
  have hnumber := order.number_bytes 2 unit
  have hbyte (b : Nat) (h : b ∈ order.bytes 2 unit) : (UInt8.ofNat b).toNat = b :=
    UInt8.toNat_ofNat_of_lt' (ByteOrder.lt_of_mem_bytes h)
  generalize order.bytes 2 unit = bs at hlength hnumber hbyte ⊢
  match bs, hlength with
  | [a, b], _ =>
    rw [Nat.mod_eq_of_lt (by exact hunit)] at hnumber
    simp only [List.map_cons, List.map_nil, Bytewise.run, bytewise, CharsetDecoder.step, Utf16.step,
      hbyte a (by simp), hbyte b (by simp), hnumber, Prod.map, id]
    simp

theorem CharsetDecoder.run_utf16_pair (order : ByteOrder) {high low : Nat}
    (hhigh : Utf16.isHigh high) (hlow : Utf16.isLow low) :
    bytewise.run (utf16 order {}) ((order.bytes 2 high ++ order.bytes 2 low).map UInt8.ofNat) =
      (utf16 order {}, [Utf16.join high low]) := by
  have h1 : high < 0x10000 := by simp [Utf16.isHigh] at hhigh; omega
  have h2 : low < 0x10000 := by simp [Utf16.isLow] at hlow; omega
  have hfirst : Utf16.stepUnit none high = ({ surrogate := some high }, []) := by
    rw [Utf16.stepUnit, Utf16.startUnit, if_pos hhigh]
  have hsecond : Utf16.stepUnit (some high) low = ({}, [Utf16.join high low]) := by
    rw [Utf16.stepUnit, if_pos hlow]
  rw [List.map_append, Bytewise.run_append, run_utf16_unit order none h1, hfirst, Prod.map,
    run_utf16_unit order (some high) h2, hsecond]
  rfl

theorem CharsetDecoder.run_utf16 (order : ByteOrder) (c : Char) :
    bytewise.run (utf16 order {}) ((Utf16.encode order c).map UInt8.ofNat) =
      (utf16 order {}, [c]) := by
  have hvalid := toNat_valid c
  rw [Utf16.encode]
  generalize hn : c.toNat = n at hvalid
  have hc : Char.ofNat n = c := by rw [← hn, Char.ofNat_toNat]
  by_cases hplane : n < 0x10000
  · have hhigh : Utf16.isHigh n = false := by simp [Utf16.isHigh]; omega
    have hlow : Utf16.isLow n = false := by simp [Utf16.isLow]; omega
    rw [if_pos hplane, run_utf16_unit order none hplane]
    simp [Utf16.stepUnit, Utf16.startUnit, hhigh, hlow, hc]
  · have hhigh : Utf16.isHigh (0xD800 + (n - 0x10000) / 1024) := by
      simp [Utf16.isHigh]; omega
    have hlow : Utf16.isLow (0xDC00 + (n - 0x10000) % 1024) := by
      simp [Utf16.isLow]; omega
    have hnumber : 0x10000 + (0xD800 + (n - 0x10000) / 1024 - 0xD800) * 1024 +
        (0xDC00 + (n - 0x10000) % 1024 - 0xDC00) = n := by omega
    rw [if_neg hplane, run_utf16_pair order hhigh hlow, Utf16.join, hnumber, hc]

/-! ## UTF-32 -/

theorem Utf32.run_encode (order : ByteOrder) (c : Char) :
    (Utf32.bytewise order).run [] ((Utf32.encode order c).map UInt8.ofNat) = ([], [c]) := by
  have hlength := order.length_bytes 4 c.toNat
  have hnumber := order.number_bytes 4 c.toNat
  have hbyte (b : Nat) (h : b ∈ order.bytes 4 c.toNat) : (UInt8.ofNat b).toNat = b :=
    UInt8.toNat_ofNat_of_lt' (ByteOrder.lt_of_mem_bytes h)
  have hvalid := toNat_valid c
  have hscalar : Utf32.scalar c.toNat = c := by
    have hvalid' : c.toNat.isValidChar := c.valid
    rw [Utf32.scalar, if_pos hvalid', Char.ofNat_toNat]
  rw [Utf32.encode]
  generalize order.bytes 4 c.toNat = bs at hlength hnumber hbyte ⊢
  match bs, hlength with
  | [b₁, b₂, b₃, b₄], _ =>
    rw [Nat.mod_eq_of_lt (by omega)] at hnumber
    simp only [List.map_cons, List.map_nil, Bytewise.run, Utf32.bytewise, Utf32.step,
      hbyte b₁ (by simp), hbyte b₂ (by simp), hbyte b₃ (by simp), hbyte b₄ (by simp)]
    simp [hnumber, hscalar]

/-! ## Whole texts -/

/-- An encoding that can hold every text. -/
inductive UnicodeForm where
  | utf8
  | utf16 (order : ByteOrder)
  | utf32 (order : ByteOrder)
deriving DecidableEq, Repr, Inhabited

namespace UnicodeForm

def encoding : UnicodeForm → Encoding
  | utf8 => .utf8
  | utf16 order => .utf16 order
  | utf32 order => .utf32 order

/-- The bytes of a character. -/
def encode (form : UnicodeForm) (c : Char) : List UInt8 :=
  match form with
  | utf8 => (Utf8.encode c).map UInt8.ofNat
  | utf16 order => (Utf16.encode order c).map UInt8.ofNat
  | utf32 order => (Utf32.encode order c).map UInt8.ofNat

/-- The bytes of a text, without a byte-order mark. -/
def bytes (form : UnicodeForm) (text : List Char) : List UInt8 := text.flatMap form.encode

/-- The byte-order mark is U+FEFF, encoded. -/
def mark (form : UnicodeForm) : List UInt8 := form.encode '\ufeff'

end UnicodeForm

/-- One byte for each character, its number. -/
def asciiBytes (text : List Char) : List UInt8 := text.map fun c => UInt8.ofNat c.toNat

theorem asciiBytes_cons (c : Char) (cs : List Char) :
    asciiBytes (c :: cs) = UInt8.ofNat c.toNat :: asciiBytes cs := rfl

/-- Decoders that give back every text in UTF-8 and UTF-16, and every ASCII text in the standard
encoding. -/
structure Codecs.Inverse (codecs : Codecs) : Prop where
  utf8 (text : List Char) :
    (codecs.decode (codecs.start .utf8) (UnicodeForm.utf8.bytes text) true).2 = text
  utf16 (order : ByteOrder) (text : List Char) :
    (codecs.decode (codecs.start (.utf16 order)) ((UnicodeForm.utf16 order).bytes text) true).2 =
      text
  ascii (text : List Char) (h : ∀ c ∈ text, c.toNat < 0x80) :
    (codecs.decode (codecs.start .standard) (asciiBytes text) true).2 = text

theorem toNat_asciiByte {c : Char} (h : c.toNat < 0x80) : (UInt8.ofNat c.toNat).toNat = c.toNat :=
  UInt8.toNat_ofNat_of_lt' (Nat.lt_trans h (by decide))

theorem CharsetDecoder.run_page (page : CodePage) {text : List Char}
    (h : ∀ c ∈ text, c.toNat < 0x80) :
    bytewise.run (.page page) (asciiBytes text) = (.page page, text) := by
  induction text with
  | nil => rfl
  | cons c cs ih =>
    have hc : c.toNat < 0x80 := h c List.mem_cons_self
    have hbyte : UInt8.ofNat c.toNat < 0x80 := by
      rw [UInt8.lt_iff_toNat_lt, toNat_asciiByte hc]
      exact hc
    have hstep : bytewise.step (.page page) (UInt8.ofNat c.toNat) = (.page page, [c]) := by
      simp only [bytewise, CharsetDecoder.step, CodePage.decode_of_lt hbyte, toNat_asciiByte hc,
        Char.ofNat_toNat]
    rw [asciiBytes_cons, Bytewise.run, hstep, ih fun x hx => h x (List.mem_cons_of_mem c hx)]
    rfl

theorem Codecs.builtIn_inverse : Codecs.builtIn.Inverse where
  utf8 text := CharsetDecoder.bytewise.decode_flatMap CharsetDecoder.run_utf8 rfl text
  utf16 order text :=
    CharsetDecoder.bytewise.decode_flatMap (CharsetDecoder.run_utf16 order) rfl text
  ascii text h := by
    have hrun := CharsetDecoder.run_page .windows1252 h
    show (CharsetDecoder.bytewise.decode (.page .windows1252) (asciiBytes text) true).2 = text
    rw [Bytewise.decode, hrun]
    exact List.append_nil text

theorem Decoder.text_bytes {codecs : Codecs} (h : codecs.Inverse) (form : UnicodeForm)
    (text : List Char) :
    (Decoder.ofEncoding form.encoding codecs).text (form.bytes text) = text := by
  cases form with
  | utf8 => exact h.utf8 text
  | utf16 order => exact h.utf16 order text
  | utf32 order => exact (Utf32.bytewise order).decode_flatMap (Utf32.run_encode order) rfl text

end StyleScan
