import StyleScan.Encoding.CharsetDecoder

/-!
# StyleScan.Encoding.Decoder

Decoders that take their input in pieces.

* `Codecs`              — decoders for the named encodings, whoever provides them.
* `Codecs.builtIn`      — the decoders of `CharsetDecoder`.
* `Decoder`             — a decoder of a file on its way: UTF-32, or a named encoding.
* `Decoder.ofEncoding`  — the decoder of an encoding, at the start of its input.
* `Decoder.decode`      — takes a piece of the input, and ends it if it is the last one.
-/

namespace StyleScan

/-- Decoders for the named encodings. `decode` takes the next piece of an input, ended if it is the
last one, and gives the characters that it completes. -/
structure Codecs where
  State : Type
  start : Charset → State
  decode : State → List UInt8 → Bool → State × List Char

/-- The decoders of `CharsetDecoder`. Of the legacy encodings of several bytes per character they
know the ASCII part only. -/
def Codecs.builtIn : Codecs where
  State := CharsetDecoder
  start := CharsetDecoder.ofCharset
  decode := CharsetDecoder.bytewise.decode

/-- UTF-32 by its steps. -/
def Utf32.bytewise (order : ByteOrder) : Bytewise (List Nat) where
  step group b := Utf32.step order group b.toNat
  flush group := ([], Utf32.flush group)

/-- A decoder on its way through its input. Named encodings are left to `codecs`. -/
inductive Decoder (codecs : Codecs := Codecs.builtIn) where
  | named (charset : Charset) (state : codecs.State)
  /-- `group` holds the bytes of the unfinished group. -/
  | utf32 (order : ByteOrder) (group : List Nat)

namespace Decoder

/-- The decoder of an encoding, at the start of its input. -/
def ofEncoding (encoding : Encoding) (codecs : Codecs := Codecs.builtIn) : Decoder codecs :=
  let ofCharset (charset : Charset) : Decoder codecs := .named charset (codecs.start charset)
  match encoding with
  | .utf8 => ofCharset .utf8
  | .utf7 => ofCharset .utf8
  | .utf16 order => ofCharset (.utf16 order)
  | .utf32 order => .utf32 order []
  | .fallback charset => ofCharset charset

variable {codecs : Codecs}

/-- The name of the encoding that is decoded. -/
def name : Decoder codecs → String
  | named charset _ => charset.name
  | utf32 order _ => (Encoding.utf32 order).name

/-- Takes a piece of the input; the last piece is ended. -/
def decode (d : Decoder codecs) (bs : List UInt8) (last : Bool) : Decoder codecs × List Char :=
  match d with
  | named charset state => (codecs.decode state bs last).map (named charset) id
  | utf32 order group => ((Utf32.bytewise order).decode group bs last).map (utf32 order) id

/-- The text of a whole input. -/
def text (d : Decoder codecs) (bs : List UInt8) : List Char := (d.decode bs true).2

end Decoder
end StyleScan
