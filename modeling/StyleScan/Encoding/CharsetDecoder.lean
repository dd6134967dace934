import StyleScan.Encoding
import StyleScan.Encoding.Bytewise

/-!
# StyleScan.Encoding.CharsetDecoder

The decoders of the named encodings.

* `CharsetDecoder`           — a named encoding together with what is unfinished so far.
* `CharsetDecoder.step`      — takes one byte and gives the characters that it completes.
* `CharsetDecoder.flush`     — what is unfinished at the end.
* `CharsetDecoder.bytewise`  — the two as one decoder, and `CharsetDecoder.text` the text that it
  gives for a whole input.
-/

namespace StyleScan

/-- A decoder of a named encoding on its way through its input. -/
inductive CharsetDecoder where
  | utf8 (state : Utf8.State)
  | utf16 (order : ByteOrder) (state : Utf16.State)
  | page (page : CodePage)
  | multiByte (encoding : MultiByte)
  | userDefined
  /-- `refused` once the input has been refused. -/
  | replacement (refused : Bool)
deriving DecidableEq, Repr, Inhabited

namespace CharsetDecoder

/-- The decoder of a named encoding, at the start of its input. -/
def ofCharset : Charset → CharsetDecoder
  | .utf8 => utf8 .ready
  | .utf16 order => utf16 order {}
  | .page p => page p
  | .multiByte m => multiByte m
  | .userDefined => userDefined
  | .replacement => replacement false

/-- The character of a byte of which only the ASCII part is known. -/
def ascii (b : UInt8) : Char := if b < 0x80 then Char.ofNat b.toNat else Utf8.replacement

/-- The character of a user-defined byte. -/
def userChar (b : UInt8) : Char :=
  if b < 0x80 then Char.ofNat b.toNat else Char.ofNat (0xF700 + b.toNat)

/-- Takes one byte and gives the characters that it completes. -/
def step (d : CharsetDecoder) (b : UInt8) : CharsetDecoder × List Char :=
  match d with
  | utf8 state => (Utf8.step state b.toNat).map utf8 id
  | utf16 order state => (Utf16.step order state b.toNat).map (utf16 order) id
  | page p => (page p, [p.decode b])
  | multiByte m => (multiByte m, [ascii b])
  | userDefined => (userDefined, [userChar b])
  | replacement refused => (replacement true, if refused then [] else [Utf8.replacement])

/-- Ends the input: what is unfinished becomes U+FFFD, and nothing stays unfinished. -/
def flush : CharsetDecoder → CharsetDecoder × List Char
  | utf8 state => (utf8 .ready, Utf8.flush state)
  | utf16 order state => (utf16 order {}, Utf16.flush state)
  | d => (d, [])

/-- The decoders of the named encodings by their steps. -/
def bytewise : Bytewise CharsetDecoder := { step, flush }

/-- The text of a whole input. -/
def text (d : CharsetDecoder) (bs : List UInt8) : List Char := (bytewise.decode d bs true).2

end CharsetDecoder
end StyleScan
