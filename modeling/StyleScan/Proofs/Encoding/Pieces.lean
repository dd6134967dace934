import StyleScan.Encoding.Decoder

/-!
# StyleScan.Proofs.Encoding.Pieces

Decoding does not depend on how the input is cut.

* `inPieces`              — the text of an input that comes in pieces.
* `Codecs.Piecewise`      — the pieces give the text of the whole, for every named encoding.
* `Bytewise.inPieces_eq`  — a decoder that takes one byte at a time does not see the cuts.
* `Decoder.inPieces_ofEncoding` — if the named encodings are decoded so, every encoding is.
-/

namespace StyleScan

/-- The text of an input that comes in pieces: each is decoded as one that is not the last, and then
the input is ended. -/
def inPieces {σ : Type} (decode : σ → List UInt8 → Bool → σ × List Char) (s : σ) :
    List (List UInt8) → List Char
  | [] => (decode s [] true).2
  | piece :: pieces => (decode s piece false).2 ++ inPieces decode (decode s piece false).1 pieces

/-- A decoder whose states are those of another one, seen through `f`, gives the same text. -/
theorem inPieces_map {σ τ : Type} {decode : σ → List UInt8 → Bool → σ × List Char}
    {decode' : τ → List UInt8 → Bool → τ × List Char} (f : σ → τ)
    (h : ∀ s bs last, decode' (f s) bs last = (decode s bs last).map f id) (s : σ)
    (pieces : List (List UInt8)) : inPieces decode' (f s) pieces = inPieces decode s pieces := by
  induction pieces generalizing s with
  | nil => simp [inPieces, h]
  | cons piece pieces ih => simp [inPieces, h, ih]

/-- Decoding in pieces gives the same text as decoding at once, for every named encoding. -/
def Codecs.Piecewise (codecs : Codecs) : Prop :=
  ∀ (charset : Charset) (pieces : List (List UInt8)),
    inPieces codecs.decode (codecs.start charset) pieces =
      (codecs.decode (codecs.start charset) pieces.flatten true).2

namespace Bytewise

variable {σ : Type} (m : Bytewise σ)

theorem decode_append (s : σ) (as bs : List UInt8) (last : Bool) :
    m.decode s (as ++ bs) last =
      ((m.decode (m.decode s as false).1 bs last).1,
        (m.decode s as false).2 ++ (m.decode (m.decode s as false).1 bs last).2) := by
  cases last with
  | false => simp [decode, run_append]
  | true => simp [decode, run_append, List.append_assoc]

theorem inPieces_eq (s : σ) (pieces : List (List UInt8)) :
    inPieces m.decode s pieces = (m.decode s pieces.flatten true).2 := by
  induction pieces generalizing s with
  | nil => rfl
  | cons piece pieces ih =>
    rw [inPieces, ih, List.flatten_cons, decode_append]

end Bytewise

theorem Codecs.builtIn_piecewise : Codecs.builtIn.Piecewise := by
  intro charset pieces
  exact CharsetDecoder.bytewise.inPieces_eq (.ofCharset charset) pieces

namespace Decoder

variable {codecs : Codecs}

/-- UTF-32 takes one byte at a time; every other encoding is a named one. -/
theorem inPieces_ofEncoding (h : codecs.Piecewise) (encoding : Encoding)
    (pieces : List (List UInt8)) :
    inPieces decode (ofEncoding encoding codecs) pieces =
      (ofEncoding encoding codecs).text pieces.flatten := by
  have hnamed (charset : Charset) :
      inPieces decode (named charset (codecs.start charset) : Decoder codecs) pieces =
        (named charset (codecs.start charset) : Decoder codecs).text pieces.flatten :=
    (inPieces_map (named charset) (fun _ _ _ => rfl) _ pieces).trans (h charset pieces)
  cases encoding with
  | utf8 => exact hnamed .utf8
  | utf7 => exact hnamed .utf8
  | utf16 order => exact hnamed (.utf16 order)
  | fallback charset => exact hnamed charset
  | utf32 order =>
    have hstep (group : List Nat) (bs : List UInt8) (last : Bool) :
        (utf32 order group : Decoder codecs).decode bs last =
          ((Utf32.bytewise order).decode group bs last).map (utf32 order) id := rfl
    exact (inPieces_map (utf32 order) hstep [] pieces).trans (Bytewise.inPieces_eq _ [] pieces)

end Decoder
end StyleScan
