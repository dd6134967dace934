import StyleScan.Proofs.Encoding.RoundTrip
import StyleScan.Proofs.Stream.Schedule

/-!
# StyleScan.Proofs.Stream.Transparency

A scan does not see in which encoding a text is written.

* `Encoding.detect_mark`    — the mark of an encoding tells it, whatever text is behind the mark.
* `Encoding.detect_ascii`   — an ASCII text has a mark only if it starts with `+/v`.
* `Rule.scanSource_encoded` — the scan of an encoded text is the scan of the text.
-/

namespace StyleScan

/-! ## UTF-16 texts that start like the rest of a UTF-32 mark -/

theorem ByteOrder.zero_of_bytes {order : ByteOrder} {n : Nat} {rest : List UInt8} (hn : n < 0x10000)
    (h : [0, 0] <+: (order.bytes 2 n).map UInt8.ofNat ++ rest) : n = 0 := by
  have hlength := order.length_bytes 2 n
  have hnumber := order.number_bytes 2 n
  have hbyte (b : Nat) (h : b ∈ order.bytes 2 n) : b < 256 := lt_of_mem_bytes h
  generalize order.bytes 2 n = bs at hlength hnumber hbyte h
  match bs, hlength with
  | [a, b], _ =>
    obtain ⟨rest', h⟩ := h
    simp only [List.map_cons, List.map_nil, List.cons_append, List.nil_append, List.cons.injEq] at h
    have hzero {x : Nat} (hx : x < 256) (hzero : 0 = UInt8.ofNat x) : x = 0 := by
      have hnat := congrArg UInt8.toNat hzero
      rw [UInt8.toNat_ofNat_of_lt' hx] at hnat
      exact hnat.symm
    obtain rfl : a = 0 := hzero (hbyte a (by simp)) h.1
    obtain rfl : b = 0 := hzero (hbyte b (by simp)) h.2.1
    rw [Nat.mod_eq_of_lt (show n < 256 ^ 2 from hn)] at hnumber
    cases order with
    | bigEndian => exact hnumber.symm
    | littleEndian => exact hnumber.symm

/-- Only U+0000 is written as two bytes 0. -/
theorem UnicodeForm.zeros_utf16 (order : ByteOrder) (text : List Char) :
    [0, 0] <+: (utf16 order).bytes text ↔ text.head? = some '\x00' := by
  cases text with
  | nil => simp [bytes]
  | cons c cs =>
    have hvalid := toNat_valid c
    simp only [bytes, List.flatMap_cons, encode, List.head?_cons, Option.some.injEq, Utf16.encode]
    constructor
    · intro h
      by_cases hplane : c.toNat < 0x10000
      · rw [if_pos hplane] at h
        have hzero := ByteOrder.zero_of_bytes hplane h
        rw [← Char.ofNat_toNat c, hzero]
      · rw [if_neg hplane, List.map_append, List.append_assoc] at h
        have hzero := ByteOrder.zero_of_bytes (by omega) h
        omega
    · rintro rfl
      cases order with
      | bigEndian => exact List.prefix_append [0, 0] _
      | littleEndian => exact List.prefix_append [0, 0] _

/-! ## Detection -/

namespace Encoding

/-- A mark tells its encoding; that of UTF-16LE is also the start of the one of UTF-32LE. -/
theorem detect_mark (standard : Charset) (form : UnicodeForm) (rest : List UInt8)
    (h : form = .utf16 .littleEndian → ¬ [0, 0] <+: rest) :
    detect standard (form.mark ++ rest) = (form.encoding, form.mark.length) := by
  cases form with
  | utf8 => rfl
  | utf16 order =>
    cases order with
    | bigEndian => rfl
    | littleEndian =>
      have hzeros : ([0, 0] : List UInt8).isPrefixOf rest = false := by
        rw [Bool.eq_false_iff, ne_eq, List.isPrefixOf_iff_prefix]
        exact h rfl
      show detect standard (0xFF :: 0xFE :: rest) = (utf16 .littleEndian, 2)
      simp [detect, marks, List.find?, List.isPrefixOf, hzeros]
  | utf32 order =>
    cases order with
    | bigEndian => rfl
    | littleEndian => rfl

theorem detect_mark_zeros (standard : Charset) {rest : List UInt8} (h : [0, 0] <+: rest) :
    (detect standard ((UnicodeForm.utf16 .littleEndian).mark ++ rest)).1 = utf32 .littleEndian := by
  obtain ⟨rest', rfl⟩ := h
  rfl

theorem map_asciiBytes {text : List Char} (h : ∀ c ∈ text, c.toNat < 0x80) :
    (asciiBytes text).map (fun b => Char.ofNat b.toNat) = text := by
  rw [asciiBytes, List.map_map]
  refine (List.map_congr_left fun c hc => ?_).trans (List.map_id text)
  rw [Function.comp_apply, toNat_asciiByte (h c hc), Char.ofNat_toNat, id]

theorem lt_of_mem_asciiBytes {text : List Char} (h : ∀ c ∈ text, c.toNat < 0x80) {b : UInt8}
    (hb : b ∈ asciiBytes text) : b < 0x80 := by
  obtain ⟨c, hc, rfl⟩ := List.mem_map.mp hb
  rw [UInt8.lt_iff_toNat_lt, toNat_asciiByte (h c hc)]
  exact h c hc

theorem eq_of_ascii_mark {mark : List UInt8 × Encoding} (h : mark ∈ marks)
    (hascii : ∀ b ∈ mark.1, b < 0x80) : mark.1 = asciiBytes ['+', '/', 'v'] := by
  revert mark
  decide +kernel

/-- Every mark but that of UTF-7 has a byte that is not ASCII. -/
theorem detect_ascii (standard : Charset) {text : List Char} (h : ∀ c ∈ text, c.toNat < 0x80)
    (hstart : ¬ ['+', '/', 'v'] <+: text) :
    detect standard (asciiBytes text) = (fallback standard, 0) := by
  have hnone : marks.find? (fun mark => mark.1.isPrefixOf (asciiBytes text)) = none := by
    rw [List.find?_eq_none]
    intro mark hmark hp
    rw [List.isPrefixOf_iff_prefix] at hp
    have hmark' := eq_of_ascii_mark hmark fun b hb => lt_of_mem_asciiBytes h (hp.subset hb)
    rw [hmark'] at hp
    have hchars := hp.map fun b => Char.ofNat b.toNat
    rw [map_asciiBytes h, map_asciiBytes (by simp)] at hchars
    exact hstart hchars
  rw [detect, hnone]

end Encoding

/-- **A scan does not see how a text is encoded.** If the decoders of the named encodings do not see
how their input is cut and give back what was encoded, then a source that gives a byte-order mark
and a text in its encoding has the violations of the text, U+FEFF and all, however the bytes arrive;
only a text in UTF-16LE that starts with U+0000 is taken for UTF-32LE. So has a source that gives an
ASCII text without a mark in the standard encoding, unless the text starts like UTF-7. -/
theorem Rule.scanSource_encoded {codecs : Codecs} (hpieces : codecs.Piecewise)
    (hinverse : codecs.Inverse) (rules : List Rule) (standard : Charset) (text : List Char) :
    (∀ form : UnicodeForm, (form = .utf16 .littleEndian → text.head? ≠ some '\x00') →
      let bs := form.mark ++ form.bytes text
      let found := Encoding.detect standard bs
      found.1 = form.encoding ∧
      (Decoder.ofEncoding found.1 codecs).text (bs.drop found.2) = text ∧
      ∀ source : Source, source.Delivers bs →
        Rule.scanSource rules standard source codecs = .ok (Rule.scanText rules text)) ∧
    (text.head? = some '\x00' →
      let form := UnicodeForm.utf16 .littleEndian
      (Encoding.detect standard (form.mark ++ form.bytes text)).1 = .utf32 .littleEndian) ∧
    ((∀ c ∈ text, c.toNat < 0x80) → ¬ ['+', '/', 'v'] <+: text →
      ∀ source : Source, source.Delivers (asciiBytes text) →
        Rule.scanSource rules .standard source codecs = .ok (Rule.scanText rules text)) := by
  refine ⟨?_, ?_, ?_⟩
  · intro form hzero bs found
    have hfound : found = (form.encoding, form.mark.length) := by
      refine Encoding.detect_mark standard form _ ?_
      rintro rfl hzeros
      exact hzero rfl ((UnicodeForm.zeros_utf16 _ text).mp hzeros)
    have htext : (Decoder.ofEncoding found.1 codecs).text (bs.drop found.2) = text := by
      rw [hfound, List.drop_left, Decoder.text_bytes hinverse]
    refine ⟨by rw [hfound], htext, ?_⟩
    intro source hsource
    exact htext ▸ Rule.scanSource_of_delivers hpieces rules standard hsource
  · intro hzero form
    exact Encoding.detect_mark_zeros standard ((UnicodeForm.zeros_utf16 _ text).mpr hzero)
  · intro hascii hstart source hsource
    have htext : (Decoder.ofEncoding (.fallback .standard) codecs).text (asciiBytes text) = text :=
      hinverse.ascii text hascii
    rw [Rule.scanSource_of_delivers hpieces rules .standard hsource,
      Encoding.detect_ascii .standard hascii hstart, List.drop_zero, htext]

/-- A text that starts with U+FEFF, in UTF-16LE and with every character cut, and an ASCII text that
is shorter than any mark. -/
theorem Rule.scanSource_encoded_cut :
    let marked : Source := [.bytes [0xFF], .interrupted, .bytes [0xFE, 0xFF], .bytes [0xFE, 0x3D],
      .bytes [0xD8, 0x00], .bytes [0xDE]]
    let bare : Source := [.bytes [0x2B]]
    Codecs.builtIn.Piecewise ∧ Codecs.builtIn.Inverse ∧
      Rule.scanSource Rule.defaults .standard marked =
        .ok (Rule.scanText Rule.defaults ['\ufeff', '😀']) ∧
      Rule.scanSource Rule.defaults .standard bare = .ok (Rule.scanText Rule.defaults ['+']) := by
  intro marked bare
  have hmarked : marked.Delivers ((UnicodeForm.utf16 .littleEndian).mark ++
      (UnicodeForm.utf16 .littleEndian).bytes ['\ufeff', '😀']) :=
    .bytes (by decide) (.interrupted (.bytes (by decide) (.bytes (by decide)
      (.bytes (by decide) (.bytes (by decide) (.ended (by intro r hr; cases hr)))))))
  have hbare : bare.Delivers (asciiBytes ['+']) :=
    .bytes (by decide) (.ended (by intro r hr; cases hr))
  have hencoded := Rule.scanSource_encoded Codecs.builtIn_piecewise Codecs.builtIn_inverse
    Rule.defaults .standard
  refine ⟨Codecs.builtIn_piecewise, Codecs.builtIn_inverse, ?_, ?_⟩
  · exact ((hencoded ['\ufeff', '😀']).1 (.utf16 .littleEndian) (by decide)).2.2 marked hmarked
  · exact (hencoded ['+']).2.2 (by simp) (by decide) bare hbare

end StyleScan
