import Mathlib.Data.List.Find
import StyleScan.Proofs.Encoding.Pieces
import StyleScan.Stream

/-!
# StyleScan.Proofs.Stream.Schedule

What a scan of a source gives does not depend on how the bytes arrive.

* `Source.Delivers`  — the reads of a source give these bytes, cut and interrupted in any way.
* `Source.Fails`     — a read of a source fails before its bytes are at their end.
* `Encoding.detect_append` — the first bytes of a file tell its encoding, as all of them do.
* `Rule.scanSource_schedule` — the scan of a source is the scan of the decoded text of its bytes,
  or the failure of its reads.
-/

namespace StyleScan
namespace Source

/-- No bytes are left: every further read is interrupted or gives nothing. -/
def Ended (source : Source) : Prop := ∀ r ∈ source, r = .interrupted ∨ r = .bytes []

/-- The reads of a source give `bs`: bytes of any number at a time, interruptions in between, and
no empty read before the end. -/
inductive Delivers : Source → List UInt8 → Prop where
  | ended {source : Source} : source.Ended → Delivers source []
  | interrupted {rest : Source} {bs : List UInt8} :
      Delivers rest bs → Delivers (.interrupted :: rest) bs
  | bytes {rest : Source} {piece bs : List UInt8} :
      piece ≠ [] → Delivers rest bs → Delivers (.bytes piece :: rest) (piece ++ bs)

/-- A read of a source fails with `reason` before any read is empty. -/
inductive Fails : Source → String → Prop where
  | failed {rest : Source} {reason : String} : Fails (.failed reason :: rest) reason
  | interrupted {rest : Source} {reason : String} :
      Fails rest reason → Fails (.interrupted :: rest) reason
  | bytes {rest : Source} {piece : List UInt8} {reason : String} :
      piece ≠ [] → Fails rest reason → Fails (.bytes piece :: rest) reason

/-! ## One read -/

theorem chunkSize_pos : 0 < chunkSize := by decide

theorem limit_pos {taken : List UInt8} (h : taken.length < Encoding.markLength) :
    0 < chunkSize - taken.length := by
  simp only [Encoding.markLength, chunkSize] at h ⊢
  omega

theorem read_ended {source : Source} (limit : Nat) (h : source.Ended) :
    ∃ rest : Source, read limit source = .ok ([], rest) ∧ rest.Ended := by
  induction source with
  | nil => exact ⟨[], rfl, h⟩
  | cons r rs ih =>
    have hrs : Ended rs := fun x hx => h x (List.mem_cons_of_mem r hx)
    rcases h r List.mem_cons_self with rfl | rfl
    · exact ih hrs
    · exact ⟨rs, by simp [read], hrs⟩

/-- A read that finds a piece gives all of it, or as much as it asks for and leaves the rest. -/
theorem read_bytes {limit : Nat} (hlimit : 0 < limit) {piece : List UInt8} (hpiece : piece ≠ [])
    (rest : Source) :
    read limit (.bytes piece :: rest) = .ok (piece, rest) ∨
      ∃ a b, a ≠ [] ∧ b ≠ [] ∧ a ++ b = piece ∧
        read limit (.bytes piece :: rest) = .ok (a, .bytes b :: rest) := by
  by_cases hle : piece.length ≤ limit
  · exact .inl (by simp [read, hle])
  · refine .inr ⟨piece.take limit, piece.drop limit, ?_, ?_, List.take_append_drop limit piece,
      by simp [read, hle]⟩
    · simp only [ne_eq, List.take_eq_nil_iff, not_or]
      exact ⟨by omega, hpiece⟩
    · simp only [ne_eq, List.drop_eq_nil_iff]
      exact hle

theorem read_of_delivers {limit : Nat} (hlimit : 0 < limit) {source : Source} {bs : List UInt8}
    (h : source.Delivers bs) :
    ∃ piece left, ∃ rest : Source, read limit source = .ok (piece, rest) ∧ piece ++ left = bs ∧
      rest.Delivers left ∧ (piece = [] → bs = []) := by
  induction h with
  | ended h =>
    obtain ⟨rest, hread, hrest⟩ := read_ended limit h
    exact ⟨[], [], rest, hread, rfl, .ended hrest, fun _ => rfl⟩
  | interrupted _ ih => exact ih
  | @bytes rest piece bs hpiece hrest _ =>
    rcases read_bytes hlimit hpiece rest with hread | ⟨a, b, ha, hb, rfl, hread⟩
    · exact ⟨piece, bs, rest, hread, rfl, hrest, fun h => absurd h hpiece⟩
    · exact ⟨a, b ++ bs, .bytes b :: rest, hread, by simp, .bytes hb hrest, fun h => absurd h ha⟩

theorem read_of_fails {limit : Nat} (hlimit : 0 < limit) {source : Source} {reason : String}
    (h : source.Fails reason) :
    read limit source = .error reason ∨
      ∃ piece, ∃ rest : Source, read limit source = .ok (piece, rest) ∧ piece ≠ [] ∧
        rest.Fails reason := by
  induction h with
  | failed => exact .inl rfl
  | interrupted _ ih => exact ih
  | @bytes rest piece reason hpiece hrest _ =>
    rcases read_bytes hlimit hpiece rest with hread | ⟨a, b, ha, hb, rfl, hread⟩
    · exact .inr ⟨piece, rest, hread, hpiece, hrest⟩
    · exact .inr ⟨a, .bytes b :: rest, hread, ha, .bytes hb hrest⟩

theorem Delivers.read_ne_error {limit : Nat} (hlimit : 0 < limit) {source : Source}
    {bs : List UInt8} (h : source.Delivers bs) (reason : String) :
    read limit source ≠ .error reason := by
  obtain ⟨_, _, _, hread, _⟩ := read_of_delivers hlimit h
  rw [hread]
  intro hcontra
  cases hcontra

theorem Delivers.of_read {limit : Nat} (hlimit : 0 < limit) {source rest : Source}
    {piece bs : List UInt8} (h : source.Delivers bs) (hread : read limit source = .ok (piece, rest)) :
    ∃ left, piece ++ left = bs ∧ rest.Delivers left ∧ (piece = [] → bs = []) := by
  obtain ⟨_, left, _, hread', hbs, hrest, hend⟩ := read_of_delivers hlimit h
  rw [hread] at hread'
  cases hread'
  exact ⟨left, hbs, hrest, hend⟩

theorem Fails.reason_eq {limit : Nat} (hlimit : 0 < limit) {source : Source}
    {reason reason' : String} (h : source.Fails reason)
    (hread : read limit source = .error reason') : reason' = reason := by
  rcases read_of_fails hlimit h with hread' | ⟨_, _, hread', _⟩
  · rw [hread] at hread'
    cases hread'
    rfl
  · rw [hread] at hread'
    cases hread'

theorem Fails.of_read {limit : Nat} (hlimit : 0 < limit) {source rest : Source}
    {piece : List UInt8} {reason : String} (h : source.Fails reason)
    (hread : read limit source = .ok (piece, rest)) : piece ≠ [] ∧ rest.Fails reason := by
  rcases read_of_fails hlimit h with hread' | ⟨_, _, hread', hpiece, hrest⟩
  · rw [hread] at hread'
    cases hread'
  · rw [hread] at hread'
    cases hread'
    exact ⟨hpiece, hrest⟩

/-! ## The two loops -/

/-- The first loop keeps every byte, and stops short of a whole mark only at the end. -/
theorem head_of_delivers {source : Source} {bs : List UInt8} (taken : List UInt8)
    (h : source.Delivers bs) :
    ∃ first left, ∃ rest : Source, head taken source = .ok (first, rest) ∧
      first ++ left = taken ++ bs ∧ rest.Delivers left ∧
      (Encoding.markLength ≤ first.length ∨ left = []) := by
  fun_induction head taken source generalizing bs with
  | case1 taken source hshort reason hread =>
    exact absurd hread (h.read_ne_error (limit_pos hshort) reason)
  | case2 taken source hshort rest hread =>
    obtain ⟨left, hbs, hrest, hend⟩ := h.of_read (limit_pos hshort) hread
    have hbs' : bs = [] := hend rfl
    have hleft : left = [] := by simpa [hbs'] using hbs
    subst hbs' hleft
    exact ⟨taken, [], rest, rfl, rfl, hrest, .inr rfl⟩
  | case3 taken source hshort b cs rest hread _ ih =>
    obtain ⟨left, hbs, hrest, _⟩ := h.of_read (limit_pos hshort) hread
    obtain ⟨first, left', rest', hhead, hfirst, hrest', hlen⟩ := ih hrest
    exact ⟨first, left', rest', hhead, by simp [hfirst, ← hbs], hrest', hlen⟩
  | case4 taken source hlong => exact ⟨taken, bs, source, rfl, rfl, h, .inl (by omega)⟩

theorem head_of_fails {source : Source} {reason : String} (taken : List UInt8)
    (h : source.Fails reason) :
    head taken source = .error reason ∨
      ∃ first, ∃ rest : Source, head taken source = .ok (first, rest) ∧ rest.Fails reason := by
  fun_induction head taken source with
  | case1 taken source hshort reason' hread =>
    rw [h.reason_eq (limit_pos hshort) hread]
    exact .inl rfl
  | case2 taken source hshort rest hread =>
    exact absurd rfl (h.of_read (limit_pos hshort) hread).1
  | case3 taken source hshort b cs rest hread _ ih =>
    exact ih (h.of_read (limit_pos hshort) hread).2
  | case4 taken source hlong => exact .inr ⟨taken, source, rfl, h⟩

variable {codecs : Codecs}

/-- The second loop decodes the bytes in the pieces in which they come. -/
theorem scanRest_of_delivers {source : Source} {bs : List UInt8} (scan : Scan)
    (decoder : Decoder codecs) (h : source.Delivers bs) :
    ∃ pieces : List (List UInt8), pieces.flatten = bs ∧
      scanRest scan decoder source =
        .ok (scan.feedText (inPieces Decoder.decode decoder pieces)) := by
  fun_induction scanRest scan decoder source generalizing bs with
  | case1 scan decoder source reason hread =>
    exact absurd hread (h.read_ne_error chunkSize_pos reason)
  | case2 scan decoder source rest hread =>
    obtain ⟨_, _, _, hend⟩ := h.of_read chunkSize_pos hread
    exact ⟨[], (hend rfl).symm, rfl⟩
  | case3 scan decoder source b cs rest hread _ decoded =>
    rename_i ih
    obtain ⟨left, hbs, hrest, _⟩ := h.of_read chunkSize_pos hread
    obtain ⟨pieces, hpieces, hscan⟩ := ih hrest
    refine ⟨(b :: cs) :: pieces, by simp [hpieces, ← hbs], ?_⟩
    rw [hscan, inPieces, Scan.feedText_append]

theorem scanRest_of_fails {source : Source} {reason : String} (scan : Scan)
    (decoder : Decoder codecs) (h : source.Fails reason) :
    scanRest scan decoder source = .error reason := by
  fun_induction scanRest scan decoder source with
  | case1 scan decoder source reason' hread => rw [h.reason_eq chunkSize_pos hread]
  | case2 scan decoder source rest hread => exact absurd rfl (h.of_read chunkSize_pos hread).1
  | case3 scan decoder source b cs rest hread _ decoded =>
    rename_i ih
    exact ih (h.of_read chunkSize_pos hread).2

end Source

/-! ## The mark -/

namespace Encoding

theorem length_le_markLength {mark : List UInt8 × Encoding} (h : mark ∈ marks) :
    mark.1.length ≤ markLength := by
  revert mark
  decide

theorem isPrefixOf_append {mark first : List UInt8} (left : List UInt8)
    (h : mark.length ≤ first.length) :
    mark.isPrefixOf (first ++ left) = mark.isPrefixOf first := by
  rw [Bool.eq_iff_iff, List.isPrefixOf_iff_prefix, List.isPrefixOf_iff_prefix]
  constructor
  · intro hp
    exact List.prefix_of_prefix_length_le hp (List.prefix_append first left) h
  · intro hp
    exact hp.trans (List.prefix_append first left)

theorem detect_append (standard : Charset) {first : List UInt8} (left : List UInt8)
    (h : markLength ≤ first.length ∨ left = []) :
    detect standard (first ++ left) = detect standard first := by
  rcases h with h | rfl
  · have hmarks : marks.find? (fun mark => mark.1.isPrefixOf (first ++ left)) =
        marks.find? (fun mark => mark.1.isPrefixOf first) :=
      List.find?_congr fun mark hmark =>
        isPrefixOf_append left (Nat.le_trans (length_le_markLength hmark) h)
    rw [detect, detect, hmarks]
  · rw [List.append_nil]

theorem offset_le_length (standard : Charset) (bytes : List UInt8) :
    (detect standard bytes).2 ≤ bytes.length := by
  rw [detect]
  split
  · next mark hfind =>
    have hp := List.find?_some
      (p := fun mark : List UInt8 × Encoding => mark.1.isPrefixOf bytes) hfind
    exact (List.isPrefixOf_iff_prefix.mp hp).length_le
  · exact Nat.zero_le _

end Encoding

theorem Rule.scanSource_of_head {codecs : Codecs} (rules : List Rule) (standard : Charset)
    {source rest : Source} {first : List UInt8} (h : Source.head [] source = .ok (first, rest)) :
    let found := Encoding.detect standard first
    let decoded := (Decoder.ofEncoding found.1 codecs).decode (first.drop found.2) false
    Rule.scanSource rules standard source codecs =
      (Source.scanRest ((Scan.start (rules.map Rule.fresh)).feedText decoded.2) decoded.1 rest).map
        Scan.finish := by
  intro found decoded
  rw [Rule.scanSource, h]
  simp only [found, decoded]
  split
  · next heq => rw [heq]; rfl
  · next heq => rw [heq]; rfl

/-- A source that gives `bs` in any reads has the violations of the text that `bs` decode to. -/
theorem Rule.scanSource_of_delivers {codecs : Codecs} (hcodecs : codecs.Piecewise)
    (rules : List Rule) (standard : Charset) {source : Source} {bs : List UInt8}
    (h : source.Delivers bs) :
    Rule.scanSource rules standard source codecs =
      .ok (Rule.scanText rules
        ((Decoder.ofEncoding (Encoding.detect standard bs).1 codecs).text
          (bs.drop (Encoding.detect standard bs).2))) := by
  obtain ⟨first, left, rest, hhead, hfirst, hrest, hlen⟩ := Source.head_of_delivers [] h
  rw [List.nil_append] at hfirst
  subst hfirst
  let found := Encoding.detect standard first
  let decoder := Decoder.ofEncoding found.1 codecs
  let piece := first.drop found.2
  let start := Scan.start (rules.map Rule.fresh)
  -- what is behind the mark of the first bytes is one more piece of the text
  obtain ⟨pieces, hpieces, hscan⟩ := Source.scanRest_of_delivers
    (start.feedText (decoder.decode piece false).2) (decoder.decode piece false).1 hrest
  have htext : decoder.text (piece ++ left) =
      inPieces Decoder.decode decoder (piece :: pieces) := by
    rw [Decoder.inPieces_ofEncoding hcodecs, List.flatten_cons, hpieces]
  have hrun : Rule.scanSource rules standard source codecs =
      .ok (start.feedText (decoder.text (piece ++ left))).finish := by
    rw [Rule.scanSource_of_head rules standard hhead, hscan, htext, inPieces,
      Scan.feedText_append]
    rfl
  rw [hrun, Encoding.detect_append standard left hlen,
    List.drop_append_of_le_length (Encoding.offset_le_length standard first)]
  rfl

/-- **A scan does not see how its bytes arrive.** If decoding the named encodings does not depend on
how the input is cut, a source that gives `bs` in any reads has the violations of the text that `bs`
decode to; a source of which a read fails has that failure. -/
theorem Rule.scanSource_schedule {codecs : Codecs} (hcodecs : codecs.Piecewise) (rules : List Rule)
    (standard : Charset) (source : Source) :
    (∀ bs, source.Delivers bs →
      Rule.scanSource rules standard source codecs =
        .ok (Rule.scanText rules
          ((Decoder.ofEncoding (Encoding.detect standard bs).1 codecs).text
            (bs.drop (Encoding.detect standard bs).2)))) ∧
    (∀ reason, source.Fails reason →
      Rule.scanSource rules standard source codecs = .error reason) := by
  constructor
  · exact fun bs h => Rule.scanSource_of_delivers hcodecs rules standard h
  · intro reason h
    rcases Source.head_of_fails [] h with hhead | ⟨first, rest, hhead, hrest⟩
    · rw [Rule.scanSource, hhead]
    · rw [Rule.scanSource_of_head rules standard hhead, Source.scanRest_of_fails _ _ hrest]
      rfl

/-- A mark and a character of two bytes, both cut by reads, and a read that fails behind them. -/
theorem Rule.scanSource_schedule_cut :
    let good : Source := [.bytes [0xEF], .interrupted, .bytes [0xBB, 0xBF, 0x61], .bytes [0xC3],
      .bytes [0xA9, 0x3B]]
    let broken : Source := [.bytes [0xEF, 0xBB], .interrupted, .bytes [0xBF, 0x61], .failed "gone"]
    Codecs.builtIn.Piecewise ∧ good.Delivers [0xEF, 0xBB, 0xBF, 0x61, 0xC3, 0xA9, 0x3B] ∧
      Rule.scanSource Rule.defaults .standard good =
        .ok (Rule.scanText Rule.defaults ['a', 'é', ';']) ∧
      broken.Fails "gone" ∧
      Rule.scanSource Rule.defaults .standard broken = .error "gone" := by
  intro good broken
  have hgood : good.Delivers [0xEF, 0xBB, 0xBF, 0x61, 0xC3, 0xA9, 0x3B] :=
    .bytes (by decide) (.interrupted (.bytes (by decide) (.bytes (by decide)
      (.bytes (by decide) (.ended (by intro r hr; cases hr))))))
  have hbroken : broken.Fails "gone" :=
    .bytes (by decide) (.interrupted (.bytes (by decide) .failed))
  refine ⟨Codecs.builtIn_piecewise, hgood, ?_, hbroken, ?_⟩
  · exact (Rule.scanSource_schedule Codecs.builtIn_piecewise Rule.defaults .standard good).1 _ hgood
  · exact (Rule.scanSource_schedule Codecs.builtIn_piecewise Rule.defaults .standard broken).2 _
      hbroken

end StyleScan
