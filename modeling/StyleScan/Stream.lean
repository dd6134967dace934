import StyleScan.Encoding.Decoder
import StyleScan.Scan

/-!
# StyleScan.Stream

Scanning bytes that arrive in reads of any size.

* `Read`             — what one read of a source gives.
* `Source.read`      — reads at most a given number of bytes; interruptions are retried.
* `Source.head`      — reads until a byte-order mark can be told, or the source is at its end.
* `Rule.scanSource`  — the violations of a source under fresh copies of the rules.
-/

namespace StyleScan

/-- What one read of a source gives: bytes, an interruption, or a failure with its reason. -/
inductive Read where
  | bytes (bs : List UInt8)
  | interrupted
  | failed (reason : String)
deriving DecidableEq, Repr, Inhabited

/-- A source of bytes, as the reads that it gives. -/
abbrev Source := List Read

namespace Source

/-- The most bytes that a scan reads at once. -/
def chunkSize : Nat := 1024

/-- Reads at most `limit` bytes. Interruptions are retried, what does not fit is left for the next
read, and a source without reads left gives no bytes. -/
def read (limit : Nat) : Source → Except String (List UInt8 × Source)
  | [] => .ok ([], [])
  | .interrupted :: rest => read limit rest
  | .failed reason :: _ => .error reason
  | .bytes bs :: rest =>
    if bs.length ≤ limit then .ok (bs, rest)
    else .ok (bs.take limit, .bytes (bs.drop limit) :: rest)

/-- A bound on the number of reads that give bytes. -/
def size : Source → Nat
  | [] => 0
  | .bytes bs :: rest => bs.length + size rest
  | _ :: rest => size rest

/-- A read takes what it gives from the source. -/
theorem size_read {limit : Nat} {source rest : Source} {bs : List UInt8}
    (h : read limit source = .ok (bs, rest)) : bs.length + size rest = size source := by
  induction source with
  | nil => simp_all [read, size]
  | cons r rs ih =>
    cases r with
    | interrupted => simpa [size] using ih (by simpa [read] using h)
    | failed reason => simp [read] at h
    | bytes cs =>
      rw [read] at h
      split at h
      · simp only [Except.ok.injEq, Prod.mk.injEq] at h
        obtain ⟨rfl, rfl⟩ := h
        rfl
      · simp only [Except.ok.injEq, Prod.mk.injEq] at h
        obtain ⟨rfl, rfl⟩ := h
        simp only [size, List.length_take, List.length_drop]
        omega

theorem size_lt_of_read {limit : Nat} {source rest : Source} {b : UInt8} {bs : List UInt8}
    (h : read limit source = .ok (b :: bs, rest)) : size rest < size source := by
  have := size_read h
  simp only [List.length_cons] at this
  omega

/-- Reads on from `taken` until a byte-order mark can be told, or a read gives nothing. -/
def head (taken : List UInt8) (source : Source) : Except String (List UInt8 × Source) :=
  if taken.length < Encoding.markLength then
    match h : read (chunkSize - taken.length) source with
    | .error reason => .error reason
    | .ok ([], rest) => .ok (taken, rest)
    | .ok (b :: bs, rest) =>
      have := size_lt_of_read h
      head (taken ++ b :: bs) rest
  else .ok (taken, source)
termination_by size source

/-- Scans what is left of a source until a read gives nothing. -/
def scanRest {codecs : Codecs} (scan : Scan) (decoder : Decoder codecs) (source : Source) :
    Except String Scan :=
  match h : read chunkSize source with
  | .error reason => .error reason
  | .ok ([], _) => .ok (scan.feedText (decoder.decode [] true).2)
  | .ok (b :: bs, rest) =>
    have := size_lt_of_read h
    let decoded := decoder.decode (b :: bs) false
    scanRest (scan.feedText decoded.2) decoded.1 rest
termination_by size source

end Source

/-- The violations of a source under fresh copies of the rules, or the reason why it cannot be
read. Without a byte-order mark the source is in the `standard` encoding. -/
def Rule.scanSource (rules : List Rule) (standard : Charset) (source : Source)
    (codecs : Codecs := Codecs.builtIn) : Except String (List Violation) :=
  match Source.head [] source with
  | .error reason => .error reason
  | .ok (first, rest) =>
    let found := Encoding.detect standard first
    let decoded := (Decoder.ofEncoding found.1 codecs).decode (first.drop found.2) false
    let scan := (Scan.start (rules.map Rule.fresh)).feedText decoded.2
    match Source.scanRest scan decoded.1 rest with
    | .error reason => .error reason
    | .ok scan => .ok scan.finish

end StyleScan
