/-!
# StyleScan.Encoding.Bytewise

Decoders that take one byte at a time, run over pieces of their input.

* `Bytewise`         — what a byte does to the state of a decoder, and what the end does.
* `Bytewise.run`     — takes bytes one after the other.
* `Bytewise.decode`  — takes a piece of the input, and ends it if it is the last one.
-/

namespace StyleScan

/-- A decoder by its steps: each gives the next state and the characters that it completes. -/
structure Bytewise (σ : Type) where
  step : σ → UInt8 → σ × List Char
  /-- Ends the input; nothing stays unfinished. -/
  flush : σ → σ × List Char

namespace Bytewise

variable {σ : Type} (m : Bytewise σ)

/-- Takes bytes one after the other. -/
def run (s : σ) : List UInt8 → σ × List Char
  | [] => (s, [])
  | b :: bs =>
    let one := m.step s b
    let others := run one.1 bs
    (others.1, one.2 ++ others.2)

@[simp] theorem run_nil (s : σ) : m.run s [] = (s, []) := rfl

/-- Decoding in pieces gives the text of the whole. -/
theorem run_append (s : σ) (as bs : List UInt8) :
    m.run s (as ++ bs) =
      ((m.run (m.run s as).1 bs).1, (m.run s as).2 ++ (m.run (m.run s as).1 bs).2) := by
  induction as generalizing s with
  | nil => rfl
  | cons a as ih => simp [run, ih, List.append_assoc]

/-- Takes a piece of the input; the last piece is ended. -/
def decode (s : σ) (bs : List UInt8) (last : Bool) : σ × List Char :=
  let taken := m.run s bs
  if last then ((m.flush taken.1).1, taken.2 ++ (m.flush taken.1).2) else taken

end Bytewise
end StyleScan
