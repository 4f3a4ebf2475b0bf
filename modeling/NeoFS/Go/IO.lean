import Mathlib

set_option autoImplicit false

/- The parts of package io that a stream reader and its callers rely on: the errors it names,
   and a writer as the caller provides it, which may take fewer bytes than it is offered. -/
namespace NeoFS.Go

/-- The errors of package io that the payload reader returns (`io.EOF`, `io.ErrUnexpectedEOF`,
`io.ErrShortWrite`), and any other error by its text. -/
inductive IOError where
  | eof
  | unexpectedEOF
  | shortWrite
  | other (message : String)
deriving DecidableEq, Repr

/-- An `io.Writer` with state σ: `Write(p)` takes the first n bytes of p and returns n and an
error. -/
structure Writer (σ : Type) where
  write : σ → List UInt8 → σ × Nat × Option IOError

section Writer

variable {σ : Type}

/-- Writing byte strings one after another until a write fails, as a loop of `w.Write` calls
does: the writer's state, the bytes it took, their count and the error that stopped it. -/
def writeEach (w : Writer σ) : σ → List (List UInt8) → σ × List UInt8 × Nat × Option IOError
  | s, [] => (s, [], 0, none)
  | s, b :: rest =>
      match w.write s b with
      | (s', n, some err) => (s', b.take n, n, some err)
      | (s', n, none) =>
          match writeEach w s' rest with
          | (s'', taken, n', err) => (s'', b.take n ++ taken, n + n', err)

end Writer

-- An `io.Reader` with state σ: `Read(p)` with len(p) = n returns the bytes it put in p and an
-- error.
structure Reader (σ : Type) where
  read : σ → Nat → σ × List UInt8 × Option IOError
  remaining : σ → Nat
  bounded : ∀ s n, (read s n).2.1.length ≤ n
  progress : ∀ s n, 0 < n → (read s n).2.2 = none → remaining (read s n).1 < remaining s

section Reader

variable {σ : Type}

-- A reader of the byte stream `contents`: each read returns the stream's next bytes, and io.EOF
-- only once the stream is used up.
def Reader.Streams (r : Reader σ) (contents : σ → List UInt8) : Prop :=
  ∀ s n, contents s = (r.read s n).2.1 ++ contents (r.read s n).1 ∧
    ((r.read s n).2.2 = some .eof → contents (r.read s n).1 = [])

-- A reader that hands out a list of pieces, each cut to the size asked for, and then io.EOF.
def piecesRead : List (List UInt8) → Nat → List (List UInt8) × List UInt8 × Option IOError
  | [], _ => ([], [], some .eof)
  | piece :: rest, n => if piece.length ≤ n then (rest, piece, none) else (piece.drop n :: rest, piece.take n, none)

theorem pieces_read_bounded (pieces : List (List UInt8)) (n : Nat) : (piecesRead pieces n).2.1.length ≤ n := by
  cases pieces with
  | nil => simp [piecesRead]
  | cons piece rest =>
      by_cases fits : piece.length ≤ n
      · simp [piecesRead, fits]
      · simp only [piecesRead, fits, if_false, List.length_take]
        exact Nat.min_le_left _ _

theorem pieces_read_progress (pieces : List (List UInt8)) (n : Nat) (positive : 0 < n)
    (taken : (piecesRead pieces n).2.2 = none) :
    ((piecesRead pieces n).1.map fun piece => piece.length + 1).sum < (pieces.map fun piece => piece.length + 1).sum := by
  cases pieces with
  | nil => simp [piecesRead] at taken
  | cons piece rest =>
      by_cases fits : piece.length ≤ n
      · simp [piecesRead, fits]
      · simp only [piecesRead, fits, if_false, List.map_cons, List.sum_cons, List.length_drop]
        omega

def piecesReader : Reader (List (List UInt8)) where
  read := piecesRead
  remaining pieces := (pieces.map fun piece => piece.length + 1).sum
  bounded := pieces_read_bounded
  progress := pieces_read_progress

theorem pieces_reader_streams : piecesReader.Streams List.flatten := by
  intro pieces n
  cases pieces with
  | nil => simp [piecesReader, piecesRead]
  | cons piece rest =>
      by_cases fits : piece.length ≤ n
      · simp [piecesReader, piecesRead, fits]
      · simp only [piecesReader, piecesRead, fits, if_false, List.flatten_cons, reduceCtorEq, false_implies,
          and_true]
        rw [← List.append_assoc, List.take_append_drop]

theorem pieces_reader_eof (pieces : List (List UInt8)) (n : Nat) (e : IOError) :
    (piecesReader.read pieces n).2.2 = some e → e = .eof := by
  cases pieces with
  | nil =>
      intro ended
      cases ended
      rfl
  | cons piece rest =>
      by_cases fits : piece.length ≤ n <;> simp [piecesReader, piecesRead, fits]

end Reader

end NeoFS.Go
