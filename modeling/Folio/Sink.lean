/-
Sinks, which take the output of a page.

A sink answers every write of some bytes: it accepts a number of them, it is interrupted, or
it fails.  How it will answer is laid down by a list of replies for the first writes and
one for all later ones, which is no interruption, so that writing comes to an end.
-/
import Folio.IoError
import Folio.Number.Word

namespace Folio

/-- The answer of a sink that is past its interruptions. -/
inductive WriteReply where
  /-- Takes up to the given number of bytes. -/
  | accept (most : Nat)
  | fail (fault : IoFault)
  deriving DecidableEq, Inhabited, Repr

/-- A sink, and what has happened to it. -/
structure Sink where
  /-- The answers to the next writes; `none` is an interruption. -/
  script : List (Option WriteReply) := []
  /-- The answer to all writes after these. -/
  later : WriteReply
  /-- Why flushing fails, if it does. -/
  flushFault : Option IoFault := none
  /-- The bytes taken so far. -/
  taken : List UInt8 := []
  writes : Nat := 0
  flushes : Nat := 0
  deriving Inhabited

namespace Sink

/-- A sink that takes everything. -/
def unlimited : Sink := { later := .accept (Number.twoPow 64) }

/-- Writes all bytes, in as many writes as it takes.  An interrupted write is tried again; a
sink that takes nothing fails. -/
def writeAll (s : Sink) : List UInt8 → Except IoFault Unit × Sink
  | [] => (.ok (), s)
  | b :: bytes =>
    match _ : s.script with
    | none :: script => writeAll { s with script := script, writes := s.writes + 1 } (b :: bytes)
    | some (.fail fault) :: script =>
      (.error fault, { s with script := script, writes := s.writes + 1 })
    | some (.accept 0) :: script =>
      (.error .writeZero, { s with script := script, writes := s.writes + 1 })
    | some (.accept (n + 1)) :: script =>
      writeAll { s with
        script := script, writes := s.writes + 1, taken := s.taken ++ b :: bytes.take n }
        (bytes.drop n)
    | [] =>
      match s.later with
      | .fail fault => (.error fault, { s with writes := s.writes + 1 })
      | .accept 0 => (.error .writeZero, { s with writes := s.writes + 1 })
      | .accept (n + 1) =>
        writeAll { s with writes := s.writes + 1, taken := s.taken ++ b :: bytes.take n }
          (bytes.drop n)
termination_by bytes => s.script.length + bytes.length
decreasing_by
  all_goals
    simp only [*, List.length_cons, List.length_drop, List.length_nil]
    omega

/-- Passes on what has been written. -/
def flush (s : Sink) : Except IoFault Unit × Sink :=
  (match s.flushFault with
    | some fault => .error fault
    | none => .ok (), { s with flushes := s.flushes + 1 })

/-- Writes all bytes and flushes. -/
def deliver (s : Sink) (bytes : List UInt8) : Except IoFault Unit × Sink :=
  match s.writeAll bytes with
  | (.ok (), s) => s.flush
  | (.error fault, s) => (.error fault, s)

/-- The text that has been taken; a character that was cut off shows as `U+FFFD`. -/
def text (s : Sink) : String :=
  let whole := (List.range 4).findSome? fun cut =>
    (String.fromUTF8? ⟨(s.taken.take (s.taken.length - cut)).toArray⟩).map (cut, ·)
  match whole with
  | some (0, text) => text
  | some (_, text) => text ++ "\ufffd"
  | none => ""

end Sink

end Folio
