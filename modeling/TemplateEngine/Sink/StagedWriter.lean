import TemplateEngine.Sink.Basic

namespace TemplateEngine

/-- What a writer answers when it is offered bytes. -/
inductive WriteAnswer
  /-- So many of the bytes were taken, counted from the first. It may be fewer than were offered. -/
  | took (count : Nat)
  /-- Nothing was taken, and the bytes are to be offered again. -/
  | interrupted
  | failed (e : SinkError)
deriving DecidableEq

/-- A place to write bytes to. An interrupted call is made again, and a writer that is interrupted for ever would
keep its caller for ever, so how often it may be interrupted in a row is known of it. -/
class ByteWriter (W : Type) where
  write : List UInt8 → W → WriteAnswer × W
  /-- Pushes on whatever was taken. -/
  flush : W → Except SinkError Unit × W
  /-- The number of calls in a row that may still be interrupted. -/
  patience : W → Nat
  interrupted : ∀ bytes w, (write bytes w).1 = .interrupted → patience (write bytes w).2 < patience w

namespace ByteWriter

/-- Offers what is left until everything is taken, and again after an interruption. A writer that takes nothing of
what it is offered has failed. -/
def writeAll {W : Type} [ByteWriter W] (bytes : List UInt8) (w : W) : Except SinkError Unit × W :=
  if _ : bytes = [] then (.ok (), w)
  else
    match answer : write bytes w with
    | (.failed e, after) => (.error e, after)
    | (.interrupted, after) => writeAll bytes after
    | (.took 0, after) => (.error ⟨"failed to write whole buffer"⟩, after)
    | (.took (count + 1), after) => writeAll (bytes.drop (count + 1)) after
termination_by (bytes.length, patience w)
decreasing_by
  · have fewer := interrupted bytes w (by rw [answer])
    rw [answer] at fewer
    exact Prod.Lex.right _ fewer
  · refine Prod.Lex.left _ _ ?_
    have some : 0 < bytes.length := List.length_pos_iff.mpr ‹_›
    rw [List.length_drop]
    omega

variable {W : Type} [ByteWriter W] {bytes : List UInt8} {w after : W}

@[simp] theorem writeAll_nil (w : W) : writeAll [] w = (.ok (), w) := by
  rw [writeAll, dif_pos rfl]

theorem writeAll_failed {e : SinkError} (some : bytes ≠ []) (answer : write bytes w = (.failed e, after)) :
    writeAll bytes w = (.error e, after) := by
  rw [writeAll, dif_neg some]
  split <;> simp_all

theorem writeAll_interrupted (some : bytes ≠ []) (answer : write bytes w = (.interrupted, after)) :
    writeAll bytes w = writeAll bytes after := by
  rw [writeAll, dif_neg some]
  split <;> simp_all

theorem writeAll_took_none (some : bytes ≠ []) (answer : write bytes w = (.took 0, after)) :
    writeAll bytes w = (.error ⟨"failed to write whole buffer"⟩, after) := by
  rw [writeAll, dif_neg some]
  split <;> simp_all

theorem writeAll_took {count : Nat} (some : bytes ≠ []) (answer : write bytes w = (.took (count + 1), after)) :
    writeAll bytes w = writeAll (bytes.drop (count + 1)) after := by
  rw [writeAll, dif_neg some]
  split <;> simp_all

end ByteWriter

/-- A sink that stages text as bytes until it is flushed, and asks for a pause once `limit` bytes are staged. -/
structure StagedWriter (W : Type) where
  writer : W
  staged : List UInt8
  limit : Nat

namespace StagedWriter

variable {W : Type}

def new (writer : W) (limit : Nat) : StagedWriter W := ⟨writer, [], limit⟩

/-- The number of bytes that are staged and not yet written. -/
def buffered (s : StagedWriter W) : Nat := s.staged.length

def isFull (s : StagedWriter W) : Bool := decide (s.limit ≤ s.buffered)

instance : Sink (StagedWriter W) where
  append text s := (.ok (), { s with staged := s.staged ++ text.toUTF8.toList })
  isFull s := (s.isFull, s)

/-- Writes all staged bytes and flushes the writer. If the writing fails, all bytes stay staged, also
those that the writer took before it failed. -/
def flush [ByteWriter W] (s : StagedWriter W) : Except SinkError Unit × StagedWriter W :=
  match ByteWriter.writeAll s.staged s.writer with
  | (.error e, w) => (.error e, { s with writer := w })
  | (.ok (), w) =>
    match ByteWriter.flush w with
    | (outcome, w) => (outcome, { s with writer := w, staged := [] })

/-- Flushes, and hands back the writer. -/
def finish [ByteWriter W] (s : StagedWriter W) : Except SinkError W :=
  match s.flush with
  | (.error e, _) => .error e
  | (.ok (), s) => .ok s.writer

end StagedWriter

/-- A writer that keeps its bytes, up to `capacity` of them and at most `chunk` in one call. Without
room it fails, or takes nothing when it is `silent`; its flush fails when it is `stuck`. -/
structure BoundedWriter where
  written : List UInt8
  capacity : Option Nat
  chunk : Option Nat
  silent : Bool
  stuck : Bool
deriving DecidableEq, Inhabited

namespace BoundedWriter

def room (w : BoundedWriter) (offered : Nat) : Nat :=
  w.capacity.elim offered (fun capacity => min offered (capacity - w.written.length))

instance : ByteWriter BoundedWriter where
  write bytes w :=
    if bytes.isEmpty then (.took 0, w)
    else if w.room bytes.length = 0 then
      (if w.silent then .took 0 else .failed ⟨"writer full"⟩, w)
    else
      let taken := w.chunk.elim (w.room bytes.length) (min (w.room bytes.length))
      (.took taken, { w with written := w.written ++ bytes.take taken })
  flush w := (if w.stuck then .error ⟨"flush failed"⟩ else .ok (), w)
  patience _ := 0
  interrupted bytes w answer := by grind

end BoundedWriter

end TemplateEngine
