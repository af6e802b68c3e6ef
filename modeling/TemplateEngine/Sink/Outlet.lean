import TemplateEngine.Sink.Buffer
import TemplateEngine.Sink.StagedWriter

namespace TemplateEngine

/-- A sink of one of the kinds on offer. -/
inductive Outlet
  | buffer (b : OutputBuffer)
  | limited (b : LimitedBuffer)
  | staged (s : StagedWriter BoundedWriter)
  | capped (b : CappedBuffer)

/-- What relieving a sink hands over: the text it held, or all bytes its writer has. -/
inductive Relieved
  | text (s : String)
  | written (bytes : List UInt8)

namespace Outlet

/-- Applies the same operation to whatever sink there is. -/
def withSink {α : Type} (outlet : Outlet) (f : {S : Type} → [Sink S] → S → α × S) : α × Outlet :=
  match outlet with
  | .buffer b => (f b).map id .buffer
  | .limited b => (f b).map id .limited
  | .staged s => (f s).map id .staged
  | .capped b => (f b).map id .capped

instance : Sink Outlet where
  append text outlet := outlet.withSink (Sink.append text)
  isFull outlet := outlet.withSink Sink.isFull

/-- Takes the sink's text away, or flushes its writer. -/
def relieve : Outlet → Except SinkError Relieved × Outlet
  | .buffer b => (.ok (.text b.take.1), .buffer b.take.2)
  | .limited b => (.ok (.text b.take.1), .limited b.take.2)
  | .capped b => (.ok (.text b.take.1), .capped b.take.2)
  | .staged s =>
    let (outcome, s) := s.flush
    (outcome.map (fun _ => .written s.writer.written), .staged s)

end Outlet

end TemplateEngine
