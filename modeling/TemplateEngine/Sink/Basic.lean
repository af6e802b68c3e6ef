namespace TemplateEngine

structure SinkError where
  message : String
deriving DecidableEq, Inhabited

/-- A place to append text to, which may ask for a pause. The limit is soft: a sink that asks for a pause still takes
what is written to it. Every operation also gives the sink as it is afterwards. -/
class Sink (S : Type) where
  /-- Appends a text. -/
  append : String → S → Except SinkError Unit × S
  /-- Asks whether the sink has reached its soft limit. -/
  isFull : S → Bool × S

namespace Sink

def appendChar {S : Type} [Sink S] (c : Char) (s : S) : Except SinkError Unit × S :=
  append (String.singleton c) s

end Sink

end TemplateEngine
