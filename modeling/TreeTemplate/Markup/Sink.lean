import TreeTemplate.Error

/-!
# Sinks

Where serialized text goes: into a string that always takes it, or into an output with limited room,
which takes what fits and then refuses.

Writing ends early for one of two reasons that must be told apart: the sink refused, or the tree has
something that cannot be written.  The first has no place in the tree.
-/

namespace TreeTemplate

/-- Types that take text.  The answer has the reason if the text was not taken whole. -/
class Sink (σ : Type) where
  put : σ → String → σ × Option String

/-- A string takes everything. -/
instance : Sink String where
  put taken text := (taken ++ text, none)

/-- An output of bytes that closes when its room is used up. -/
structure Pipe where
  /-- The bytes taken so far. -/
  taken : ByteArray := .empty
  /-- How many bytes fit in all, if there is a limit. -/
  limit : Option Nat := none

namespace Pipe

/-- What a full pipe answers. -/
def closed : String := "pipe closed"

/-- Takes the part of a text that fits.  A text without bytes always fits. -/
def put (pipe : Pipe) (text : String) : Pipe × Option String :=
  let bytes := text.toUTF8
  match pipe.limit with
  | none => ({ pipe with taken := pipe.taken ++ bytes }, none)
  | some limit =>
    let room := limit - pipe.taken.size
    ({ pipe with taken := pipe.taken ++ bytes.extract 0 room },
      if bytes.size ≤ room then none else some closed)

instance : Sink Pipe := ⟨put⟩

end Pipe

/-- Why writing ended early. -/
inductive Stop where
  /-- The sink refused. -/
  | refused (reason : String)
  /-- The tree cannot be written. -/
  | failed (error : Error)

/-- The error of writing that ended early.  That of the sink stands alone, without a trail. -/
def Stop.toError : Stop → Error
  | .refused reason => ⟨.writeFailed reason, [], none⟩
  | .failed error => error

/-- Computations that write to a sink. -/
abbrev Write (σ : Type) := ExceptT Stop (StateM σ)

namespace Write

variable {σ : Type} [Sink σ]

/-- Writes a text. -/
def put (text : String) : Write σ Unit := fun sink =>
  match Sink.put sink text with
  | (sink, none) => (.ok (), sink)
  | (sink, some reason) => (.error (.refused reason), sink)

/-- Ends writing with a cause. -/
def fail (cause : Cause) : Write σ Unit := fun sink =>
  (.error (.failed ⟨cause, [], none⟩), sink)

/-- Puts a place around the error of writing, unless it is that of the sink. -/
def within (label : Label) (write : Write σ Unit) : Write σ Unit := fun sink =>
  match write sink with
  | (.error (.failed error), sink) => (.error (.failed (error.within label)), sink)
  | result => result

end Write

end TreeTemplate
