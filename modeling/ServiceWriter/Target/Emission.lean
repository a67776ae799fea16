import ServiceWriter.Defect.Collector

/-!
# Emission

What the emitters of both target languages share. An emitter is a state that its actions read and
change. An action stops short when the reserved words cannot be had; the state it leaves behind then
is that of the moment it stopped. Defects do not stop an action: they are collected, and at the end
of an emission they are reported together.
-/

set_option autoImplicit false

namespace ServiceWriter

/-- The reserved words that an emitter consults, or why there are none. -/
abbrev Vocabulary := Except WordFileError ReservedWords

/-- Why an emission gave no text. -/
inductive Failure where
  /-- The tree has defects. -/
  | rejected (defects : List Defect)
  /-- The reserved words cannot be read. -/
  | noWords (error : WordFileError)

/-- An action of an emitter with the state `σ`. -/
abbrev Emit (σ α : Type) := ExceptT WordFileError (StateM σ) α

namespace Emit

/-- Whether a name is a reserved word; stops without a vocabulary. -/
def isReserved {σ : Type} (words : Vocabulary) (language : Language) (name : String) :
    Emit σ Bool :=
  match words with
  | .ok words => pure (words.contains language name)
  | .error e => throw e

end Emit

/-- The outcome of a whole emission: the text, if the vocabulary was there and no defect was
collected. -/
def outcome (text : Except WordFileError String) (collector : Collector) : Except Failure String :=
  match text with
  | .error e => .error (.noWords e)
  | .ok text =>
    match collector.check with
    | .error defects => .error (.rejected defects)
    | .ok () => .ok text

end ServiceWriter
