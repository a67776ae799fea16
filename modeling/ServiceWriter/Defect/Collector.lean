import ServiceWriter.Defect.Basic

/-!
# Collecting defects

One pass over a tree collects its defects in the order in which they are met. A defect whose key is
already there is dropped, so that a bad name used in several statements of a member is reported once.
-/

set_option autoImplicit false

namespace ServiceWriter

/-- What identifies a defect in a collector: code, subject and message, joined by U+0000. -/
def Defect.key (d : Defect) : String :=
  d.code.name ++ "\x00" ++ d.subject ++ "\x00" ++ d.message

/-- The defects met so far, no two with one key. -/
structure Collector where
  defects : List Defect := []

namespace Collector

/-- Nothing met yet. -/
def empty : Collector := {}

/-- Whether a defect with the same key is there. -/
def has (c : Collector) (d : Defect) : Bool :=
  c.defects.any fun other => other.key == d.key

/-- Takes a defect in, unless one with its key is there. -/
def add (c : Collector) (d : Defect) : Collector :=
  if c.has d then c else ⟨c.defects ++ [d]⟩

/-- Takes a list of defects in, one after another. -/
def addAll (c : Collector) (ds : List Defect) : Collector :=
  ds.foldl add c

/-- Whether anything was met. -/
def hasDefects (c : Collector) : Bool := !c.defects.isEmpty

/-- Refuses, with all the defects, if there are any. -/
def check (c : Collector) : Except (List Defect) Unit :=
  if c.hasDefects then .error c.defects else .ok ()

end Collector

end ServiceWriter
