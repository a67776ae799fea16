import ServiceWriter.Defect.Collector

/-!
# Casebooks

A casebook keeps the collectors that are opened one after another, the lists of defects that they hand
out, and the last report that was raised from one of them. A report keeps the wording it had when it
was raised, but its defects are those of its collector: what the collector takes in later also shows
in the report, even after a new collector has been opened. A list that is handed out is a copy, and
whoever received it may change it.

Which lists are one and the same matters here. All of them are kept in one place and known by number,
and two that have one number are one list.
-/

set_option autoImplicit false

namespace ServiceWriter

/-- A collector at work: the number of the list that its defects are in, and the keys of what it took
in. -/
structure OpenCollector where
  list : Nat
  keys : List String := []

/-- A report raised from a collector: the number of the collector's list, and the wording at the
time. -/
structure Report where
  source : Nat
  wording : String

/-- All lists by number, the collector that is open, the numbers of the lists that were handed out, the
oldest first, and the last report. -/
structure Casebook where
  lists : List (List Defect) := [[]]
  current : OpenCollector := { list := 0 }
  copies : List Nat := []
  report : Option Report := none

namespace Casebook

/-- What can be done with a casebook. -/
inductive Step where
  /-- Opens a new collector. -/
  | renew
  /-- Takes a defect in. -/
  | add (d : Defect)
  /-- Asks whether there are defects. -/
  | hasDefects
  /-- Asks for the defects. -/
  | defects
  /-- Drops the last defect from a list that was handed out, the oldest being number 0, and asks how
  many there are in the collector. -/
  | dropFrom (copy : Nat)
  /-- Asks for the defects, drops the last one from the list received, and asks how many there are
  in the collector. -/
  | dropFromCopy
  /-- Raises a report if there are defects. -/
  | raise
  /-- Asks for the last report. -/
  | lastReport

/-- What a step answers. -/
inductive Answer where
  | count (n : Nat)
  | flag (b : Bool)
  | list (defects : List Defect)
  /-- Nothing to report. -/
  | quiet
  /-- The report that was raised. -/
  | raised (wording : String) (defects : List Defect)
  /-- The last report, as it stands now. -/
  | reported (wording : String) (defects : List Defect)

/-! ## Lists -/

/-- The list with a number. -/
def listAt (book : Casebook) (n : Nat) : List Defect := (book.lists[n]?).getD []

/-- The defects in the open collector. -/
def held (book : Casebook) : List Defect := book.listAt book.current.list

/-- Changes the list with a number, for all who know it. -/
def change (book : Casebook) (n : Nat) (f : List Defect → List Defect) : Casebook :=
  { book with lists := book.lists.modify n f }

/-- Opens a collector with a list of its own. -/
def renew (book : Casebook) : Casebook :=
  { book with lists := book.lists ++ [[]], current := { list := book.lists.length } }

/-- Takes a defect in, unless its key is known. -/
def add (book : Casebook) (d : Defect) : Casebook :=
  if book.current.keys.contains d.key then book
  else
    { book.change book.current.list (· ++ [d]) with
      current := { book.current with keys := book.current.keys ++ [d.key] } }

/-- Hands out a copy of the open collector's list. -/
def handOut (book : Casebook) : Casebook :=
  { book with lists := book.lists ++ [book.held], copies := book.copies ++ [book.lists.length] }

/-- Drops the last defect from a list that was handed out. -/
def dropFrom (book : Casebook) (copy : Nat) : Casebook :=
  match book.copies[copy]? with
  | some n => book.change n List.dropLast
  | none => book

/-- Raises a report from the open collector. -/
def raise (book : Casebook) : Casebook :=
  { book with report := some ⟨book.current.list, Defect.report book.held⟩ }

/-- The last report: its wording, and the defects that are in its list by now. -/
def lastReport (book : Casebook) : Answer :=
  match book.report with
  | none => .quiet
  | some report => .reported report.wording (book.listAt report.source)

/-! ## Steps -/

/-- Takes one step and answers. -/
def step (book : Casebook) : Step → Answer × Casebook
  | .renew => (.count 0, book.renew)
  | .add d => (.count (book.add d).held.length, book.add d)
  | .hasDefects => (.flag !book.held.isEmpty, book)
  | .defects => (.list book.held, book.handOut)
  | .dropFrom copy => (.count (book.dropFrom copy).held.length, book.dropFrom copy)
  | .dropFromCopy =>
    let dropped := book.handOut.dropFrom book.copies.length
    (.count dropped.held.length, dropped)
  | .raise =>
    if book.held.isEmpty then (.quiet, book)
    else (.raised (Defect.report book.held) book.held, book.raise)
  | .lastReport => (book.lastReport, book)

/-- Takes steps one after another. -/
def run (book : Casebook) (steps : List Step) : Casebook :=
  steps.foldl (fun book s => (book.step s).2) book

end Casebook

end ServiceWriter
