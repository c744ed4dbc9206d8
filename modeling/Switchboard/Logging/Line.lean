import Switchboard.Trace

/-!
# Lines of the log

A line tells the time, the logger, the severity and the message, set apart by dashes.

Times are not kept: a mark stands for each. Because the size of a file counts written times, a message and a
line know by how many characters the times in them are longer than their marks.
-/

namespace Switchboard.Logging

/-- The mark that stands for a time. -/
def timeMark : String := "T"

/-- The width of the date and time at the beginning of a line in a file. -/
def dateWidth : Nat := 19

/-- A message as it is written. -/
structure Message where
  text : String
  /-- The characters of written times beyond those of their marks. -/
  unwritten : Nat
deriving DecidableEq, Repr

namespace Message

/-- A message that holds no times. -/
def plain (text : String) : Message := ⟨text, 0⟩

end Message

/-- A line as handlers write it. -/
structure Line where
  text : String
  unwritten : Nat
deriving DecidableEq, Repr

namespace Line

/-- The line of a record. -/
def of (logger : String) (severity : Severity) (message : Message) : Line :=
  ⟨s!"{timeMark} - {logger} - " ++ severity.name ++ " - " ++ message.text ++ "\n",
    dateWidth - timeMark.length + message.unwritten⟩

/-- The number of characters of the line with its times. -/
def length (line : Line) : Nat := line.text.length + line.unwritten

end Line

end Switchboard.Logging
