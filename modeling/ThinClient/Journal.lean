import ThinClient.Error

/-!
# The journal

What a client reports on the side: failures that are not returned to anyone, and things that were
dropped while the server still held something for them. It also counts the cursors that were
dropped while open.
-/

namespace ThinClient

/-- One report. -/
inductive LogEntry where
  /-- A deferred close failed. -/
  | closeFailed (resource : Int64) (error : Error)
  /-- The close of a cursor failed, after a failure or a fetch that needs no more rows. -/
  | cursorCloseFailed (cursor : Int64) (error : Error)
  | cursorDropped (cursor : Int64)
  | connectionDropped (unsent : Nat)
  | connectFailed (error : Error)
  deriving DecidableEq

namespace LogEntry

/-- How much a report matters. -/
def level : LogEntry → String
  | connectFailed _ => "ERROR"
  | _ => "WARN"

/-- A report in words. -/
def message : LogEntry → String
  | closeFailed resource error =>
    "failed to close resource " ++ toString resource.toInt ++ ": " ++ error.message
  | cursorCloseFailed cursor error =>
    "failed to close cursor " ++ toString cursor.toInt ++ ": " ++ error.message
  | cursorDropped cursor =>
    "cursor " ++ toString cursor.toInt ++ " dropped while open, close deferred"
  | connectionDropped unsent =>
    "connection dropped with " ++ toString unsent ++
      " unsent resource close, server releases them on disconnect"
  | connectFailed error => "failed to connect: " ++ error.message

/-- A report with how much it matters. -/
def text (entry : LogEntry) : String :=
  entry.level ++ ": " ++ entry.message

end LogEntry

/-- The reports so far, and how many cursors were dropped while open. -/
structure Journal where
  entries : List LogEntry := []
  leakedCursors : Nat := 0

/-- The journal with one more report. -/
def Journal.add (journal : Journal) (entry : LogEntry) : Journal :=
  { journal with entries := journal.entries ++ [entry] }

end ThinClient
