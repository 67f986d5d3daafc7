import ScriptConsole.Buffer.Shared

/-!
A reader that waits for a newer content while contents are written at even intervals. A reader
of the memory is woken by every write; a reader of a file looks at intervals of its own and once
more at the end of its time.
-/

namespace ScriptConsole.Rehearsal

/-- The time between two writes, in milliseconds. -/
def writeInterval : Nat := 30

/-- The content at an instant, if the first write follows an interval after the start. -/
def contentAt (initial : Content) (writes : List Content) (instant : Nat) : Content :=
  ((writes.take (instant / writeInterval)).getLast?).getD initial

/-- The multiples of an interval up to a limit, and the limit. -/
def instantsWithin (interval limit : Nat) : List Nat :=
  (List.range (limit / interval + 1)).map (· * interval) ++ [limit]

/-- The first content that is newer than the line numbered `after`, at the instants at which a
reader looks. -/
def firstNewer (after : Option UInt64) (initial : Content) (writes : List Content)
    (instants : List Nat) : Option Content :=
  (instants.map (contentAt initial writes)).find? (·.isNewerThan after)

/-- The time between two looks of a reader. -/
def lookInterval : SharedBuffer → Nat
  | .memory _ => writeInterval
  | .file buffer => buffer.pollInterval.milliseconds

/-- What a reader of a buffer finds within a limit while contents are written, and the storage
when all of them are. -/
def watch (buffer : SharedBuffer) (after : Option UInt64) (limit : Duration)
    (writes : List Content) (storage : Storage) :
    Except BufferError (Option Content) × Storage :=
  let found := (buffer.read storage).map fun initial =>
    firstNewer after initial writes (instantsWithin (lookInterval buffer) limit.milliseconds)
  (found, writes.foldl (fun s content => (buffer.write content s).toOption.getD s) storage)

end ScriptConsole.Rehearsal
