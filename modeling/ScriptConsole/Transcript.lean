/-!
What a session shows, in order. Clearing removes what was shown before from view; the record of
it stays.
-/

namespace ScriptConsole

/-- How an entry is to be rendered. -/
inductive EntryKind where
  /-- Program output and results. -/
  | output
  | error
  /-- The echo of what the user submitted. -/
  | input
  /-- A notice of the session itself. -/
  | info
  deriving DecidableEq

def EntryKind.name : EntryKind → String
  | output => "output"
  | error => "error"
  | input => "input"
  | info => "info"

structure Entry where
  kind : EntryKind
  text : String
  deriving DecidableEq

inductive Mark where
  | print (entry : Entry)
  | clear
  deriving DecidableEq

/-- The marks made on the console, oldest first. -/
structure Transcript where
  marks : List Mark
  deriving DecidableEq

namespace Transcript

def empty : Transcript := ⟨[]⟩

def print (t : Transcript) (kind : EntryKind) (text : String) : Transcript :=
  ⟨t.marks ++ [.print ⟨kind, text⟩]⟩

def clear (t : Transcript) : Transcript :=
  ⟨t.marks ++ [.clear]⟩

/-- The entries in view after a mark. -/
def view (entries : List Entry) : Mark → List Entry
  | .print entry => entries ++ [entry]
  | .clear => []

/-- The entries in view: those printed since the last clearing. -/
def entries (t : Transcript) : List Entry :=
  t.marks.foldl view []

/-- The texts in view of one kind. -/
def texts (t : Transcript) (kind : EntryKind) : List String :=
  (t.entries.filter (·.kind == kind)).map (·.text)

end Transcript
end ScriptConsole
