import ScriptConsole.Rehearsal.Stage
import ScriptConsole.Worker.Serve

/-!
Small command scripts: commands between semicolons that read a line, write text or leave. Such a
script is a plan: what it writes at once, and what after each line that it reads.
-/

namespace ScriptConsole.Rehearsal

/-- One command of a script, as far as its commands and its output go. -/
inductive ShellCommand where
  | read
  | say (bytes : List UInt8)
  | leave
  /-- Go on for ever without a word. -/
  | stay
  deriving DecidableEq

namespace ShellCommand

/-- A word of a script so far, or `none` between words. -/
abbrev Partial : Type := Option (List Char)

def Partial.add (word : Partial) (c : Char) : Partial :=
  some (word.getD [] ++ [c])

/-- A quote begins a word, if none is begun. -/
def Partial.openQuote (word : Partial) : Partial :=
  some (word.getD [])

def Partial.finish (word : Partial) (words : List String) : List String :=
  match word with
  | none => words
  | some word => words ++ [String.ofList word]

/-- How the characters of a script are to be read. -/
inductive Mode where
  | plain
  | single
  | double

/-- The commands of a script as lists of words; quoted texts are parts of words. -/
def split : Mode → Partial → List String → List Char → List (List String)
  | _, word, words, [] => [word.finish words]
  | .plain, word, words, '\\' :: d :: rest => split .plain (word.add d) words rest
  | .double, word, words, '\\' :: d :: rest =>
      if d = '"' || d = '\\' || d = '$' then split .double (word.add d) words rest
      else split .double (word.add '\\') words (d :: rest)
  | .plain, word, words, c :: rest =>
      if c = ';' || c = '\n' then word.finish words :: split .plain none [] rest
      else if c = ' ' then split .plain none (word.finish words) rest
      else if c = '\'' then split .single word.openQuote words rest
      else if c = '"' then split .double word.openQuote words rest
      else split .plain (word.add c) words rest
  | .single, word, words, c :: rest =>
      if c = '\'' then split .plain word words rest else split .single (word.add c) words rest
  | .double, word, words, c :: rest =>
      if c = '"' then split .plain word words rest else split .double (word.add c) words rest

def octal? (c : Char) : Option Nat :=
  if '0' ≤ c && c ≤ '7' then some (c.toNat - '0'.toNat) else none

/-- Up to `n` octal digits: their number and what follows. -/
def octal (value : Nat) : Nat → List Char → Nat × List Char
  | 0, s => (value, s)
  | _, [] => (value, [])
  | n + 1, c :: s =>
      match octal? c with
      | some digit => octal (value * 8 + digit) n s
      | none => (value, c :: s)

/-- What a backslash and `c` stand for, apart from octal digits. -/
def escaped (c : Char) : List UInt8 :=
  match c with
  | 'a' => [7]
  | 'b' => [8]
  | 't' => [9]
  | 'n' => [10]
  | 'v' => [11]
  | 'f' => [12]
  | 'r' => [13]
  | '\\' => [92]
  | c => 92 :: (String.singleton c).toUTF8.toList

/-- The bytes of a text in which a backslash begins an escape. -/
def unescape : Nat → List Char → List UInt8
  | 0, _ => []
  | _, [] => []
  | fuel + 1, '\\' :: c :: s =>
      match octal? c with
      | some _ =>
          let (value, s) := octal 0 3 (c :: s)
          UInt8.ofNat value :: unescape fuel s
      | none => escaped c ++ unescape fuel s
  | fuel + 1, c :: s => (String.singleton c).toUTF8.toList ++ unescape fuel s

def unescapeText (text : String) : List UInt8 :=
  unescape (text.length + 1) text.toList

/-- A form cut at its conversions: the text before each, and its letter if there is one. -/
def conversions (before : List Char) : List Char → List (List Char × Option Char)
  | '%' :: '%' :: s => conversions (before ++ ['%']) s
  | '%' :: c :: s => (before, some c) :: conversions [] s
  | c :: s => conversions (before ++ [c]) s
  | [] => [(before, none)]

/-- Fill a form once: the bytes, and the words that are left. -/
def fill : List (List Char × Option Char) → List String → List UInt8 × List String
  | [], words => ([], words)
  | (before, none) :: pieces, words =>
      let (bytes, words) := fill pieces words
      (unescapeText (String.ofList before) ++ bytes, words)
  | (before, some c) :: pieces, words =>
      let word := words.headD ""
      let shown := if c = 'b' then unescapeText word else word.toUTF8.toList
      let (bytes, words) := fill pieces words.tail
      (unescapeText (String.ofList before) ++ shown ++ bytes, words)

/-- Fill a form with words until none is left; `fuel` rounds are made. -/
def fillAll (pieces : List (List Char × Option Char)) : Nat → List String → List UInt8
  | 0, _ => []
  | fuel + 1, words =>
      let (bytes, rest) := fill pieces words
      if rest = [] || rest.length = words.length then bytes else bytes ++ fillAll pieces fuel rest

/-- The command that a list of words is. -/
def ofWords : List String → List ShellCommand
  | [] => []
  | "read" :: _ => [read]
  | "echo" :: "-n" :: words => [say (unescapeText (" ".intercalate words))]
  | "echo" :: words => [say (unescapeText (" ".intercalate words) ++ [10])]
  | "printf" :: form :: words => [say (fillAll (conversions [] form.toList) (words.length + 1) words)]
  | "exit" :: _ => [leave]
  | "kill" :: _ => [leave]
  | "cat" :: _ => [stay]
  | "sleep" :: _ => [stay]
  | _ => []

/-- How often a loop is run at most. -/
def rounds : Nat := 100

/-- The commands without loops. A loop goes on as long as there are lines to read. -/
def unroll : List (List String) → List (List String)
  | [] => []
  | ("while" :: condition) :: rest =>
      let body := (rest.takeWhile (· != ["done"])).map fun
        | "do" :: words => words
        | words => words
      (List.replicate rounds (condition :: body)).flatten
  | words :: rest => words :: unroll rest

def parse (script : String) : List ShellCommand :=
  (unroll (split .plain none [] script.toList)).flatMap ofWords

/-- What a script does up to the next line that it reads: all that it writes, and whether it
stays or leaves and the commands that follow the line. -/
def segment (written : List UInt8) : List ShellCommand → List UInt8 × Bool × Option (List ShellCommand)
  | [] => (written, true, none)
  | leave :: _ => (written, true, none)
  | stay :: _ => (written, false, none)
  | read :: rest => (written, false, some rest)
  | say bytes :: rest => segment (written ++ bytes) rest

/-- The events in the lines that a script wrote, up to one that is not UTF-8. -/
def cues (written : List UInt8) (isOver : Bool) : List Cue :=
  let lines := Text.streamLines written
  let isBroken := lines.any fun
    | .ok _ => false
    | .error _ => true
  (Wire.messages Event.format lines).map .emit ++ (if isOver || isBroken then [.exit] else [])

/-- What a script does at once and after each line; `fuel` lines are looked at. -/
def segments : Nat → List ShellCommand → List (List Cue)
  | 0, _ => []
  | fuel + 1, commands =>
      match segment [] commands with
      | (written, isOver, none) => [cues written isOver]
      | (written, isOver, some rest) => cues written isOver :: segments fuel rest

def plan (commands : List ShellCommand) : Plan :=
  match segments (commands.length + 1) commands with
  | [] => .inOrder [] []
  | first :: rest => .inOrder first rest

end ShellCommand

end ScriptConsole.Rehearsal
