import ScriptConsole.Files.Path
import ScriptConsole.Url.Host

/-!
Paths as `file` URLs. Writing a path protects its bytes; reading follows the rules for URLs in
general, in which a drive letter is never left by way of `..`.
-/

namespace ScriptConsole.Url

/-- Why a text names no local file. -/
inductive Fault where
  | noScheme
  | unsupportedScheme (scheme : String)
  | emptyHost
  | invalidHost
  | notLocal
  deriving DecidableEq

def Fault.message : Fault → String
  | noScheme => "relative URL without a base"
  | unsupportedScheme scheme => "unsupported scheme '" ++ scheme ++ "'"
  | emptyHost => "empty host"
  | invalidHost => "invalid international domain name"
  | notLocal => "url does not name a local file"

/-! ### Writing -/

def encodeParts : List Name → List Char
  | [] => []
  | part :: parts => '/' :: (part.flatMap encodeByte ++ encodeParts parts)

/-- The URL of an absolute path. -/
def ofPath (path : Path) : String :=
  let parts := path.parts
  String.ofList ("file://".toList ++ if parts = [] then ['/'] else encodeParts parts)

/-! ### Reading -/

def isControlOrSpace (c : Char) : Bool :=
  c.toNat ≤ 0x20

/-- The text without controls and spaces at its ends. -/
def trim (s : List Char) : List Char :=
  ((s.dropWhile isControlOrSpace).reverse.dropWhile isControlOrSpace).reverse

/-- A tab or the end of a line, which stands for nothing inside a URL. -/
def isBreak (c : Char) : Bool :=
  c == '\t' || c == '\n' || c == '\r'

def withoutBreaks (s : List Char) : List Char :=
  s.filter fun c => !isBreak c

def isSchemeChar (c : Char) : Bool :=
  c.isAlphanum || c == '+' || c == '-' || c == '.'

/-- The scheme in lower case and what follows its colon. -/
def readScheme? (s : List Char) : Option (List Char × List Char) :=
  let isPart c := isSchemeChar c || isBreak c
  match s.dropWhile isPart with
  | ':' :: after =>
      let scheme := withoutBreaks (s.takeWhile isPart)
      if scheme.head?.any Char.isAlpha then some (scheme.map Char.toLower, after) else none
  | _ => none

def isSlash (c : Char) : Bool :=
  c == '/' || c == '\\'

/-- What follows a slash at the start. -/
def afterSlash? (s : List Char) : Option (List Char) :=
  match s.dropWhile isBreak with
  | [] => none
  | c :: rest => if isSlash c then some rest else none

/-- A letter and a colon or a bar, which names a drive. -/
def isDrive : List Char → Bool
  | [a, b] => a.isAlpha && (b == ':' || b == '|')
  | _ => false

/-- The text with every percent-encoded point as a point. -/
def showPoints : List Char → List Char
  | '%' :: '2' :: c :: rest =>
      if c = 'e' ∨ c = 'E' then '.' :: showPoints rest else '%' :: '2' :: showPoints (c :: rest)
  | c :: rest => c :: showPoints rest
  | [] => []

def isSingleDot (segment : List Char) : Bool :=
  showPoints segment == ['.']

def isDoubleDot (segment : List Char) : Bool :=
  showPoints segment == ['.', '.']

/-- The segments without the last. A drive stays. -/
def shorten (segments : List (List Char)) : List (List Char) :=
  if segments.getLast?.any isDrive then segments else segments.dropLast

/-- A drive at the start of a path has a colon. -/
def normalDrive (segment : List Char) : List Char :=
  if isDrive segment then [segment.headD ':', ':'] else segment

/-- A drive whose colon a break follows, and the text behind the break. -/
def cutDrive? (segment : List Char) : Option (List Char × List Char) :=
  match segment.dropWhile isBreak with
  | [] => none
  | letter :: rest =>
      match rest.dropWhile isBreak with
      | ':' :: c :: tail =>
          let text := withoutBreaks tail
          if letter.isAlpha && isBreak c && text != [] then some ([letter, ':'], text) else none
      | _ => none

/-- Segments without dots, and whether the first is a drive that had the segment to itself. -/
structure Route where
  segments : List (List Char)
  onDrive : Bool
  deriving DecidableEq

/-- Go on by one segment. Where a path begins, a break behind a drive is a slash. -/
def Route.step (route : Route) (segment : List Char) : Route :=
  match if route.segments = [] then cutDrive? segment else none with
  | some (drive, rest) => { route with segments := [drive, rest] }
  | none =>
      let segment := withoutBreaks segment
      if isDoubleDot segment then { route with segments := shorten route.segments }
      else if isSingleDot segment then route
      else if route.segments = [] ∧ isDrive segment = true then ⟨[normalDrive segment], true⟩
      else { route with segments := route.segments ++ [segment] }

/-- The route through the segments of a path. Dots at the end name a directory. -/
def Route.ofSegments (segments : List (List Char)) : Route :=
  let route := segments.foldl Route.step ⟨[], false⟩
  let isDots segment := isDoubleDot (withoutBreaks segment) || isSingleDot (withoutBreaks segment)
  if segments.getLast?.any isDots then { route with segments := route.segments ++ [[]] }
  else route

/-- A slash and a segment each, without the empty segments at the start. A drive at the very
end is a directory. -/
def joinSegments (segments : List (List Char)) : List UInt8 :=
  let kept := match segments.dropWhile (· == []) with
    | [] => [[]]
    | kept => kept
  let bytes := kept.flatMap fun segment => Path.slash :: segmentBytes segment
  match bytes.reverse with
  | b :: a :: _ :: _ =>
      if isDrive [Char.ofNat a.toNat, Char.ofNat b.toNat] then bytes ++ [Path.slash] else bytes
  | _ => bytes

/-- The host and the segments of what stands behind the colon of a `file` URL. A slash at the
start opens the path, except behind the name of this machine: there an empty segment comes first,
so that no drive is at the start. -/
def splitHost (s : List Char) : Host × List (List Char) :=
  let body := s.takeWhile fun c => c != '?' && c != '#'
  match afterSlash? body with
  | none => (.here, body.splitOnP isSlash)
  | some path =>
      match afterSlash? path with
      | none => (.here, path.splitOnP isSlash)
      | some rest =>
          let name := withoutBreaks (rest.takeWhile fun c => !isSlash c)
          let path := rest.dropWhile fun c => !isSlash c
          if isDrive name then (.here, rest.splitOnP isSlash)
          else match Host.ofText name with
            | .here => (.here, path.splitOnP isSlash)
            | host => (host, path.tail.splitOnP isSlash)

/-- The segments of a route on this machine. A drive that has the first segment to itself is
always here. -/
def toLocal (host : Host) (route : Route) : Except Fault (List (List Char)) :=
  match host with
  | .here => .ok route.segments
  | .elsewhere => if route.onDrive then .ok route.segments else .error .notLocal
  | .blank => .error .emptyHost
  | .invalid => .error .invalidHost

/-- The path that a `file` URL names. -/
def toPath (url : String) : Except Fault Path := do
  match readScheme? (trim url.toList) with
  | none => throw .noScheme
  | some (scheme, rest) =>
      if scheme = "file".toList then
        let (host, segments) := splitHost rest
        return ⟨joinSegments (← toLocal host (Route.ofSegments segments))⟩
      else throw (.unsupportedScheme (String.ofList scheme))

end ScriptConsole.Url
