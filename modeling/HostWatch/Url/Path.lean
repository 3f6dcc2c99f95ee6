import HostWatch.Url.Basic

/-!
# Paths

A path is read segment by segment: `.` and `..`, also percent-encoded, are carried
out, and every other segment is appended. `Url.pushSegments` puts segments behind
the path of a URL in the same way, each encoded as a whole.
-/

namespace HostWatch.Url

/-- A character that ends a segment. -/
def endsSegment (kind : Kind) (c : Char) : Bool :=
  c = '/' || (c = '\\' && kind ≠ .plain)

/-- A segment that stands for the one before it. -/
def isDoubleDot (s : List Char) : Bool :=
  ["..", "%2e.", ".%2e", "%2e%2e"].any fun d => Ascii.lower s = d.toList

/-- A segment that stands for itself. -/
def isSingleDot (s : List Char) : Bool :=
  [".", "%2e"].any fun d => Ascii.lower s = d.toList

/-- An ASCII letter. -/
def isLetter (c : Char) : Bool :=
  ('a' ≤ c && c ≤ 'z') || ('A' ≤ c && c ≤ 'Z')

/-- A letter and a colon or a bar, which name a drive. -/
def isDriveLetter : List Char → Bool
  | [c, d] => isLetter c && (d = ':' || d = '|')
  | _ => false

/-- A letter and a colon. -/
def isNormalDriveLetter : List Char → Bool
  | [c, ':'] => isLetter c
  | _ => false

/-- A path without its last segment; the drive of a file path stays. -/
def shorten (kind : Kind) (path : List (List Char)) : List (List Char) :=
  match kind, path with
  | .file, [s] => if isNormalDriveLetter s then [s] else []
  | _, path => path.dropLast

/-- Append an encoded segment; `more` says that another one follows. -/
def pushSegment (kind : Kind) (more : Bool) (path : List (List Char)) (s : List Char) :
    List (List Char) :=
  if isDoubleDot s then shorten kind path ++ (if more then [] else [[]])
  else if isSingleDot s then path ++ (if more then [] else [[]])
  else if kind = .file ∧ path = [] ∧ isDriveLetter s then [[s.headD ':', ':']]
  else path ++ [s]

/-- The segments of a path, the slashes between them taken out. -/
def splitSegments (kind : Kind) (cs : List Char) : List (List Char) :=
  cs.splitOnP (endsSegment kind)

/-- Append encoded segments one after another. -/
def pushAll (kind : Kind) (path : List (List Char)) : List (List Char) → List (List Char)
  | [] => path
  | [s] => pushSegment kind false path s
  | s :: rest => pushAll kind (pushSegment kind true path s) rest

/-- Whether, behind a file path, some segment comes to stand first and names a drive. -/
def entersDrive (path : List (List Char)) : List (List Char) → Bool
  | [] => false
  | s :: rest => (path = [] && isDriveLetter s) || entersDrive (pushSegment .file true path s) rest

/-- The segments of a file path, empty ones in front left out. -/
def dropEmptyFront (path : List (List Char)) : List (List Char) :=
  match path.dropWhile (· = []) with
  | [] => [[]]
  | path => path

/-- The path that a text stands for, the first slash taken off. -/
def readPath (kind : Kind) (cs : List Char) : List (List Char) :=
  let path := pushAll kind [] ((splitSegments kind cs).map (percentEncode inPathSet))
  if kind = .file then dropEmptyFront path else path

/-- The characters that are encoded in a path segment that is set on its own, by the kind of URL. -/
def segmentSet (kind : Kind) : Char → Bool :=
  if kind = .plain then inSegmentSet else inSpecialSegmentSet

/-- Put a segment behind a path; a path that is only a slash takes it as its first one. -/
def appendSegment (kind : Kind) (path : List (List Char)) (raw : List Char) : List (List Char) :=
  if raw = ['.'] ∨ raw = ['.', '.'] then path
  else
    let bare := raw.filter fun c => c ≠ '\t' && c ≠ '\n' && c ≠ '\r'
    pushSegment kind false (if path = [[]] then [] else path) (percentEncode (segmentSet kind) bare)

/-- A path without an empty segment at its end; a single slash stays. -/
def popIfEmpty (path : List (List Char)) : List (List Char) :=
  match path with
  | [] => []
  | [s] => [s]
  | path => if path.getLast? = some [] then path.dropLast else path

/-- A URL with segments put behind its path, unless it cannot be a base. -/
def pushSegments? (u : Url) (raw : List (List Char)) : Option Url :=
  match u.path with
  | .verbatim _ => none
  | .segments path =>
    let kind := Kind.ofScheme u.scheme
    some { u with path := .segments (raw.foldl (appendSegment kind) (popIfEmpty path)) }

end HostWatch.Url
