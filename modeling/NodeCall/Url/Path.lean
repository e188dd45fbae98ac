import NodeCall.Text.Form
import NodeCall.Text.Percent

/-!
# Paths

The path of a URL is a list of segments, or a text without structure.  A segment of one dot stays
where it is and one of two dots goes one up, except from a drive letter.  The path of a file may
begin with a drive, which needs no host.
-/

namespace NodeCall.Url

inductive Path
  | rootless (text : List Char)
  | rooted (segments : List (List Char))
  deriving DecidableEq, Repr

namespace Path

def text : Path → List Char
  | .rootless text => text
  | .rooted segments => segments.flatMap fun segment => '/' :: segment

def isBreak (c : Char) : Bool := c = '\t' || c = '\n' || c = '\r'

def solid (s : List Char) : List Char := s.filter (!isBreak ·)

def splitBy (separates : Char → Bool) (s : List Char) : List (List Char) :=
  Text.Form.splitOn '/' (s.map fun c => if separates c then '/' else c)

/-- Whether a text is so many dots, each of which may be escaped. -/
def isDots : Nat → List Char → Bool
  | 0, s => s.isEmpty
  | n + 1, '.' :: rest => isDots n rest
  | n + 1, '%' :: '2' :: 'e' :: rest => isDots n rest
  | n + 1, '%' :: '2' :: 'E' :: rest => isDots n rest
  | _, _ => false

def isDrive : List Char → Bool
  | [letter, mark] => letter.isAlpha && (mark = ':' || mark = '|')
  | _ => false

/-- Whether a segment is a drive or begins with one and a backslash. -/
def startsWithDrive : List Char → Bool
  | letter :: mark :: '\\' :: _ => isDrive [letter, mark]
  | segment => isDrive segment

/-- The segments without the last one; a drive is kept. -/
def leave (done : List (List Char)) : List (List Char) :=
  match done.getLast? with
  | some last => if startsWithDrive last then done else done.dropLast
  | none => done

/-- The segments after one more, with `done` before it.  Dots at the end leave an empty segment
behind. -/
def follow (done : List (List Char)) (segment : List Char) (atEnd : Bool) : List (List Char) :=
  let ending := if atEnd then [[]] else []
  if isDots 2 segment then leave done ++ ending
  else if isDots 1 segment then done ++ ending
  else done ++ [segment]

/-- The segments that remain when dots are followed, with `done` before them. -/
def resolve : List (List Char) → List (List Char) → List (List Char)
  | done, [] => done
  | done, segment :: rest => resolve (follow done segment rest.isEmpty) rest

def dropSeparator (separates : Char → Bool) : List Char → List Char
  | [] => []
  | c :: rest => if separates c then rest else c :: rest

def escaped (segment : List Char) : List Char := Text.Percent.encode Text.Percent.path segment

def segments (separates : Char → Bool) (s : List Char) : List (List Char) :=
  resolve [] ((splitBy separates (dropSeparator separates s)).map escaped)

/-! ### Files -/

structure FilePath where
  segments : List (List Char)
  /-- Whether a whole segment names the drive that the path begins with; then no host is needed. -/
  hostless : Bool
  deriving DecidableEq, Repr

/-- A drive at the start of a segment, if a break parts it from more text, and that text. -/
def tornDrive? (segment : List Char) : Option (List Char × List Char) :=
  match segment.dropWhile isBreak with
  | letter :: rest =>
    match rest.dropWhile isBreak with
    | ':' :: mark :: more =>
      if letter.isAlpha && isBreak mark && !(solid more).isEmpty then
        some ([letter, ':'], solid more)
      else none
    | _ => none
  | [] => none

/-- The path after one more segment, in which breaks are left.  A drive in the first place has a
colon; text that is torn off from it is a segment of its own, whatever dots it has. -/
def FilePath.enter (path : FilePath) (segment : List Char) (atEnd : Bool) : FilePath :=
  match path.segments, tornDrive? segment, escaped (solid segment) with
  | [], some (drive, more), _ => ⟨[drive, escaped more], path.hostless⟩
  | [], none, [letter, mark] =>
    if isDrive [letter, mark] then ⟨[[letter, ':']], true⟩
    else { path with segments := follow [] [letter, mark] atEnd }
  | done, _, segment => { path with segments := follow done segment atEnd }

def FilePath.enterAll : FilePath → List (List Char) → FilePath
  | path, [] => path
  | path, segment :: rest => (path.enter segment rest.isEmpty).enterAll rest

def withoutEmptyStart : List (List Char) → List (List Char)
  | [] :: segment :: rest => withoutEmptyStart (segment :: rest)
  | segments => segments

/-- The path of a file after its first slash, with breaks left in it. -/
def ofFile (separates : Char → Bool) (s : List Char) : FilePath :=
  let path := FilePath.enterAll ⟨[], false⟩ (splitBy separates s)
  { path with segments := withoutEmptyStart path.segments }

end Path
end NodeCall.Url
