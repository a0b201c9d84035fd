-- SUMMARY: Paths: opaque text, or segments with the dot segments resolved.
import DidAdmission.Text.Blank
import DidAdmission.Uri.Percent

/-!
# Paths

A path that does not start with a slash is kept as text. Any other path is a list of segments: `.` stands
for no segment and `..` takes the one before it back, in either spelling of the dot. A segment that starts
with a drive, as `C:` or `C:\x`, is never taken back.
-/

namespace DidAdmission

/-- A path. -/
inductive Path
  | verbatim (text : String)
  | rooted (segments : List String)
deriving DecidableEq, Repr

namespace Path

/-- A segment with every encoded dot written as a dot. -/
def plainDots : List Char → List Char
  | '%' :: '2' :: c :: rest =>
    if c = 'e' ∨ c = 'E' then '.' :: plainDots rest else '%' :: '2' :: c :: plainDots rest
  | c :: rest => c :: plainDots rest
  | [] => []

/-- Does the segment stand for no segment? -/
def isSingleDot (segment : List Char) : Bool :=
  plainDots segment == ['.']

/-- Does the segment take the one before it back? -/
def isDoubleDot (segment : List Char) : Bool :=
  plainDots segment == ['.', '.']

/-- Is the segment a letter and a colon or a bar? -/
def isDriveLetter (segment : List Char) : Bool :=
  match segment with
  | [letter, mark] => letter.isAlpha && (mark == ':' || mark == '|')
  | _ => false

/-- Does the segment start with a drive letter that a backslash or the end follows? -/
def startsWithDrive (segment : List Char) : Bool :=
  isDriveLetter (segment.take 2) && (segment.drop 2).head?.all (· == '\\')

/-- The segments without the last one, which stays if it starts with a drive. -/
def takeBack (segments : List (List Char)) : List (List Char) :=
  match segments.getLast? with
  | none => []
  | some last => if startsWithDrive last then segments else segments.dropLast

/-- A segment as it is kept. The first segment of a file's path names its drive with a colon. -/
def keepSegment (isFile isFirst : Bool) (segment : List Char) : List Char :=
  match segment with
  | [letter, _] =>
    if isFile && isFirst && isDriveLetter segment then [letter, ':']
    else Percent.encode Percent.inPath segment
  | _ => Percent.encode Percent.inPath segment

/-- Adds a segment to those before it; `isLast` tells whether the path ends with it. -/
def addSegment (isFile : Bool) (segments : List (List Char)) (segment : List Char) (isLast : Bool) :
    List (List Char) :=
  if isDoubleDot segment then takeBack segments ++ (if isLast then [[]] else [])
  else if isSingleDot segment then segments ++ (if isLast then [[]] else [])
  else segments ++ [keepSegment isFile segments.isEmpty segment]

/-- Adds all segments of a path in turn. -/
def resolve (isFile : Bool) (segments : List (List Char)) : List (List Char) → List (List Char)
  | [] => segments
  | [segment] => addSegment isFile segments segment true
  | segment :: next :: rest => resolve isFile (addSegment isFile segments segment false) (next :: rest)

/-- The segments of the text after the first slash, cut but not resolved. -/
def cut (special : Bool) (cs : List Char) : List (List Char) :=
  Text.splitWhere (fun c => c == '/' || (special && c == '\\')) cs

/-- The path of the text after the first slash. -/
def rootedAt (special : Bool) (cs : List Char) : Path :=
  .rooted ((resolve false [] (cut special cs)).map String.ofList)

/-- The segments without the empty ones at the start, of which one stays if there is no other. -/
def dropEmptyLead : List (List Char) → List (List Char)
  | [] :: next :: rest => dropEmptyLead (next :: rest)
  | segments => segments

/-- The segments of a file's path, from the text after the first slash. -/
def fileSegments (cs : List Char) : List (List Char) :=
  resolve true [] (cut true cs)

/-- The path of a file with the given segments. -/
def ofFileSegments (segments : List (List Char)) : Path :=
  .rooted ((dropEmptyLead segments).map String.ofList)

/-- The path of a file, from the text after the first slash. -/
def fileAt (cs : List Char) : Path :=
  ofFileSegments (fileSegments cs)

def verbatimOf (cs : List Char) : Path :=
  .verbatim (String.ofList (Percent.encode Percent.inOpaque cs))

def text : Path → String
  | .verbatim s => s
  | .rooted segments => String.join (segments.map ("/" ++ ·))

/-- Would the path be taken for an authority if it followed the scheme? -/
def looksLikeAuthority : Path → Bool
  | .rooted ("" :: _ :: _) => true
  | _ => false

/-- The path without the spaces at its end, if it is kept as text. -/
def trimSpaces : Path → Path
  | .verbatim s =>
    .verbatim (String.ofList (s.toList.reverse.dropWhile (· == ' ')).reverse)
  | .rooted segments => .rooted segments

end Path

end DidAdmission
