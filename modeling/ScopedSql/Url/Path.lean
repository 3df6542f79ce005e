import ScopedSql.Text.Blank

namespace ScopedSql
namespace Url

/-!
# Paths with dots

A path is a list of segments.  A segment of one dot is passed over and a segment
of two dots takes the segment before it away.  A dot may be written with a
percent sign.  A drive letter is never taken away.

The path of a file may begin with a drive letter.  A colon is written behind it,
whatever stood there, and the file is on that drive and not on a host.
-/

/-- The characters of a segment with the written-out dots put in. -/
def plainDots : List Char -> List Char
  | '%' :: '2' :: e :: rest =>
    if e = 'e' ∨ e = 'E' then '.' :: plainDots rest else '%' :: plainDots ('2' :: e :: rest)
  | c :: rest => c :: plainDots rest
  | [] => []

/-- A letter with a colon or a bar behind it. -/
def isDriveLetter : List Char -> Bool
  | [letter, mark] => letter.isAlpha && (mark = ':' || mark = '|')
  | _ => false

def dropLastSegment (segments : List (List Char)) : List (List Char) :=
  if (segments.getLast?.map isDriveLetter).getD false then segments else segments.dropLast

/-- The segments that were kept of a path, and whether they begin with the drive of a file. -/
structure Walked where
  kept : List (List Char)
  onDrive : Bool

/-- Keep a segment.  A drive letter with a colon ends the first segment of a file. -/
def Walked.keep (file : Bool) (segment : List Char) (walked : Walked) : Walked :=
  let drive := segment.take 1 ++ [':']
  if file && walked.kept.isEmpty && isDriveLetter segment then { kept := [drive], onDrive := true }
  else if file && walked.kept.isEmpty && isDriveLetter (segment.take 2) &&
      drive.isPrefixOf segment then
    { walked with kept := [drive, segment.drop 2] }
  else { walked with kept := walked.kept ++ [segment] }

/-- Walk along segments from those that were kept so far.  After a last segment
of dots the path ends in an empty one. -/
def walk (file : Bool) (walked : Walked) : List (List Char) -> Walked
  | [] => walked
  | segment :: rest =>
    let dots := plainDots segment
    let ending := if rest.isEmpty then [[]] else []
    if dots = ['.', '.'] then
      walk file { walked with kept := dropLastSegment walked.kept ++ ending } rest
    else if dots = ['.'] then walk file { walked with kept := walked.kept ++ ending } rest
    else walk file (walked.keep file segment) rest

/-- Walk along the segments between slashes from the beginning. -/
def walkAll (file : Bool) (cs : List Char) : Walked :=
  walk file { kept := [], onDrive := false } (Text.splitOn '/' cs)

def Walked.joined (walked : Walked) : List Char :=
  ['/'].intercalate walked.kept

/-- A path after its first slash, with the dots resolved. -/
def resolve (cs : List Char) : List Char :=
  '/' :: (walkAll false cs).joined

end Url
end ScopedSql
