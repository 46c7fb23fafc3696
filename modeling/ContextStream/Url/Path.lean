import ContextStream.Text.Percent
import ContextStream.Text.Split

/-!
# Paths

A path that begins with a slash is a list of segments. Segments of dots move
through the list while it is read: one dot stays, two dots drop the last segment
unless it is a drive letter.
-/

namespace ContextStream.Url

open ContextStream.Text

namespace Segment

/-- One dot, plain or encoded. -/
def isSingleDot (segment : List Char) : Bool :=
  segment.map Char.toLower ∈ [['.'], ['%', '2', 'e']]

/-- Two dots, each plain or encoded. -/
def isDoubleDot (segment : List Char) : Bool :=
  segment.map Char.toLower ∈
    [['.', '.'], ['.', '%', '2', 'e'], ['%', '2', 'e', '.'], ['%', '2', 'e', '%', '2', 'e']]

/-- A letter and a colon or a bar. -/
def isDriveLetter (segment : List Char) : Bool :=
  match segment with
  | [letter, mark] => letter.isAlpha && (mark == ':' || mark == '|')
  | _ => false

/-- A drive letter is kept with a colon. -/
def normalDrive (segment : List Char) : List Char :=
  if isDriveLetter segment then segment.take 1 ++ [':'] else segment

end Segment

/-- Drops the last segment, which comes first in the reversed list. -/
def dropSegment : List (List Char) → List (List Char)
  | [] => []
  | segment :: others => if Segment.isDriveLetter segment then segment :: others else others

/-- Walks the segments of a path in turn; `walked` are those kept so far, the last
one first. A path that ends with dots ends with a slash. -/
def walkPath (keep : List Char → List Char) (walked : List (List Char)) :
    List (List Char) → List (List Char)
  | [] => walked.reverse
  | [last] =>
      if Segment.isDoubleDot last then ([] :: dropSegment walked).reverse
      else if Segment.isSingleDot last then ([] :: walked).reverse
      else (keep last :: walked).reverse
  | segment :: next :: rest =>
      if Segment.isDoubleDot segment then walkPath keep (dropSegment walked) (next :: rest)
      else if Segment.isSingleDot segment then walkPath keep walked (next :: rest)
      else walkPath keep (keep segment :: walked) (next :: rest)

/-- The path of a URL: segments behind slashes, or a text that no slash begins. -/
inductive Path where
  | rooted (segments : List String)
  | bare (text : String)
  deriving DecidableEq, Repr

namespace Path

/-- The path as it stands in a URL. -/
def text : Path → String
  | .rooted segments => String.join (segments.map ("/" ++ ·))
  | .bare text => text

/-- The segments of a path that begins with a slash. -/
def segments : Path → List String
  | .rooted segments => segments
  | .bare _ => []

end Path

end ContextStream.Url
