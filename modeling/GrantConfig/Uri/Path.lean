import GrantConfig.Text.Split
import GrantConfig.Uri.Percent

/-!
# Paths

A path is a list of segments. A segment of one dot is dropped and one of two dots drops the
segment before it, also when the dots are percent-encoded; either leaves an empty segment when it
is the last. In the `file` scheme empty segments in front are dropped, and a drive letter at the
front ends in a colon and is never dropped.
-/

namespace GrantConfig.Uri.Path

/-- Whether a segment stands for the place it is in. -/
def isHere (segment : String) : Bool := segment = "." || segment = "%2e" || segment = "%2E"

/-- Whether a segment stands for the place above. -/
def isAbove (segment : String) : Bool :=
  ["..", "%2e%2e", "%2e%2E", "%2E%2e", "%2E%2E", "%2e.", "%2E.", ".%2e", ".%2E"].contains segment

/-- Whether a segment is a drive letter with one of the given marks behind it. -/
def isDrive (marks : List Char) (segment : String) : Bool :=
  match segment.toList with
  | [letter, mark] => letter.isAlpha && marks.contains mark
  | _ => false

/-- The segments before, without the last one; they stand in reverse order. -/
def dropLast (file : Bool) (before : List String) : List String :=
  match before with
  | [only] => if file && isDrive [':'] only then [only] else []
  | _ :: rest => rest
  | [] => []

/-- Resolve the dots of encoded segments behind those of `before`, which stand in reverse order.
Also tells whether a drive letter came first. -/
def resolve (file : Bool) (before : List String) : List String → List String × Bool
  | [] => (before.reverse, false)
  | segment :: rest =>
    let finish (kept : List String) : List String := if rest.isEmpty then "" :: kept else kept
    if isAbove segment then resolve file (finish (dropLast file before)) rest
    else if isHere segment then resolve file (finish before) rest
    else if file && before.isEmpty && isDrive [':', '|'] segment then
      let drive := String.ofList (segment.toList.take 1 ++ [':'])
      ((resolve file [drive] rest).1, true)
    else if file && before.isEmpty && isDrive [':'] (String.ofList (segment.toList.take 2)) then
      resolve file
        [String.ofList (segment.toList.drop 2), String.ofList (segment.toList.take 2)] rest
    else resolve file (segment :: before) rest

/-- The text of a path whose segments follow one slash each. -/
def text (segments : List String) : String := String.join (segments.map ("/" ++ ·))

/-- The encoded segments of a path. -/
def segments (isSlash : Char → Bool) (cs : List Char) : List String :=
  (Text.pieces isSlash cs).map fun segment =>
    String.ofList (Percent.encode Percent.inPath segment)

end GrantConfig.Uri.Path
