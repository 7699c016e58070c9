import RoundTrip.Codec
import RoundTrip.Tally

/-! # What a report says

A cell is one codec at one level over one file. Its outcomes are events, and each event has one
text, which ends in a line break.
-/
namespace RoundTrip

/-- The cell that a report line is about. -/
structure CellId where
  label : String
  codec : Codec
  level : Int
  fileName : String
  deriving DecidableEq

def CellId.text (cell : CellId) : String :=
  s!"{cell.label} [{cell.codec.name}-{cell.level}] [Filename:{cell.fileName}]"

inductive Event where
  | verification (passed : Bool)
  | failure (direction : Direction)
  | statistics (summary : Summary)
  deriving DecidableEq

namespace Event

/-- A line's heading, filled up with spaces to twenty-one characters. -/
def heading (title : String) : String :=
  title ++ ":" ++ String.ofList (List.replicate (20 - title.length) ' ')

def directionLine (direction : Direction) (s : DirectionSummary) : String :=
  heading direction.title ++
    s!"speed(avg) {s.averageSpeed.text} MB/s, time(avg) {s.averageTime.text} ms, size {s.size}" ++
    s!", speed(best) {s.bestSpeed.text} MB/s, time(best) {s.bestTime.text} ms\n"

def ratioLine (ratio : Figure) : String := heading "Ratio" ++ ratio.text ++ "\n"

def text (cell : CellId) : Event → String
  | .verification passed =>
      cell.text ++ " verification: " ++ (if passed then "passed" else "failed") ++ "\n"
  | .failure direction => cell.text ++ " " ++ direction.title ++ ": failed\n"
  | .statistics summary =>
      cell.text ++ " -------------------------------------\n" ++
        directionLine .compress summary.compress ++
        directionLine .decompress summary.decompress ++ ratioLine summary.ratio

end Event
end RoundTrip
