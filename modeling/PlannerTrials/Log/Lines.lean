import PlannerTrials.Json
import PlannerTrials.Log
import PlannerTrials.Text.Pad
import PlannerTrials.Text.Quoted

/-!
# How events are shown

An event is shown on a line, either as text, with its level at the right edge of a column, or as a
JSON document without spaces.  In a text no message can give orders to the terminal: the controls that
start such orders are written by their numbers.

A text may be coloured: the time is faint, and every level has a colour of its own.
-/

namespace PlannerTrials.Event

/-- A character of a message as it is shown in a text. -/
def shownChar (c : Char) : List Char :=
  let n := c.toNat
  if n = 0x07 ∨ n = 0x08 ∨ n = 0x0c ∨ n = 0x1b ∨ n = 0x7f then Text.byteEscape n
  else if 0x80 ≤ n ∧ n ≤ 0x9f then ['\\', 'u', '\x7b'] ++ Text.hexDigits n ++ ['\x7d']
  else [c]

/-- A message as it is shown in a text. -/
def shownMessage (message : String) : String :=
  String.ofList (message.toList.flatMap shownChar)

/-- The order to a terminal to write on in a style. -/
def styleOrder (style : String) : String := "\x1b[" ++ style ++ "m"

/-- A text in a style of the terminal, after which the usual style is back. -/
def styled (style text : String) : String := styleOrder style ++ text ++ styleOrder "0"

/-- The number of the style for what is faint. -/
def faintStyle : String := "2"

/-- The number of the colour of a level. -/
def levelStyle : Level → String
  | .error => "31"
  | .warn => "33"
  | .info => "32"
  | .debug => "34"
  | .trace => "35"

/-- The line of an event as text, coloured or not. -/
def textLine (coloured : Bool) (time : String) (event : Event) : String :=
  let level := String.ofList (Text.padLeft 5 event.level.name.toList)
  (if coloured then styled faintStyle time ++ " " ++ styled (levelStyle event.level) level
    else time ++ " " ++ level) ++ " " ++ shownMessage event.message ++ "\n"

/-- An event as a document. -/
def document (time : String) (event : Event) : Json :=
  .object [("timestamp", .string time), ("level", .string event.level.name),
    ("fields", .object [("message", .string event.message)])]

/-- The line of an event as a document. -/
def documentLine (time : String) (event : Event) : String :=
  String.ofList ((event.document time).compact ++ ['\n'])

end PlannerTrials.Event
