import OffChain.Event
import OffChain.Text.Blank

/-!
# Lines of events

An event is written in one line: its level, its message and its fields.  The blanks in a line are
evened out, so that a single one stands wherever there are some.  A value that is shown as it is can
contain line breaks; only what stands before the first one belongs to the line.
-/

namespace OffChain.CommandLine

/-- A character as it stands between quotes. -/
def quotedChar (c : Char) : List Char :=
  if c = '"' then ['\\', '"']
  else if c = '\\' then ['\\', '\\']
  else if c = '\n' then ['\\', 'n']
  else if c = '\r' then ['\\', 'r']
  else if c = '\t' then ['\\', 't']
  else [c]

/-- A field behind the message. -/
def fieldText (name : String) : FieldValue → String
  | .shown s => " " ++ name ++ "=" ++ s
  | .quoted s => " " ++ name ++ "=\"" ++ String.ofList (s.toList.flatMap quotedChar) ++ "\""
  | .hidden => ""

/-- The words of a text that begins behind `word`, given in reverse: its parts between blanks. -/
def wordsBehind (word : List Char) : List Char → List (List Char)
  | [] => if word.isEmpty then [] else [word.reverse]
  | c :: cs =>
    if Text.isBlank c then
      if word.isEmpty then wordsBehind [] cs else word.reverse :: wordsBehind [] cs
    else wordsBehind (c :: word) cs

/-- A text with a single blank in the place of several, and none at its ends. -/
def evenedOut (s : String) : String :=
  String.intercalate " " ((wordsBehind [] s.toList).map String.ofList)

/-- An event as it is reported. -/
def reportText (e : Event) : String :=
  e.level.name ++ " " ++ e.message
    ++ String.join (e.fields.map fun (name, value) => fieldText name value)

/-- The line of an event. -/
def eventLine (e : Event) : String :=
  evenedOut (String.ofList ((reportText e).toList.takeWhile fun c => c != '\n'))

/-- What is reported of an event behind its line. -/
def behindLine (e : Event) : String :=
  match (reportText e).toList.dropWhile fun c => c != '\n' with
  | [] => ""
  | _ :: rest => String.ofList rest ++ "\n"

end OffChain.CommandLine
