import Bracket.Session.Basic
import Bracket.Text.Backspace
import Bracket.Text.Blank
import Bracket.Value.Text

/-!
The command line. Arguments are one expression text, evaluated once; without arguments every line
of the input is a text, and a line `:stats` asks for the texts that took the most time.
-/

namespace Bracket.CommandLine

/-- How long an evaluation may go on. -/
def fuel : Nat := 1000000

/-- A session in its world. -/
abbrev State := Session × World

/-- A standard session at a time of day. -/
def start (now : Date) : State := (.standard, { now })

def stopText : Stop → String
  | .error e => "Eval err: " ++ e.message
  | .outOfFuel => "Eval err: evaluation does not end"

/-- A line for every value, or one for what went wrong. -/
def resultText : Except Stop (List Value) → String
  | .error stop => stopText stop ++ "\n"
  | .ok values => String.join (values.map fun v => v.text ++ "\n")

/-- The arguments as one text. -/
def evaluateArguments (args : List String) (state : State) : String :=
  let result := (Session.evaluate fuel 0 (" ".intercalate args) []).run.run state
  resultText (result.1.map fun v => [v])

/-- Right-aligns a text in a field. -/
def alignRight (width : Nat) (s : String) : String :=
  String.ofList (List.replicate (width - s.length) ' ') ++ s

/-- Nanoseconds as milliseconds, with three places. -/
def millisText (nanoseconds : Nat) : String :=
  let micros := (nanoseconds + 500) / 1000
  alignRight 10 (toString (micros / 1000) ++ "." ++ Date.padded 3 (micros % 1000))

/-- The ten texts with the most time: how often each was evaluated, and how long that took on
average, as `showTime` writes it. -/
def statsText (showTime : Nat → String) (stats : Stats) : String :=
  String.join ((stats.top 10).map fun (text, usage) =>
    alignRight 6 (toString usage.calls) ++ " calls " ++ showTime usage.average ++ "ms avg  " ++
      text ++ "\n")

def asksForStats (line : String) : Bool := Text.trim line.toList = ":stats".toList

/-- The answer to a line of input that takes so much time. -/
def answerLine (showTime : Nat → String) (elapsed : Nat) (line : String) (state : State) :
    String × State :=
  if asksForStats line then (statsText showTime state.1.stats, state)
  else
    let (result, state) := (Session.evaluateNodes fuel elapsed line []).run.run state
    (resultText (result.map fun evaluated => evaluated.map Prod.snd), state)

/-- A line of input without its line end. -/
def stripLineEnd (line : List Char) : List Char :=
  match line.reverse with
  | '\n' :: '\r' :: rest => rest.reverse
  | '\n' :: rest => rest.reverse
  | rest => rest.reverse

/-- The text that a line of input stands for: without its line end, and with its backspaces carried
out. -/
def lineText (line : List Char) : String := String.ofList (Text.applyBackspaces (stripLineEnd line))

/-- The answers to lines of input one after the other, none of them taking any time. -/
def answerLines (showTime : Nat → String) : List String → State → String
  | [], _ => ""
  | line :: lines, state =>
    let (answer, state) := answerLine showTime 0 line state
    answer ++ answerLines showTime lines state

/-- The lines of an input with their line ends; what follows the last line end counts if there is
anything. -/
def splitLines : List Char → List (List Char)
  | [] => []
  | c :: rest =>
    if c = '\n' then [c] :: splitLines rest
    else
      match splitLines rest with
      | [] => [[c]]
      | line :: lines => (c :: line) :: lines

/-- All that the program writes for its arguments and its input, if nothing takes any time. -/
def transcript (showTime : Nat → String) (args : List String) (input : String) (state : State) :
    String :=
  if args.isEmpty then
    answerLines showTime ((splitLines input.toList).map lineText) state
  else evaluateArguments args state

end Bracket.CommandLine
