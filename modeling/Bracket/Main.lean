import Bracket.CommandLine
import Std.Time.DateTime.Timestamp

/-!
The program: evaluates its arguments, or the lines of its input.
-/

open Bracket

/-- The date of the system's clock. -/
def currentDate : IO Date := do
  let now ← Std.Time.Timestamp.now
  let nanoseconds := now.toNanosecondsSinceUnixEpoch.toInt
  let seconds := nanoseconds / 1000000000
  return ⟨seconds / 86400, (seconds % 86400).toNat, (nanoseconds % 1000000000).toNat⟩

/-- Answers the lines of the input as they come. -/
partial def answerInput (input output : IO.FS.Stream) (state : CommandLine.State) : IO Unit := do
  let line ← input.getLine
  if line.isEmpty then return
  let line := CommandLine.lineText line.toList
  let state := (state.1, { state.2 with now := ← currentDate })
  if CommandLine.asksForStats line then
    output.putStr (CommandLine.statsText CommandLine.millisText state.1.stats)
    answerInput input output state
  else
    let start ← IO.monoNanosNow
    let (result, state) := (Session.compute CommandLine.fuel line []).run.run state
    output.putStr (CommandLine.resultText (result.map fun evaluated => evaluated.map Prod.snd))
    let elapsed := (← IO.monoNanosNow) - start
    let state := if result.isOk then ((Session.record line elapsed).run.run state).2 else state
    answerInput input output state

def main (args : List String) : IO Unit := do
  let state := CommandLine.start (← currentDate)
  let output ← IO.getStdout
  if args.isEmpty then answerInput (← IO.getStdin) output state
  else output.putStr (CommandLine.evaluateArguments args state)
