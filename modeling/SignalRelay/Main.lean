import SignalRelay.CommandLine.Report

/-!
# The program

Reads the command line and the environment, and either ends with a report or shows the
settings in effect.
-/

namespace SignalRelay

/-- The variables of the environment that options look at, with their values. -/
def readEnvironment : IO (List (String × String)) :=
  CommandOption.all.filterMapM fun option =>
    match option.variableName? with
    | none => pure none
    | some name => do
        let value? ← IO.getEnv name
        pure (value?.map fun value => (name, value))

/-- Print how the program ends. -/
def finish (ending : Ending) : IO UInt32 := do
  (← IO.getStdout).putStr ending.output
  (← IO.getStderr).putStr ending.errors
  pure (UInt32.ofNat ending.status)

/-- Check the settings, and show them if they are in order. -/
def run (arguments : List String) : IO UInt32 := do
  let environment ← readEnvironment
  match CommandLine.start arguments (environment.lookup ·) with
  | .error ending => finish ending
  | .ok settings => finish ⟨0, settings.report, ""⟩

end SignalRelay

/-- The entry point. -/
def main (arguments : List String) : IO UInt32 :=
  SignalRelay.run arguments
