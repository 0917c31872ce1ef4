import RollingHistory.Demo

/-! Prints the transcript of the demonstration. -/

/-- The command line takes no arguments. -/
def main : IO Unit := IO.print RollingHistory.Demo.transcript
