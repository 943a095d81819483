import LambdaQuery.Command.Run

/-!
# The command line

Prints what a run of the command line leaves behind.  The program has no network of its own, so a
query that is sent fails to connect; a dry run needs none.
-/

set_option autoImplicit false

/-- Runs the command line. -/
def main (arguments : List String) : IO UInt32 := do
  let output := LambdaQuery.Command.run .unreachable arguments
  IO.print output.stdout
  IO.eprint output.stderr
  return output.exit
