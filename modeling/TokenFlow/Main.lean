/-
# TokenFlow.Main -- the command

The program around `CommandLine.run`: it takes the clock and random octets from
the system, and runs where nobody answers and no browser can be opened.
-/
import TokenFlow.CommandLine

set_option autoImplicit false

open TokenFlow

/-- More random octets than one login draws. -/
def drawnOctets : USize := 1024

def main (line : List String) : IO UInt32 := do
  let octets ← IO.getRandomBytes drawnOctets
  let milliseconds ← IO.monoMsNow
  let clock := Number.Binary64.ofDecimal false milliseconds (-3)
  let world := World.quiet clock (.ofOctets octets.toList)
  let noBrowser : Visit := ⟨.error, fun _ => [], fun _ => []⟩
  let (report, _) := CommandLine.run line { world with visits := [noBrowser] }
  IO.eprint report.errors
  IO.print report.output
  match report.exit with
  | .ok status => pure (UInt32.ofNat status)
  | .error fault =>
      IO.eprintln (fault.message?.getD "stopped")
      pure 1
