import Transcode.Encoder.Arguments
import Transcode.Value.Basic

/-!
# Encoder commands

A whole command is the program, the flag that lets it overwrite the output, and the two paths, each
after its arguments. The program comes from the settings, where any value may stand, so the items of
a command are values.
-/

namespace Transcode

/-- The command that encodes an input to an output. -/
def Arguments.command (a : Arguments) (program input output : Value) : List Value :=
  [program, .text "-y"] ++ a.input.map .text ++ [.text "-i", input] ++ a.output.map .text
    ++ [output]

end Transcode
