import Transcode.CommandLine.Layout
import Transcode.CommandLine.Switch

/-!
# Help

What the program says about its own use: the form of the command line, which comes before every
complaint about it, and the explanation of the switches with some examples. Both are laid out for
the width of the terminal, with two columns of it left free.

## Main definitions

* `usage` — the form of the command line;
* `help` — the form of the command line, with the explanations.
-/

namespace Transcode.CommandLine

/-- The name of the program. -/
def program : String := "ffmpeg-preset"

/-- What comes before the form of the command line. -/
def usageHead : String := "usage: "

/-- The widest line for a terminal. -/
def lineWidth (terminal : Nat) : Nat :=
  terminal - 2

namespace Switch

/-- A spelling of a switch, with what stands for its value. -/
def withValue (switch : Switch) (spelling : String) : String :=
  match switch.valueName? with
  | some name => spelling ++ " " ++ name
  | none => spelling

/-- A switch in the form of the command line: its first spelling in brackets, as it can be left
out. -/
def optional (switch : Switch) : String :=
  "[" ++ switch.withValue (switch.spellings.headD "") ++ "]"

/-- A switch where it is explained: all its `Switch.spellings`, with its value. -/
def heading (switch : Switch) : String :=
  Text.join ", " (switch.spellings.map switch.withValue)

/-- What a switch is for, in words that can be put on lines. -/
def purpose : Switch → List String
  | .help => ["show", "this", "help", "message", "and", "exit"]
  | .listPresets => ["列出所有受支持的预设"]
  | .preset => ["预设名称或自定义", "FFmpeg", "参数", "(默认:", "复制音视频流)"]
  | .input => ["输入文件路径"]
  | .output => ["输出文件路径"]
  | .config => ["配置文件路径"]
  | .logLevel => ["日志级别", "(默认:", "取配置)"]

end Switch

/-! ### The form of the command line -/

/-- The switches on lines, by `fill`. They follow the name of the program where that takes up no
more than three quarters of a line, and otherwise begin on a line of their own. -/
def usageLines (width : Nat) : List String :=
  let parts := Switch.all.map Switch.optional
  let start := usageHead.length + program.length
  if start + 1 + (Text.join " " parts).length ≤ width then
    [usageHead ++ Text.join " " (program :: parts)]
  else if 4 * start ≤ 3 * width then
    match fillFrom width (start + 1) start [program] parts with
    | [] => []
    | first :: rest =>
      (usageHead ++ Text.join " " first)
        :: rest.map fun line => indented (start + 1) (Text.join " " line)
  else (usageHead ++ program) :: fill width usageHead.length parts

/-- The form of the command line: its `usageLines`, with their ends. -/
def usage (terminal : Nat) : String :=
  String.join ((usageLines (lineWidth terminal)).map (· ++ "\n"))

/-! ### Explanations -/

/-- How far a switch is indented. -/
def headingIndent : Nat := 2

/-- How far the `purpose` of a switch is indented: as far as there are still twenty columns for it,
but not too little and not too much. -/
def purposeIndent (width : Nat) : Nat :=
  min 24 (max 4 (width - 20))

/-- The least width of the `purpose` of a switch. -/
def leastPurposeWidth : Nat := 11

/-- The lines for a switch: its `heading` and its `purpose`, which begins on the same line if there
is room before it. -/
def switchLines (width : Nat) (switch : Switch) : List String :=
  let indent := purposeIndent width
  let heading := indented headingIndent switch.heading
  let purpose := fill (max leastPurposeWidth (width - indent)) 0 switch.purpose
  match purpose with
  | first :: rest =>
    if heading.length + 2 ≤ indent then
      (heading ++ blanks (indent - heading.length) ++ first) :: rest.map (indented indent)
    else heading :: purpose.map (indented indent)
  | [] => [heading]

/-- What the program does, before its switches. -/
def introduction : List String :=
  ["", "FFmpeg Preset - 把预设翻译为 FFmpeg 参数", "", "options:"]

/-- Examples, after the switches. -/
def examples : List String :=
  ["",
    "示例:",
    "  # 查看可用预设",
    "  ffmpeg-preset --list-presets",
    "",
    "  # 查看预设对应的输入/输出参数",
    "  ffmpeg-preset --preset h265-nvidia-low",
    "",
    "  # 生成完整命令",
    "  ffmpeg-preset -p av1-amd -i video.mkv -o output.mkv",
    "",
    "  # 使用自定义参数",
    "  ffmpeg-preset -p \"-c:v libx265 -crf 28\"",
    "        "]

/-- The lines of the answer to `Switch.help`: the `usage`, the `introduction`, the `switchLines` and
the `examples`. -/
def help (terminal : Nat) : List String :=
  let width := lineWidth terminal
  usageLines width ++ introduction ++ Switch.all.flatMap (switchLines width) ++ examples

end Transcode.CommandLine
