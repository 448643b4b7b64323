import Targeting.Command.Arguments
import Targeting.Text.Split
import Targeting.Text.Steering

/-!
# Texts on the usage
-/

namespace Targeting.Command

def program : String := "splitter-eval"

def join (words : List String) : String := String.intercalate " " words

def generalUsage : String :=
  join (["Usage:", program, "[OPTIONS]"] ++ Switch.required.map Switch.shown)

/-- With the optional switches in use; none in use stands for any. -/
def usage (used : List Switch) : String :=
  let extra := used.filter fun s => !Switch.required.contains s
  if used.isEmpty then generalUsage
  else join (["Usage:", program] ++ (Switch.required ++ extra).map Switch.shown)

def anyValued : String :=
  let valued := Switch.all.filter fun s => s.placeholder?.isSome
  "<" ++ String.intercalate "|" (valued.map Switch.shown) ++ ">"

/-- Besides the switch at fault any others, if some are in use, or else those that are
required. -/
def usageBeside (s : Switch) (used : List Switch) : String :=
  if used.isEmpty then usage [s] else join ["Usage:", program, s.shown, anyValued]

def hint : String := "For more information, try '--help'."

namespace Refusal

def reason : Refusal → String
  | .help => ""
  | .missing switches _ =>
    "the following required arguments were not provided:" ++
      String.join (switches.map fun s => "\n  " ++ s.shown)
  | .unexpected argument similar _ =>
    "unexpected argument '" ++ Text.shown argument ++ "' found" ++
      match similar with
      | some s => "\n\n  tip: a similar argument exists: '--" ++ s.name ++ "'"
      | none => ""
  | .noValue s => "a value is required for '" ++ s.shown ++ "' but none was supplied"
  | .repeated s => "the argument '" ++ s.shown ++ "' cannot be used multiple times"
  | .extraValue value s _ =>
    "unexpected value '" ++ Text.shown value ++ "' for '" ++ s.shown ++ "' found; no more were expected"

def usage? : Refusal → Option String
  | .help | .noValue _ => none
  -- what is missing counts as used
  | .missing switches used => some (usage (used ++ switches))
  | .unexpected _ _ used => some (usage used)
  | .repeated _ => some generalUsage
  | .extraValue _ s used => some (usageBeside s used)

def message (r : Refusal) : String :=
  String.intercalate "\n\n" (["error: " ++ r.reason] ++ r.usage?.toList ++ [hint])

end Refusal

def summary : Switch → String
  | .criteria => "条件树 JSON 文件"
  | .request => "请求 JSON 文件"
  | .configDir => "配置目录"
  | .geo => "静态 GeoIP 表 JSON 文件（地址 -> \x7bcountry, region, city\x7d）"
  | .help => "Print help"

def margin : Nat := 33

def column (s : Switch) : String :=
  let text := (if s = .help then "  -h, " else "      ") ++ s.shown
  text ++ "".pushn ' ' (margin - text.length)

def help (environment : Assoc String) : String :=
  let defaults :=
    " [env: " ++ Arguments.configVariable ++ "=" ++
      (environment.get? Arguments.configVariable).getD "" ++
      "] [default: " ++ Arguments.configDefault ++ "]"
  let line (s : Switch) : String :=
    let text := summary s ++ (if s = .configDir then defaults else "")
    column s ++ Text.shown (Text.setIn ("".pushn ' ' margin) text) ++ "\n"
  "Evaluate a splitter criteria tree against a request\n\n" ++ generalUsage ++ "\n\nOptions:\n" ++
    String.join (Switch.all.map line)

end Targeting.Command
