import RouteBindings.CommandLine.Arguments
import RouteBindings.Text.Escaped

namespace RouteBindings

inductive Listed where
  | plain (s : String)
  | list (items : List Listed)
  | wrapped (label : String) (item : Listed)
  | record (label : String) (fields : List (String × Listed))

namespace Listed

def quoted (s : String) : Listed :=
  plain (Text.escaped s)

def flag (b : Bool) : Listed :=
  plain (if b then "true" else "false")

def optional : Option String → Listed
  | none => plain "None"
  | some s => wrapped "Some" (quoted s)

def withComma : List String → List String
  | [] => []
  | [line] => [line ++ ","]
  | line :: rest => line :: withComma rest

def nested (lines : List String) : List String :=
  (withComma lines).map ("    " ++ ·)

def named (name : String) : List String → List String
  | [] => []
  | line :: rest => (name ++ ": " ++ line) :: rest

mutual
def lines : Listed → List String
  | plain s => [s]
  | list [] => ["[]"]
  | list items => "[" :: linesOf items ++ ["]"]
  | wrapped label item => (label ++ "(") :: nested item.lines ++ [")"]
  | record label fields => (label ++ " \x7b") :: fieldLines fields ++ ["\x7d"]

def linesOf : List Listed → List String
  | [] => []
  | item :: rest => nested item.lines ++ linesOf rest

def fieldLines : List (String × Listed) → List String
  | [] => []
  | (name, value) :: rest => nested (named name value.lines) ++ fieldLines rest
end

end Listed

def Sources.listed (sources : Sources) : Listed :=
  .record "InputSettings"
    [("routes", .quoted sources.routes), ("signatures", .list (sources.signatures.map .quoted))]

namespace GenerateOptions

def listed (options : GenerateOptions) : Listed :=
  .record "GenerateOut"
    [("input_settings", options.sources.listed), ("out", .optional options.out),
      ("runtime_out", .optional options.runtimeOut), ("strict", .flag options.strict),
      ("no_op", .flag options.noOp)]

def listing (options : GenerateOptions) (logLevel : String) : String :=
  let all := Listed.record "CommandLineInterface"
    [("log_level", .quoted logLevel), ("cmd", .wrapped "Generate" options.listed)]
  String.join (all.lines.map (· ++ "\n"))

end GenerateOptions

end RouteBindings
