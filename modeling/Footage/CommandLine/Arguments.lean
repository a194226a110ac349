import Footage.Codec
import Footage.Decimal.Reading
import Footage.Export.File

/-!
# Arguments

The first argument that is no option names the command. Options are long, `--input x` or
`--input=x`, or short, `-i x`, `-ix` or `-i=x`; short ones without value can share a dash. An
option comes at most once, and its value must not look like an option unless it is attached.
-/

namespace Footage.CommandLine

/-- Where a command's packets come from. -/
structure Input where
  /-- A byte stream, or the folder of a dump. -/
  path : String
  codec : Codec
  /-- Pictures per second of a byte stream. -/
  rate : Float

inductive Command where
  /-- Describe the input, perhaps packet by packet. -/
  | info (input : Input) (perPacket asJson : Bool)
  /-- Write a container file. Without a format its name tells. -/
  | save (input : Input) (output : String) (format : Option ContainerFormat)
  /-- Write each NAL unit to a file of its own. -/
  | dump (input : Input) (output : String)
  /-- Write a byte stream. -/
  | join (input : Input) (output : String)
  /-- Bring one raw NAL unit into byte stream form. -/
  | escape (input output : String) (codeLength : Nat)
  /-- The reverse. -/
  | unescape (input output : String)
  /-- Send the input through a ring buffer and record from packet `startAfter` on. -/
  | record (input : Input) (output : String) (history : Option Duration) (startAfter : Nat)

/-- Why no command is run. -/
inductive Stop where
  /-- The arguments make no sense. -/
  | misuse
  | help
  | version
deriving DecidableEq, Repr

/-! ## Options -/

inductive OptionKind where
  | flag
  /-- The option takes a value of these. -/
  | value (accepts : String → Bool)
  /-- Nothing after the option counts. -/
  | stop (reason : Stop)

structure OptionRule where
  name : String
  letter : Option Char := none
  kind : OptionKind

/-- The options given, with their values. -/
abbrev Given := List (String × String)

/-- Notes an option with its value, which is empty for a flag. -/
def give (rule : OptionRule) (value : String) (given : Given) : Except Stop Given :=
  let isNew := (given.lookup rule.name).isNone
  match rule.kind with
  | .flag => if isNew then .ok ((rule.name, value) :: given) else .error .misuse
  | .value accepts =>
    if isNew && accepts value then .ok ((rule.name, value) :: given) else .error .misuse
  | .stop reason => .error reason

/-- An option without attached value: a flag is noted, any other one is the second part of the
answer and waits for its value. -/
def withoutValue (rule : OptionRule) (given : Given) : Except Stop (Given × Option OptionRule) :=
  match rule.kind with
  | .value _ => .ok (given, some rule)
  | _ => (give rule "" given).map fun given => (given, none)

/-- The option whose name follows two dashes. -/
def longOption (rules : List OptionRule) (given : Given) (text : List Char) :
    Except Stop (Given × Option OptionRule) :=
  let name := String.ofList (text.takeWhile (· ≠ '='))
  match rules.find? (·.name = name), text.dropWhile (· ≠ '=') with
  | none, _ => .error .misuse
  | some rule, [] => withoutValue rule given
  | some rule, _ :: value =>
    match rule.kind with
    | .value _ => (give rule (String.ofList value) given).map fun given => (given, none)
    | _ => .error .misuse

/-- The options whose letters follow one dash. -/
def shortOptions (rules : List OptionRule) (given : Given) :
    List Char → Except Stop (Given × Option OptionRule)
  | [] => .ok (given, none)
  | letter :: rest =>
    match rules.find? (·.letter = some letter) with
    | none => .error .misuse
    | some rule =>
      match rule.kind, rest with
      | .value _, [] => .ok (given, some rule)
      | .value _, '=' :: value | .value _, value =>
        (give rule (String.ofList value) given).map fun given => (given, none)
      | _, _ => do shortOptions rules (← give rule "" given) rest

/-- A lone dash is no option. -/
def looksLikeOption (argument : String) : Bool := argument.startsWith "-" && argument ≠ "-"

/-- Notes options up to the first argument that is none; the rest from there on is the second part
of the answer. -/
def scan (rules : List OptionRule) (given : Given) : List String → Except Stop (Given × List String)
  | [] => .ok (given, [])
  | argument :: rest => do
    if !looksLikeOption argument then return (given, argument :: rest)
    if argument = "--" then
      if rest.isEmpty then return (given, [])
      throw .misuse
    let (given, waiting) ← match argument.toList with
      | '-' :: '-' :: text => longOption rules given text
      | text => shortOptions rules given (text.drop 1)
    match waiting, rest with
    | none, rest => scan rules given rest
    | some _, [] => throw .misuse
    | some rule, value :: rest =>
      if looksLikeOption value then throw .misuse
      scan rules (← give rule value given) rest

/-! ## The options of each command -/

def isText (text : String) : Bool := text ≠ ""
def isWhole (text : String) : Bool := (Decimal.whole? text.toList).isSome

def formatOf? : String → Option ContainerFormat
  | "ts" => some .transportStream
  | "mp4" => some .mp4
  | _ => none

def helpRule : OptionRule := ⟨"help", some 'h', .stop .help⟩
def versionRule : OptionRule := ⟨"version", some 'V', .stop .version⟩
def configRule : OptionRule := ⟨"config", none, .value isText⟩
def inputRule : OptionRule := ⟨"input", some 'i', .value isText⟩
def outputRule : OptionRule := ⟨"output", some 'o', .value isText⟩

def inputRules : List OptionRule := [inputRule,
  ⟨"codec", none, .value fun text => (Codec.ofName? text).isSome⟩,
  ⟨"fps", none, .value fun text => (Decimal.parse? text).isSome⟩]

/-- The options of a command besides help and settings. -/
def rulesOf? : String → Option (List OptionRule)
  | "info" => some (inputRules ++ [⟨"verbose", some 'v', .flag⟩, ⟨"json", none, .flag⟩])
  | "export" => some (inputRules ++
      [outputRule, ⟨"format", none, .value fun text => (formatOf? text).isSome⟩])
  | "dump" | "join" => some (inputRules ++ [outputRule])
  | "escape" => some [inputRule, outputRule, ⟨"start-code", none, .value isWhole⟩]
  | "unescape" => some [inputRule, outputRule]
  | "record" => some (inputRules ++ [outputRule, ⟨"history-ms", none, .value isWhole⟩,
      ⟨"start-after", none, .value isWhole⟩, ⟨"realtime", none, .flag⟩])
  | _ => none

namespace Given

def has (given : Given) (name : String) : Bool := (given.lookup name).isSome

def whole? (given : Given) (name : String) : Option Nat :=
  (given.lookup name).bind fun text => Decimal.whole? text.toList

def input? (given : Given) : Option Input :=
  (given.lookup "input").map fun path =>
    { path
      codec := ((given.lookup "codec").bind Codec.ofName?).getD .h264
      rate := ((given.lookup "fps").bind Decimal.parse?).getD 25 }

/-- The command, if no option that it needs is missing. -/
def command? (given : Given) (name : String) : Option Command := do
  let input ← given.input?
  if name = "info" then return .info input (given.has "verbose") (given.has "json")
  let output ← given.lookup "output"
  match name with
  | "export" => return .save input output ((given.lookup "format").bind formatOf?)
  | "dump" => return .dump input output
  | "join" => return .join input output
  | "escape" => return .escape input.path output ((given.whole? "start-code").getD 3)
  | "unescape" => return .unescape input.path output
  | "record" =>
    let history := (given.whole? "history-ms").map Duration.ofMillis
    return .record input output history ((given.whole? "start-after").getD 50)
  | _ => none

end Given

def Command.paths : Command → List String
  | .info input _ _ => [input.path]
  | .save input output _ | .dump input output | .join input output | .record input output _ _ =>
    [input.path, output]
  | .escape input output _ | .unescape input output => [input, output]

/-- A command, and the file with the settings for it. -/
structure Invocation where
  settings : Option String
  command : Command

def Invocation.paths (invocation : Invocation) : List String :=
  invocation.settings.toList ++ invocation.command.paths

/-- Help is on the program or on one command. -/
def helpOn : (topic : List String) → Stop
  | [] => .help
  | [name] => if name = "help" || (rulesOf? name).isSome then .help else .misuse
  | _ => .misuse

/-- What the arguments ask for. The settings can be named before and after the command; what comes
after it counts. -/
def Invocation.parse (arguments : List String) : Except Stop Invocation := do
  let (general, rest) ← scan [helpRule, versionRule, configRule] [] arguments
  match rest with
  | [] => throw .misuse
  | "help" :: topic => throw (helpOn topic)
  | name :: rest =>
    let some rules := rulesOf? name | throw .misuse
    let (given, rest) ← scan ([helpRule, configRule] ++ rules) [] rest
    let some command := given.command? name | throw .misuse
    if !rest.isEmpty then throw .misuse
    return ⟨given.lookup "config" <|> general.lookup "config", command⟩

def usage : String := "Usage: vigil [--config FILE] COMMAND [OPTIONS]

Commands:
  info      Print stream parameters: -i INPUT [-v] [--json]
  export    Write an MPEG-TS or MP4 file: -i INPUT -o FILE [--format ts|mp4]
  dump      Write every NAL unit to its own file: -i INPUT -o FOLDER
  join      Write a byte stream: -i INPUT -o FILE
  escape    Escape a raw NAL unit: -i FILE -o FILE [--start-code 0|3|4]
  unescape  Remove the escapes of a NAL unit: -i FILE -o FILE
  record    Record through a ring buffer: -i INPUT -o FILE [--history-ms N] [--start-after N]

Inputs are byte streams or folders with dumps; [--codec NAME] and [--fps RATE] describe them."

end Footage.CommandLine
