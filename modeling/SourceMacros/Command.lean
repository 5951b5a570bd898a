import SourceMacros.Report

/-! The command line: what is asked for, and what is printed. -/

namespace SourceMacros

inductive Topic where
  | program
  | expand
  | list
  | help
  deriving DecidableEq

inductive Command where
  | samples
  | list
  | version
  | help (topic : Topic)
  | expand (source : String) (asJson : Bool) (configPath : Option String)
  deriving DecidableEq

structure Request where
  source : Option String := none
  asJson : Bool := false
  configPath : Option String := none

/-- What is printed, and the code the program ends with. -/
structure Reply where
  exit : UInt32
  output : String
  deriving DecidableEq

namespace Request

/-- A single hyphen is no option. -/
def isOption (word : String) : Bool := word != "-" && word.toList.head? == some '-'

/-- Whether a word is an option of one letter; more letters may follow it. -/
def isShort (letter : Char) (word : String) : Bool := ['-', letter].isPrefixOf word.toList

def asksHelp (word : String) : Bool := word == "--help" || isShort 'h' word

def asksVersion (word : String) : Bool := word == "--version" || isShort 'V' word

def addSource (r : Request) (word : String) : Option Request :=
  if r.source.isSome then none else some { r with source := some word }

def addJson (r : Request) : Option Request :=
  if r.asJson then none else some { r with asJson := true }

def addConfig (r : Request) (path : String) : Option Request :=
  if r.configPath.isSome || path.isEmpty then none else some { r with configPath := some path }

/-- The value in an option that is spelled `--config=value`. -/
def attachedConfig? (word : String) : Option String :=
  let option := "--config=".toList
  if word.toList.take option.length = option then
    some (String.ofList (word.toList.drop option.length))
  else none

def command? (r : Request) : Option Command := do
  return .expand (← r.source) r.asJson r.configPath

/-- Options may stand anywhere, each once at most; after `--` there are none. What follows a request
for help does not count. -/
def commandOf? (r : Request) : List String → Option Command
  | [] => r.command?
  | ["--", word] => do (← r.addSource word).command?
  | ["--"] => r.command?
  | "--" :: _ => none
  | "--json" :: words => do commandOf? (← r.addJson) words
  | "--config" :: path :: words =>
    if isOption path then none else do commandOf? (← r.addConfig path) words
  | word :: words =>
    match attachedConfig? word with
    | some path => do commandOf? (← r.addConfig path) words
    | none =>
      if asksHelp word then some (.help .expand)
      else if isOption word then none
      else do commandOf? (← r.addSource word) words

end Request

namespace Command

def listOf? : List String → Option Command
  | [] => some .list
  | ["--"] => some .list
  | word :: _ => if Request.asksHelp word then some (.help .list) else none

def topicOf? : List String → Option Topic
  | [] => some .program
  | ["expand"] => some .expand
  | ["list"] => some .list
  | ["help"] => some .help
  | _ => none

/-- The command that some words spell, if they spell one. -/
def ofWords? : List String → Option Command
  | [] => some .samples
  | ["--"] => some .samples
  | "expand" :: words => Request.commandOf? {} words
  | "list" :: words => listOf? words
  | "help" :: words => (topicOf? words).map .help
  | word :: _ =>
    if Request.asksVersion word then some .version
    else if Request.asksHelp word then some (.help .program)
    else none

def configPath? : Command → Option String
  | .expand _ _ path => path
  | _ => none

def sampleSources : List String :=
  ["#doubleValue(10)",
    "#doubleValue(\"ten\")",
    "#generateStruct(\"Point\", fields: [\"x\": \"Int\", \"y\": \"Int\"])",
    "#generateStruct(\"point\", fields: [\"x\": \"Int\"])",
    "@Singleton\nclass NetworkManager \x7b\n    var retries: Int\n\x7d",
    "@Singleton\nstruct Settings \x7b\n\x7d"]

def sampleText : String :=
  "\n".intercalate (sampleSources.map fun source => (Report.ofSource source {}).plain)

def listLine (e : MacroEntry) : String :=
  e.name ++ String.ofList (List.replicate (16 - e.name.length) ' ') ++ " " ++ e.role.name ++ "\n"

def listText : String :=
  String.join ((Registry.standard.names.filterMap Registry.standard.get?).map listLine)

def helpLead (about usage : String) : List String :=
  [about, "", "Usage: macros-demo " ++ usage, ""]

def helpLines : Topic → List String
  | .program =>
    helpLead "宏展开演示" "[COMMAND]" ++
      ["Commands:",
        "  expand  展开一段宏调用或带属性宏的声明",
        "  list    列出已注册的宏",
        "  help    Print this message or the help of the given subcommand(s)",
        "",
        "Options:",
        "  -h, --help     Print help",
        "  -V, --version  Print version"]
  | .expand =>
    helpLead "展开一段宏调用或带属性宏的声明" "expand [OPTIONS] <SOURCE>" ++
      ["Arguments:",
        "  <SOURCE>  源码，如 `#doubleValue(10)` 或 `@Singleton class Foo \x7b\x7d`",
        "",
        "Options:",
        "      --json           以 JSON 输出结果或诊断",
        "      --config <FILE>  JSON 格式的展开配置文件",
        "  -h, --help           Print help"]
  | .list =>
    helpLead "列出已注册的宏" "list" ++
      ["Options:",
        "  -h, --help  Print help"]
  | .help =>
    helpLead "Print this message or the help of the given subcommand(s)" "help [COMMAND]..." ++
      ["Arguments:",
        "  [COMMAND]...  Print help for the subcommand(s)"]

def helpText (topic : Topic) : String := String.join ((helpLines topic).map (· ++ "\n"))

def place : Location := ⟨"<command line>", 1, 1⟩

def expandReply (source : String) (asJson : Bool) (config : Config) : Reply :=
  let report := Report.ofSource source ⟨config, some place⟩
  ⟨if report.isSuccess then 0 else 1, report.render asJson⟩

/-- The configuration that a path stands for, where `contents` is the text of its file if it can be read. -/
def loaded (path contents : Option String) : Except ConfigError Config :=
  match path with
  | some _ => Config.load contents
  | none => .ok {}

def reply (command : Command) (contents : Option String) : Reply :=
  match command with
  | .samples => ⟨0, sampleText⟩
  | .list => ⟨0, listText⟩
  | .version => ⟨0, "macros-demo 0.1.0\n"⟩
  | .help topic => ⟨0, helpText topic⟩
  | .expand source asJson path =>
    match loaded path contents with
    | .ok config => expandReply source asJson config
    | .error _ => ⟨1, ""⟩

/-- The reply to words that spell no command. -/
def misuse : Reply := ⟨2, ""⟩

/-- The reply to the words that the program is given. -/
def run (words : List String) (contents : Option String) : Reply :=
  match ofWords? words with
  | some command => command.reply contents
  | none => misuse

end Command
end SourceMacros
