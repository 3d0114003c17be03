/-!
# Forms of command lines

A command line consists of options and operands. An option has names and may take a value; what is
not an option is an operand. The first operand of the whole program is a command, which has a form
of its own for what follows.
-/

namespace ImagePreload.CommandLine

/-- What an option is for. -/
inductive Purpose where
  | help
  | configFile
  | machineOutput
  | logLevel
  | noColor
  | kubeconfig
  deriving DecidableEq, Repr

structure OptionForm where
  purpose : Purpose
  names : List String
  takesValue : Bool := false
  /-- The values it takes, if not any. -/
  choices : Option (List String) := none

/-- The operands of a command. -/
inductive OperandForm where
  | none
  /-- Any number of names. -/
  | names
  /-- One of several words. -/
  | oneOf (title : String) (choices : List String)

/-- The form of the options of a program or a command. -/
structure Form where
  /-- The program, with its command if it has one. -/
  program : String
  usage : String
  /-- What follows the usage when help is asked for. -/
  explanation : String
  options : List OptionForm
  /-- Whether the beginning of a long name stands for it. -/
  abbreviates : Bool

/-- What a program does. -/
inductive CommandName where
  | cleanup
  | completion
  | images
  | preload
  | versionInfo
  deriving DecidableEq, Repr

namespace CommandName

def all : List CommandName := [.cleanup, .completion, .images, .preload, .versionInfo]

def word : CommandName → String
  | .cleanup => "cleanup"
  | .completion => "completion"
  | .images => "images"
  | .preload => "preload"
  | .versionInfo => "version-info"

def ofWord? (word : String) : Option CommandName := all.find? (·.word == word)

end CommandName

/-- Lines one below the other, each with its end. -/
def lines (ls : List String) : String := String.join (ls.map (· ++ "\n"))

/-- Words between braces. -/
def braced (words : List String) : String := "\x7b" ++ ",".intercalate words ++ "\x7d"

def commandWords : List String := CommandName.all.map CommandName.word

/-- How the choice of a command is called in messages. -/
def commandTitle : String := braced commandWords

def logLevelWords : List String := ["DEBUG", "INFO", "WARNING", "ERROR"]

def shells : List String := ["bash", "tcsh"]

def helpOption : OptionForm := { purpose := .help, names := ["-h", "--help"] }

/-- The form of the whole program. -/
def mainForm : Form where
  program := "kubepreload"
  usage := lines
    ["usage: kubepreload [-h] [-c CONFIG_FILE] [-m]",
      "                   [--log-level " ++ braced logLevelWords ++ "] [--no-color]",
      "                   [--kubeconfig KUBECONFIG]",
      "                   " ++ commandTitle ++ " ..."]
  explanation := lines
    ["options:",
      "  -h, --help            show this help message and exit",
      "  -c CONFIG_FILE, --config-file CONFIG_FILE",
      "                        Specify a non-default configuration file (default:",
      "                        None)",
      "  -m, --machine-output  Enable machine-readable JSON output (default: False)",
      "  --log-level " ++ braced logLevelWords,
      "                        Only log messages of this level or above on the",
      "                        console (default: INFO)",
      "  --no-color            Disable colorization of console logging (default:",
      "                        False)",
      "  --kubeconfig KUBECONFIG",
      "                        Kubeconfig file (overrides the configuration and the",
      "                        environment) (default: None)",
      "",
      "commands:",
      "  " ++ commandTitle,
      "    cleanup             Delete all pre-load staging namespaces",
      "    completion          Emit autocompletion script",
      "    images              List the images which would be pre-loaded",
      "    preload             Pre-load the images of jobs with pre-loading enabled",
      "    version-info        Program version information"]
  options :=
    [helpOption,
      { purpose := .configFile, names := ["-c", "--config-file"], takesValue := true },
      { purpose := .machineOutput, names := ["-m", "--machine-output"] },
      { purpose := .logLevel, names := ["--log-level"], takesValue := true,
        choices := some logLevelWords },
      { purpose := .noColor, names := ["--no-color"] },
      { purpose := .kubeconfig, names := ["--kubeconfig"], takesValue := true }]
  abbreviates := false

/-- The operands of a command. -/
def operandsOf : CommandName → OperandForm
  | .cleanup | .versionInfo => .none
  | .images | .preload => .names
  | .completion => .oneOf "shell" shells

/-- The form of a command. -/
def commandForm (command : CommandName) : Form :=
  let program := mainForm.program ++ " " ++ command.word
  let (operands, explanation) :=
    match operandsOf command with
    | .none =>
      ("",
        ["options:",
          "  -h, --help  show this help message and exit"])
    | .names =>
      (" [job ...]",
        ["positional arguments:",
          "  job         Job name (all jobs if not specified)",
          "",
          "options:",
          "  -h, --help  show this help message and exit"])
    | .oneOf _ choices =>
      (" " ++ braced choices,
        ["positional arguments:",
          "  " ++ braced choices ++ "  Shell",
          "",
          "options:",
          "  -h, --help   show this help message and exit"])
  { program
    usage := lines ["usage: " ++ program ++ " [-h]" ++ operands]
    explanation := lines explanation
    options := [helpOption]
    abbreviates := true }

/-- What is shown when help is asked for. -/
def Form.help (form : Form) : String := form.usage ++ "\n" ++ form.explanation

end ImagePreload.CommandLine
