import CodeHighlight.CommandLine.Arguments

/-! # Outcomes

How a run ends: what is written to the standard output and to the standard error, and the exit code,
which is 2 for arguments that are not understood and 1 for what fails later.
-/
namespace CodeHighlight.CommandLine

/-- What was tried, and what came in the way, the most general cause first. -/
structure Report where
  attempt : String
  causes : List String
deriving DecidableEq, Repr

namespace Report

/-- Further lines of a cause stand below its first one. -/
def indent (margin text : String) : String :=
  String.intercalate ("\n" ++ margin) (text.splitOn "\n")

/-- Several causes are numbered. -/
def causeLines : List String → List String
  | [cause] => ["    " ++ indent "    " cause]
  | causes => causes.mapIdx fun index cause =>
    "".pushn ' ' (5 - (toString index).length) ++ toString index ++ ": " ++ indent "       " cause

def text (report : Report) : String :=
  "Error: " ++ report.attempt ++
    if report.causes.isEmpty then ""
    else "\n\nCaused by:\n" ++ String.intercalate "\n" (causeLines report.causes)

end Report

inductive Outcome where
  | stopped (stop : Stop)
  | failed (report : Report)
  | printed (text : String)
deriving DecidableEq, Repr

namespace Outcome

def ofExcept : Except Report String → Outcome
  | .ok text => printed text
  | .error report => failed report

def usage : String :=
  "Usage: treelight [OPTIONS] [PATH]\n"

def helpText : String :=
  "Tree-sitter syntax highlighting to HTML\n\n" ++ usage ++
    "\nArguments:\n" ++
    "  [PATH]  File to highlight (reads stdin when omitted or \"-\")\n" ++
    "\nOptions:\n" ++
    "  -l, --language <ID>         Language id (detected from the file extension when omitted)\n" ++
    "  -t, --theme <ID>            Theme id (falls back to the configured default)\n" ++
    "      --strict                Fail instead of printing unhighlighted code\n" ++
    "      --timeout-ms <N>        Give up parsing after N milliseconds\n" ++
    "      --config <FILE>         Config file (defaults to ~/.config/treelight/config.yaml)\n" ++
    "      --language-file <FILE>  Language manifest (YAML or JSON) to register; repeatable\n" ++
    "      --list-themes           Print registered theme ids and exit\n" ++
    "      --list-languages        Print registered language ids and exit\n" ++
    "  -h, --help                  Print help\n" ++
    "  -V, --version               Print version\n"

def versionText : String := "treelight 0.3.0\n"

def exitCode : Outcome → Nat
  | stopped .help | stopped .version | printed _ => 0
  | stopped _ => 2
  | failed _ => 1

def stdout : Outcome → String
  | stopped .help => helpText
  | stopped .version => versionText
  | printed text => text
  | stopped _ | failed _ => ""

def stderr : Outcome → String
  | stopped .help | stopped .version | printed _ => ""
  | stopped .unknownArgument => "error: unexpected argument\n\n" ++ usage
  | stopped .missingValue => "error: a value is required\n\n" ++ usage
  | stopped .invalidNumber => "error: invalid value for '--timeout-ms <N>'\n\n" ++ usage
  | stopped .repeated => "error: an argument cannot be used multiple times\n\n" ++ usage
  | stopped .surplusValue => "error: unexpected value\n\n" ++ usage
  | failed report => report.text ++ "\n"

end Outcome

end CodeHighlight.CommandLine
