import CodeHighlight.CommandLine.Arguments
import CodeHighlight.Language.Detection

/-! # Requests

What the arguments ask for. To list themes comes before to list languages, and either before to
highlight; code without a path comes from the standard input and needs its language named.
-/
namespace CodeHighlight.CommandLine

inductive Input where
  | stdin
  | file (path : String)
deriving DecidableEq, Repr

inductive Action where
  | listThemes
  | listLanguages
  | highlight (input : Input) (language : String)
deriving DecidableEq, Repr

structure Request where
  action : Action
  theme : Option String
  /-- Otherwise the configuration decides. -/
  strict : Bool
  timeout : Option Nat
  config : Option String
  manifests : List String
deriving DecidableEq, Repr

inductive RequestFailure where
  | undetectedLanguage (path : String)
  | unnamedLanguage
deriving DecidableEq, Repr

def RequestFailure.message : RequestFailure → String
  | undetectedLanguage path => "Cannot detect language of " ++ path ++ "; pass --language"
  | unnamedLanguage => "--language is required when reading stdin"

/-- A lone hyphen stands for the standard input. -/
def Input.ofPath : Option String → Input
  | none => stdin
  | some path => if path = "-" then stdin else file path

/-- The language that was named, or else the one that the path shows. -/
def Input.language (input : Input) : Option String → Except RequestFailure String
  | some language => .ok language
  | none =>
    match input with
    | stdin => .error .unnamedLanguage
    | file path =>
      match languageForPath? path with
      | some language => .ok language
      | none => .error (.undetectedLanguage path)

def Action.ofArguments (arguments : Arguments) : Except RequestFailure Action :=
  if arguments.listThemes then .ok .listThemes
  else if arguments.listLanguages then .ok .listLanguages
  else
    let input := Input.ofPath arguments.path
    return .highlight input (← input.language arguments.language)

def Request.ofArguments (arguments : Arguments) : Except RequestFailure Request := do
  return {
    action := ← Action.ofArguments arguments
    theme := arguments.theme
    strict := arguments.strict
    timeout := arguments.timeout
    config := arguments.config
    manifests := arguments.manifests }

end CodeHighlight.CommandLine
