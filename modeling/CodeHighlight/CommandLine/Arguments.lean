/-! # Command line arguments

Arguments are judged from left to right. Options take one value, which is part of the argument or
the next one; flags take none; what is neither is the path, of which there is one. An option or flag
is given at most once, manifests excepted.

A value that stands apart from its option, and the path, are looked at late: when the next part that
is understood comes up, or at the end. So an argument that is not understood at all is reported
before a bad value in front of it.
-/
namespace CodeHighlight.CommandLine

inductive Slot where
  | path
  | language
  | theme
  | timeout
  | config
  | manifest
deriving DecidableEq, Repr

inductive Flag where
  | strict
  | listThemes
  | listLanguages
  | help
  | version
deriving DecidableEq, Repr

/-- Why the arguments are not acted upon. -/
inductive Stop where
  | help
  | version
  | unknownArgument
  /-- An option without its value, or an empty path. -/
  | missingValue
  | invalidNumber
  | repeated
  /-- A flag with a value. -/
  | surplusValue
deriving DecidableEq, Repr

structure Arguments where
  path : Option String
  language : Option String
  theme : Option String
  strict : Bool
  /-- In milliseconds. -/
  timeout : Option Nat
  config : Option String
  manifests : List String
  listThemes : Bool
  listLanguages : Bool
deriving DecidableEq, Repr

/-- An argument by its looks. -/
inductive Word where
  | plain (text : String)
  /-- Nothing after it is an option. -/
  | separator
  | option (slot : Slot) (attached : Option String)
  | flag (flag : Flag)
  | flagWithValue
  | unknown
deriving DecidableEq, Repr

namespace Word

def ofName (name : String) (attached : Option String) : Word :=
  let flag := fun (f : Flag) => if attached.isSome then .flagWithValue else .flag f
  match name with
  | "language" => .option .language attached
  | "theme" => .option .theme attached
  | "timeout-ms" => .option .timeout attached
  | "config" => .option .config attached
  | "language-file" => .option .manifest attached
  | "strict" => flag .strict
  | "list-themes" => flag .listThemes
  | "list-languages" => flag .listLanguages
  | "help" => flag .help
  | "version" => flag .version
  | _ => .unknown

/-- What follows a letter in one argument is the value of its option, behind an equals sign or
not. -/
def ofLetter (letter : Char) (rest : List Char) : Word :=
  let attached :=
    match rest with
    | [] => none
    | '=' :: value => some (String.ofList value)
    | value => some (String.ofList value)
  match letter with
  | 'l' => .option .language attached
  | 't' => .option .theme attached
  | 'h' => .flag .help
  | 'V' => .flag .version
  | _ => .unknown

/-- A lone hyphen is plain. -/
def ofArgument (argument : String) : Word :=
  match argument.toList with
  | ['-', '-'] => .separator
  | '-' :: '-' :: long =>
    let name := String.ofList (long.takeWhile (· ≠ '='))
    match long.dropWhile (· ≠ '=') with
    | [] => ofName name none
    | _ :: value => ofName name (some (String.ofList value))
  | '-' :: letter :: rest => ofLetter letter rest
  | _ => .plain argument

end Word

/-- A number below 2 ^ 64 in decimal digits, with or without a plus sign. -/
def readNumber? (text : String) : Option Nat :=
  let digits :=
    match text.toList with
    | '+' :: digits => digits
    | digits => digits
  if digits.isEmpty || !digits.all Char.isDigit then none
  else
    let value := digits.foldl (fun value c => value * 10 + (c.toNat - 48)) 0
    if value < Nat.pow 2 64 then some value else none

namespace Arguments

def none : Arguments := ⟨.none, .none, .none, false, .none, .none, [], false, false⟩

/-- A path may not be empty. -/
def checkPath (text : String) : Except Stop String :=
  if text.isEmpty then .error .missingValue else .ok text

def isFilled (arguments : Arguments) : Slot → Bool
  | .path => arguments.path.isSome
  | .language => arguments.language.isSome
  | .theme => arguments.theme.isSome
  | .timeout => arguments.timeout.isSome
  | .config => arguments.config.isSome
  | .manifest => false

/-- A second value is refused before it is looked at. -/
def fill (arguments : Arguments) (slot : Slot) (text : String) : Except Stop Arguments :=
  if arguments.isFilled slot then .error .repeated
  else
    match slot with
    | .path => return { arguments with path := ← checkPath text }
    | .language => .ok { arguments with language := text }
    | .theme => .ok { arguments with theme := text }
    | .timeout =>
      match readNumber? text with
      | some number => .ok { arguments with timeout := number }
      | .none => .error .invalidNumber
    | .config => return { arguments with config := ← checkPath text }
    | .manifest => return { arguments with manifests := arguments.manifests ++ [← checkPath text] }

def raise (arguments : Arguments) : Flag → Except Stop Arguments
  | .strict => if arguments.strict then .error .repeated else .ok { arguments with strict := true }
  | .listThemes =>
    if arguments.listThemes then .error .repeated else .ok { arguments with listThemes := true }
  | .listLanguages =>
    if arguments.listLanguages then .error .repeated
    else .ok { arguments with listLanguages := true }
  | .help => .error .help
  | .version => .error .version

end Arguments

structure Progress where
  arguments : Arguments
  /-- A slot whose value has not been looked at, or has not come yet. -/
  pending : Option (Slot × Option String)
  separated : Bool

namespace Progress

def start : Progress := ⟨.none, none, false⟩

/-- Look at the value that was put off. -/
def settle (progress : Progress) : Except Stop Progress :=
  match progress.pending with
  | none => .ok progress
  | some (_, none) => .error .missingValue
  | some (slot, some text) =>
    return { progress with arguments := ← progress.arguments.fill slot text, pending := none }

def hasPath (progress : Progress) : Bool :=
  progress.arguments.path.isSome || progress.pending.any (·.1 = .path)

def takePath (progress : Progress) (text : String) : Except Stop Progress :=
  if progress.hasPath then .error .unknownArgument
  else return { ← progress.settle with pending := some (.path, some text) }

def takeWord (progress : Progress) : Word → Except Stop Progress
  | .plain text =>
    match progress.pending with
    | some (slot, none) => .ok { progress with pending := some (slot, some text) }
    | _ => progress.takePath text
  | .separator => .ok { progress with separated := true }
  | .option slot none => return { ← progress.settle with pending := some (slot, none) }
  | .option slot (some text) => do
    let progress ← progress.settle
    return { progress with arguments := ← progress.arguments.fill slot text }
  | .flag flag => do
    let progress ← progress.settle
    return { progress with arguments := ← progress.arguments.raise flag }
  | .flagWithValue => .error .surplusValue
  | .unknown => .error .unknownArgument

def take (progress : Progress) (argument : String) : Except Stop Progress :=
  if progress.separated then progress.takePath argument
  else progress.takeWord (.ofArgument argument)

end Progress

/-- Read the arguments of a call, the program's own name not among them. -/
def Arguments.ofList (arguments : List String) : Except Stop Arguments := do
  let progress ← arguments.foldlM Progress.take .start
  return (← progress.settle).arguments

end CodeHighlight.CommandLine
