import CodeHighlight.CommandLine.Outcome
import CodeHighlight.CommandLine.Request
import CodeHighlight.Highlighter.Builder
import CodeHighlight.Language.Manifest

/-! # Running the program

A run is a function of its arguments and its surroundings: it answers what to print, or why it
failed. The configuration is read first, then the manifests, and the code last. Arguments and the
names of files are text, and nothing is logged.
-/
namespace CodeHighlight.CommandLine

structure Surroundings where
  files : FileSystem
  environment : Environment
  stdin : Except ReadFailure String
  engine : Engine

/-- Without causes. -/
def blunt {α : Type} (message : String) : Except Report α := .error ⟨message, []⟩

/-- The configuration that was named must be readable; the user's own one need not be. -/
def loadConfig (surroundings : Surroundings) : Option String → Except Report Config
  | some path =>
    match Config.loadFrom surroundings.files path with
    | .ok config => .ok config
    | .error failure => blunt failure.message
  | none => .ok (Config.load surroundings.files surroundings.environment)

/-- Register the languages of manifests in turn, each under the id of its definition. -/
def registerManifests (files : FileSystem) (highlighter : Highlighter) (paths : List String) :
    Except Report Highlighter :=
  paths.foldlM (fun highlighter path =>
    match Definition.ofFile files path with
    | .ok definition => .ok (highlighter.registerLanguage definition.id (.value definition))
    | .error failure => .error ⟨"Failed to load language manifest " ++ path, failure.causes⟩)
    highlighter

def readInput (surroundings : Surroundings) (input : Input) : Except Report String :=
  let (name, content) :=
    match input with
    | .stdin => ("stdin", surroundings.stdin)
    | .file path => (path, surroundings.files.read path)
  content.mapError fun failure => ⟨"Failed to read " ++ name, [failure.message]⟩

/-- Every line ends, also the last one. -/
def printLines (lines : List String) : String :=
  String.join (lines.map (· ++ "\n"))

def perform (surroundings : Surroundings) (request : Request) (config : Config)
    (highlighter : Highlighter) : Except Report String :=
  match request.action with
  | .listThemes => .ok (printLines highlighter.themes.ids)
  | .listLanguages => .ok (printLines highlighter.registry.ids)
  | .highlight input language => do
    let code ← readInput surroundings input
    let options := ⟨request.theme, request.strict || config.strict, request.timeout⟩
    match (highlighter.highlight surroundings.engine code language options).1 with
    | .ok block => .ok (printLines [block])
    | .error failure => .error ⟨"Failed to highlight as " ++ language, failure.causes⟩

def serve (surroundings : Surroundings) (arguments : Arguments) : Except Report String := do
  match Request.ofArguments arguments with
  | .error failure => blunt failure.message
  | .ok request =>
    let config ← loadConfig surroundings request.config
    let highlighter ← registerManifests surroundings.files
      (.ofConfig surroundings.files surroundings.environment config) request.manifests
    perform surroundings request config highlighter

def run (surroundings : Surroundings) (arguments : List String) : Outcome :=
  match Arguments.ofList arguments with
  | .error stop => .stopped stop
  | .ok arguments => .ofExcept (serve surroundings arguments)

end CodeHighlight.CommandLine
