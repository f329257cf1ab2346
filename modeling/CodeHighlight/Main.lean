import CodeHighlight.CommandLine.Run

/-! # The program

Reads what a request names, runs the request and prints the outcome. No parser is linked in, so code
is shown in a themed block without spans, and a strict request is refused. Directories are not
listed: the themes are those that come with the library.
-/
namespace CodeHighlight.CommandLine

/-- An engine that gives up on all code. -/
def absentEngine : Engine where
  refusal := fun _ => none
  compileQuery := fun _ _ => .ok []
  captures := fun _ _ _ _ => none
  download := fun _ => none

def decodeText (bytes : ByteArray) : Except ReadFailure String :=
  match String.fromUTF8? bytes with
  | some text => .ok text
  | none => .error .notText

def readFile (path : String) : IO (Except ReadFailure String) := do
  try
    return decodeText (← IO.FS.readBinFile path)
  catch
    | .noFileOrDirectory .. => return .error .notFound
    | .inappropriateType .. => return .error .isDirectory
    | failure => return .error (.other (toString failure))

partial def readStream (stream : IO.FS.Stream) (bytes : ByteArray) : IO ByteArray := do
  let more ← stream.read 65536
  if more.isEmpty then return bytes else readStream stream (bytes ++ more)

/-- The files that a request reads. -/
def Request.paths (environment : Environment) (request : Request) : List String :=
  let code :=
    match request.action with
    | .highlight (.file path) _ => [path]
    | _ => []
  (request.config.or environment.configFile?).toList ++ request.manifests ++ code

def Request.readsStdin (request : Request) : Bool :=
  match request.action with
  | .highlight .stdin _ => true
  | _ => false

def surroundings (request : Request) : IO Surroundings := do
  let environment : Environment := ⟨← IO.getEnv "XDG_CONFIG_HOME", ← IO.getEnv "HOME"⟩
  let contents ← (request.paths environment).mapM fun path => return (path, ← readFile path)
  let stdin ←
    if request.readsStdin then readStream (← IO.getStdin) .empty else pure .empty
  let catalog := Catalog.ofList contents
  return {
    files := ⟨fun path => (catalog.get? path).getD (.error .notFound), fun _ => none⟩
    environment
    stdin := decodeText stdin
    engine := absentEngine }

def idle : Surroundings := ⟨.empty, ⟨none, none⟩, .ok "", absentEngine⟩

end CodeHighlight.CommandLine

open CodeHighlight.CommandLine in
def main (arguments : List String) : IO UInt32 := do
  let request := (Arguments.ofList arguments).toOption.bind fun arguments =>
    (Request.ofArguments arguments).toOption
  let surroundings ←
    match request with
    | some request => surroundings request
    | none => pure idle
  let outcome := run surroundings arguments
  IO.print outcome.stdout
  IO.eprint outcome.stderr
  return outcome.exitCode.toUInt32
