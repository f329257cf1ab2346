import CodeHighlight.Engine
import CodeHighlight.Language.Loader

/-! # The language registry

Languages are registered as loaders and loaded on first use. The first load that succeeds is kept
for good; one that fails leaves no trace but its calls. The backend starts once, for whichever
registered language comes first.
-/
namespace CodeHighlight

/-- The shared parsing runtime, by how often it was started. -/
structure Backend where
  starts : Nat
deriving DecidableEq, Repr

namespace Backend

def idle : Backend := ⟨0⟩

def isReady (backend : Backend) : Bool := 0 < backend.starts

def ensureReady (backend : Backend) : Backend :=
  if backend.isReady then backend else ⟨backend.starts + 1⟩

def describe (backend : Backend) : String :=
  "Backend \x7b ready: " ++ (if backend.isReady then "true" else "false") ++ " \x7d"

end Backend

@[ext]
structure Registry where
  loaders : Catalog Loader
  states : Catalog LanguageState
  backend : Backend
  calls : Calls

namespace Registry

def empty : Registry := ⟨.empty, .empty, .idle, .empty⟩

/-- File a loader, in place of the one under this id. A loaded state stays. -/
def register (registry : Registry) (id : String) (loader : Loader) : Registry :=
  { registry with
    loaders := registry.loaders.insert id loader
    calls := loader.announce registry.calls }

def isRegistered (registry : Registry) (id : String) : Bool := registry.loaders.contains id

def isLoaded (registry : Registry) (id : String) : Bool := registry.states.contains id

def ids (registry : Registry) : List String := registry.loaders.names

/-- Build the state of a language from its definition. A definition without an id is called by the
id that it is registered under. -/
def buildState (engine : Engine) (id : String) (definition : Definition) :
    Except Failure LanguageState := do
  let query ← definition.highlightQuery
  match definition.grammar with
  | none =>
    .error (.invalidLanguage id "no grammar: provide a binary grammar or a grammar URL")
  | some grammar =>
    let name := if definition.id.isEmpty then id else definition.id
    let native ← engine.compileGrammar name grammar
    LanguageState.build engine id native query

/-- The state of a language, built on first use. -/
def load (engine : Engine) (registry : Registry) (id : String) :
    Except Failure LanguageState × Registry :=
  match registry.states.get? id with
  | some state => (.ok state, registry)
  | none =>
    match registry.loaders.get? id with
    | none => (.error (.unknownLanguage id), registry)
    | some loader =>
      let (definition, calls) := loader.resolve registry.calls
      let registry := { registry with backend := registry.backend.ensureReady, calls }
      match definition.bind (buildState engine id) with
      | .ok state => (.ok state, { registry with states := registry.states.insert id state })
      | .error failure => (.error failure, registry)

def ensureReady (registry : Registry) : Registry :=
  { registry with backend := registry.backend.ensureReady }

/-- Make a grammar ready outside any load, which takes a running backend too. -/
def compileGrammar (engine : Engine) (registry : Registry) (name : String) (grammar : Grammar) :
    Except Failure NativeGrammar × Registry :=
  (engine.compileGrammar name grammar, registry.ensureReady)

/-- Load languages in turn, whatever becomes of each; the answer is the first failure. -/
def loadAll (engine : Engine) : Registry → List String → Except Failure Unit × Registry
  | registry, [] => (.ok (), registry)
  | registry, id :: ids =>
    let (answer, registry) := load engine registry id
    let (rest, registry) := loadAll engine registry ids
    (answer.bind fun _ => rest, registry)

def preload (engine : Engine) (registry : Registry) : Except Failure Unit × Registry :=
  loadAll engine registry registry.ids

def describe (registry : Registry) : String :=
  "LanguageRegistry \x7b backend: " ++ registry.backend.describe ++ ", languages: "
    ++ Text.bracketed (registry.ids.map Text.quoted) ++ " \x7d"

end Registry

end CodeHighlight
