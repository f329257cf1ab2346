import CodeHighlight.Highlighter.Operation

/-! # The history of languages

Languages are registered, loaded by themselves, and loaded for code that is highlighted. What a
highlighter holds of a language follows from the uses that were made of it.
-/
namespace CodeHighlight

/-- How often the factories of a label were called. -/
def Calls.count (calls : Calls) (label : String) : Nat := (calls.get? label).getD 0

/-- What one resolution of the loader adds to the count of a label. -/
def Loader.callsOf (loader : Loader) (label : String) : Nat :=
  match loader with
  | .value _ => 0
  | .factory _ own _ => if own = label then 1 else 0

/-- No factory is called by both loaders, so that neither notices the calls of the other. -/
def Loader.Apart (loader other : Loader) : Prop :=
  ∀ label, loader.callsOf label = 0 ∨ other.callsOf label = 0

inductive LanguageUse where
  | register (id : String) (loader : Loader)
  | load (id : String)
  | highlight (code id : String) (options : HighlightOptions)

namespace LanguageUse

def operation : LanguageUse → Operation
  | register id loader => .registerLanguage id loader
  | load id => .load id
  | highlight code id options => .highlight code id options

def language : LanguageUse → String
  | register id _ => id
  | load id => id
  | highlight _ id _ => id

/-- The loader that the use deals with: the one that it registers, or the one that is on file. -/
def loader? (highlighter : Highlighter) : LanguageUse → Option Loader
  | register _ loader => some loader
  | load id => highlighter.registry.loaders.get? id
  | highlight _ id _ => highlighter.registry.loaders.get? id

/-- The language that the use loads. -/
def loads? : LanguageUse → Option String
  | register _ _ => none
  | load id => some id
  | highlight _ id _ => some id

/-- The loader that the use registers under the id. -/
def loaderFor? (id : String) : LanguageUse → Option Loader
  | register name loader => if name = id then some loader else none
  | load _ => none
  | highlight _ _ _ => none

/-- The highlighter that uses lead to, one after the other. -/
def run (engine : Engine) (start : Highlighter) (uses : List LanguageUse) : Highlighter :=
  Operation.run engine start (uses.map operation)

/-- The loader that was registered under the id last, by a use or when the highlighter was made. -/
def lastLoader? (start : Highlighter) (uses : List LanguageUse) (id : String) : Option Loader :=
  (uses.reverse.findSome? (loaderFor? id)).or (start.registry.loaders.get? id)

/-- The answer of a load that comes right after the uses. -/
def answer (engine : Engine) (start : Highlighter) (uses : List LanguageUse) (id : String) :
    Except Failure LanguageState :=
  ((run engine start uses).registry.load engine id).1

end LanguageUse

end CodeHighlight
