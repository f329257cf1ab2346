/-! # Failures

What can go wrong while a theme is chosen, a language is loaded or code is parsed. A missing default
theme is a fault of the setup; every other failure leaves the code itself to be shown.
-/
namespace CodeHighlight

inductive Failure where
  /-- Not even the default theme is registered. -/
  | configuration (themeId : String)
  | unknownLanguage (id : String)
  | invalidLanguage (id reason : String)
  | backendUnavailable (reason : String)
  /-- The parser gave up. -/
  | parseFailure (languageId : String)
  | invalidTheme (reason : String)
  | io (reason : String)
deriving DecidableEq, Repr

namespace Failure

def message : Failure → String
  | configuration themeId => "default theme \"" ++ themeId ++ "\" is not registered"
  | unknownLanguage id => "language \"" ++ id ++ "\" is not registered"
  | invalidLanguage id reason => "invalid language definition for \"" ++ id ++ "\": " ++ reason
  | backendUnavailable reason => "parsing backend unavailable: " ++ reason
  | parseFailure languageId => "failed to parse source as \"" ++ languageId ++ "\""
  | invalidTheme reason => "invalid theme: " ++ reason
  | io reason => "I/O error: " ++ reason

/-- Plain code may be shown in place of this failure. -/
def isRecoverable : Failure → Bool
  | configuration _ => false
  | _ => true

/-- The message and, for a file that cannot be read, the reason by itself. -/
def causes (failure : Failure) : List String :=
  match failure with
  | io reason => [failure.message, reason]
  | _ => [failure.message]

end Failure

end CodeHighlight
