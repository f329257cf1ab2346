import CodeHighlight.Capture
import CodeHighlight.Language.Definition

/-! # The parsing engine

Parsing and query matching are done elsewhere. An engine says what they answer, what a download of a
grammar brings and how long a timeout the clock allows. Nothing is assumed of the answers.
-/
namespace CodeHighlight

/-- What comes in the way of a download. -/
inductive DownloadFailure where
  | refused (reason : Option String)
  /-- The answer began and could not be read to its end. -/
  | interrupted (reason : String)
  /-- The task that was to download broke off. -/
  | abandoned (reason : String)
deriving DecidableEq, Repr

def DownloadFailure.message (address : String) : DownloadFailure → String
  | refused none => "failed to download " ++ address
  | refused (some reason) => "failed to download " ++ address ++ ": " ++ reason
  | interrupted reason => "failed to read " ++ address ++ ": " ++ reason
  | abandoned reason => "grammar download task failed: " ++ reason

structure Engine where
  /-- Why a parser cannot take the grammar, if it cannot. -/
  refusal : NativeGrammar → Option String
  /-- The capture names of a query, or what is wrong with it. -/
  compileQuery : NativeGrammar → Query → Except String (List String)
  /-- The captures in code, in the engine's order, or none if the parser gave up. -/
  captures : NativeGrammar → Query → (code : String) → (timeout : Option Nat) →
    Option (List Capture)
  /-- The bytes at an address, if they can be had. -/
  download : String → Option (List UInt8)
  /-- Why the bytes at an address cannot be had. -/
  downloadFailure : String → DownloadFailure := fun _ => .refused none
  /-- How long the clock goes on after as many milliseconds as 64 bits can count. -/
  reserve : Nat := 0

/-- The longest timeout, in milliseconds, whose end the clock still shows. -/
def Engine.longestTimeout (engine : Engine) : Nat := 18446744073709551615 + engine.reserve

/-- The clock shows when the timeout is over, so its deadline can be set. -/
def Engine.CanTime (engine : Engine) (timeout : Option Nat) : Prop :=
  ∀ length ∈ timeout, length ≤ engine.longestTimeout

structure LanguageState where
  id : String
  grammar : NativeGrammar
  query : Query
  captureNames : List String
deriving DecidableEq, Repr

namespace LanguageState

def build (engine : Engine) (id : String) (grammar : NativeGrammar) (query : Query) :
    Except Failure LanguageState :=
  match engine.refusal grammar with
  | some reason =>
    .error (.backendUnavailable ("grammar for \"" ++ id ++ "\" is incompatible: " ++ reason))
  | none =>
    match engine.compileQuery grammar query with
    | .ok captureNames => .ok ⟨id, grammar, query, captureNames⟩
    | .error reason => .error (.invalidLanguage id ("malformed highlights query: " ++ reason))

/-- What parsing answers when its deadline, if it has one, can be set. -/
def highlight (engine : Engine) (state : LanguageState) (code : String) (timeout : Option Nat) :
    Except Failure (List Capture) :=
  match engine.captures state.grammar state.query code timeout with
  | some captures => .ok captures
  | none => .error (.parseFailure state.id)

def describe (state : LanguageState) : String :=
  "LanguageState \x7b id: " ++ Text.quoted state.id ++ ", captures: "
    ++ Text.bracketed (state.captureNames.map Text.quoted) ++ " \x7d"

end LanguageState

/-- Binaries need a runtime that is not part of this program. -/
def binaryUnsupported (name : String) : Failure :=
  .backendUnavailable
    ("cannot compile binary grammar for \"" ++ name ++ "\": built without the \x60wasm\x60 feature")

/-- Make a grammar ready for a parser. Text is decoded and an address fetched before the binary is
refused. -/
def Engine.compileGrammar (engine : Engine) (name : String) :
    Grammar → Except Failure NativeGrammar
  | .native grammar => .ok grammar
  | .binary _ => .error (binaryUnsupported name)
  | .embedded text => do
    let _ ← Grammar.decodeEmbedded text
    .error (binaryUnsupported name)
  | .url address =>
    match engine.download address with
    | some _ => .error (binaryUnsupported name)
    | none => .error (.backendUnavailable ((engine.downloadFailure address).message address))

end CodeHighlight
