import CodeHighlight.Base64
import CodeHighlight.Failure
import CodeHighlight.Text.Blank
import CodeHighlight.Text.Quoted

/-! # Grammars

A grammar is linked into the program, or a binary that is given as bytes, as text in Base64 or by
its address.
-/
namespace CodeHighlight

/-- The grammars that are linked in, by the language that they come with. Those that are not the
library's own are told apart by their labels. -/
inductive NativeGrammar where
  | go
  | rust
  | python
  | java
  | c
  | cpp
  | bash
  | php
  | javascript
  | jsx
  | typescript
  | tsx
  | other (label : String)
deriving DecidableEq, Repr

/-- The versions of the parser's interface that grammars were made for. They are fixed by what is
linked in. -/
class GrammarVersions where
  version : NativeGrammar → Nat

def NativeGrammar.abi [GrammarVersions] (grammar : NativeGrammar) : Nat :=
  GrammarVersions.version grammar

inductive Grammar where
  | native (grammar : NativeGrammar)
  | binary (bytes : List UInt8)
  /-- Base64, with or without the head of a `data:` address before it. -/
  | embedded (text : String)
  | url (address : String)
deriving DecidableEq, Repr

namespace Grammar

def describe [GrammarVersions] : Grammar → String
  | native grammar => "Native(" ++ toString grammar.abi ++ ")"
  | binary bytes => "Wasm(" ++ toString bytes.length ++ " bytes)"
  | embedded text => "Embedded(" ++ toString text.utf8ByteSize ++ " chars)"
  | url address => "Url(" ++ Text.quoted address ++ ")"

/-- What follows the head of a `data:` address, which ends at the first comma. -/
def dataPart (text : List Char) : List Char :=
  if "data:".toList.isPrefixOf text then
    let address := text.drop 5
    if address.contains ',' then (address.dropWhile (· ≠ ',')).drop 1 else address
  else text

/-- The encoded bytes of an embedded grammar, without the blanks that break them up. -/
def payload (text : String) : List UInt8 :=
  ((dataPart text.toList).filter fun c => !Text.isAsciiBlank c).flatMap String.utf8EncodeChar

def decodeEmbedded (text : String) : Except Failure (List UInt8) :=
  if (payload text).isEmpty then .error (.backendUnavailable "embedded grammar is empty")
  else
    (Base64.decode (payload text)).mapError fun failure =>
      .backendUnavailable ("cannot decode embedded grammar: " ++ failure.message)

end Grammar

end CodeHighlight
