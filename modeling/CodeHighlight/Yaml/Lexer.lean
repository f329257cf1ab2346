import CodeHighlight.Yaml.Scalar
import CodeHighlight.Yaml.Token

/-! # Splitting a YAML text into tokens

Indentation gives tokens of its own: a deeper column opens a block, a shallower one closes blocks.
A mapping key is recognised only when the colon after it is reached, so each place where a key may
begin is remembered as a candidate, and the tokens of a confirmed key are set before that place
when the whole text has been read.
-/
namespace CodeHighlight.Yaml

/-- A place where a mapping key may have begun. A required one stands where the block mapping
around it can only go on with a key. -/
structure KeyCandidate where
  required : Bool
  position : Nat
  index : Nat
  line : Nat
  column : Nat

/-- The last of the `tokens` comes first. `openings` are the tokens that belong before the token at
a position. `candidate` is that of the level where the lexer stands, `outerCandidates` has one entry
for each level around it, the innermost first. -/
structure Lexer where
  cursor : Cursor
  tokens : List Token
  count : Nat
  openings : List (Nat × List Token)
  indent : Int
  outerIndents : List Int
  keyAllowed : Bool
  candidate : Option KeyCandidate
  outerCandidates : List (Option KeyCandidate)

namespace Lexer

def ofText (text : List Char) : Lexer where
  cursor := .ofText text
  tokens := []
  count := 0
  openings := []
  indent := -1
  outerIndents := []
  keyAllowed := true
  candidate := none
  outerCandidates := []

def inFlow (lexer : Lexer) : Bool := !lexer.outerCandidates.isEmpty

def add (lexer : Lexer) (token : Token) : Lexer :=
  { lexer with tokens := token :: lexer.tokens, count := lexer.count + 1 }

def addBefore (lexer : Lexer) (position : Nat) (tokens : List Token) : Lexer :=
  { lexer with openings := (position, tokens) :: lexer.openings }

/-- Blanks, comments and breaks before the next token. A tab may not indent a line that can begin
with a key. A mark of the byte order may start a line. -/
def skipToToken : Nat → Lexer → Option Lexer
  | 0, _ => none
  | fuel + 1, lexer =>
    let cursor := lexer.cursor
    let cursor := if cursor.column == 0 && cursor.looksAt byteOrderMark then cursor.skip else cursor
    let cursor := cursor.skipWhile fun c =>
      c == ' ' || ((lexer.inFlow || !lexer.keyAllowed) && c == '\t')
    let cursor := if cursor.looksAt '#' then cursor.skipLineRest else cursor
    if cursor.atBreak then
      skipToToken fuel { lexer with
        cursor := cursor.skipBreak
        keyAllowed := lexer.keyAllowed || !lexer.inFlow }
    else some { lexer with cursor }

/-- A key ends on the line where it begins, within 1024 bytes. -/
def KeyCandidate.isStale (candidate : KeyCandidate) (cursor : Cursor) : Bool :=
  candidate.line < cursor.line || candidate.index + 1024 < cursor.index

/-- A candidate without those that are stale; a required one must not become stale. -/
def freshCandidate (cursor : Cursor) : Option KeyCandidate → Option (Option KeyCandidate)
  | none => some none
  | some candidate =>
    if KeyCandidate.isStale candidate cursor then
      if candidate.required then none else some none
    else some (some candidate)

def dropStale (lexer : Lexer) : Option Lexer := do
  let candidate ← freshCandidate lexer.cursor lexer.candidate
  let outerCandidates ← lexer.outerCandidates.mapM (freshCandidate lexer.cursor)
  return { lexer with candidate, outerCandidates }

/-- Give the candidate of this level up, which a required one does not allow. -/
def dropCandidate (lexer : Lexer) : Option Lexer :=
  match lexer.candidate with
  | some candidate => if candidate.required then none else some { lexer with candidate := none }
  | none => some lexer

def saveCandidate (lexer : Lexer) : Option Lexer :=
  if lexer.keyAllowed then
    lexer.dropCandidate.map fun lexer =>
      { lexer with
        candidate := some {
          required := !lexer.inFlow && lexer.indent == lexer.cursor.column
          position := lexer.count
          index := lexer.cursor.index
          line := lexer.cursor.line
          column := lexer.cursor.column } }
  else some lexer

/-- Close every block that is indented deeper than the column. -/
def closeBlocksFrom : List Int → Int → Int → Lexer → Lexer
  | outers, indent, column, lexer =>
    if indent ≤ column then { lexer with indent, outerIndents := outers }
    else
      match outers with
      | [] => { lexer.add .blockEnd with indent := -1, outerIndents := [] }
      | outer :: outers => closeBlocksFrom outers outer column (lexer.add .blockEnd)

/-- Brackets suspend indentation. -/
def closeBlocks (lexer : Lexer) (column : Int) : Lexer :=
  if lexer.inFlow then lexer
  else closeBlocksFrom lexer.outerIndents lexer.indent column lexer

/-- The column opens a block of its own. -/
def deepens (lexer : Lexer) (column : Nat) : Bool :=
  !lexer.inFlow && lexer.indent < column

def deepen (lexer : Lexer) (column : Nat) : Lexer :=
  { lexer with indent := column, outerIndents := lexer.indent :: lexer.outerIndents }

/-- Open a block at the current column if the column is deeper. -/
def openBlock (lexer : Lexer) (opening : Token) : Lexer :=
  if lexer.deepens lexer.cursor.column then
    (lexer.deepen lexer.cursor.column).add opening
  else lexer

def move (lexer : Lexer) (cursor : Cursor) : Lexer := { lexer with cursor }

def allowKey (lexer : Lexer) (keyAllowed : Bool) : Lexer := { lexer with keyAllowed }

def addSingle (lexer : Lexer) (token : Token) : Lexer :=
  (lexer.move lexer.cursor.skip).add token

/-! ## Directives, anchors and tags -/

/-- A number of a version, at most nine digits. -/
def readVersionNumber (cursor : Cursor) : Option (Nat × Cursor) :=
  let digits := cursor.rest.takeWhile Decimal.isDigit
  if digits.isEmpty || 9 < digits.length then none
  else some (Decimal.ofDigits digits, cursor.skipMany digits.length)

def readVersion (cursor : Cursor) : Option (Token × Cursor) := do
  let (major, cursor) ← readVersionNumber (cursor.skipWhile isBlank)
  if cursor.looksAt '.' then
    let (minor, cursor) ← readVersionNumber cursor.skip
    return (.versionDirective major minor, cursor)
  else none

/-- One of `!`, `!word` and `!word!`; only a directive insists on the second mark. -/
def readHandle (directive : Bool) (cursor : Cursor) : Option (List Char × Cursor) :=
  if cursor.looksAt '!' then
    let word := cursor.skip.rest.takeWhile isWordChar
    let next := cursor.skip.skipMany word.length
    if next.looksAt '!' then some ('!' :: word ++ ['!'], next.skip)
    else if directive && !word.isEmpty then none
    else some ('!' :: word, next)
  else none

/-- How many bytes the character has whose UTF-8 form begins with this byte. -/
def leadWidth? (byte : UInt8) : Option Nat :=
  if byte < 0x80 then some 1
  else if 0xC0 ≤ byte && byte < 0xE0 then some 2
  else if 0xE0 ≤ byte && byte < 0xF0 then some 3
  else if 0xF0 ≤ byte && byte < 0xF8 then some 4
  else none

/-- A byte written as `%` and two hexadecimal digits. -/
def readUriByte (cursor : Cursor) : Option (UInt8 × Cursor) :=
  match cursor.rest with
  | '%' :: a :: b :: _ => do
    let a ← Json.hexDigit? a
    let b ← Json.hexDigit? b
    return (UInt8.ofNat (a * 16 + b), cursor.skipMany 3)
  | _ => none

def readTrailBytes : Nat → Cursor → Option (List UInt8 × Cursor)
  | 0, cursor => some ([], cursor)
  | count + 1, cursor => do
    let (byte, cursor) ← readUriByte cursor
    if 0x80 ≤ byte && byte < 0xC0 then
      let (bytes, cursor) ← readTrailBytes count cursor
      return (byte :: bytes, cursor)
    else none

/-- A character written byte by byte. It has as many bytes as its first one announces; whether they
spell a character is not asked. -/
def readUriEscape (cursor : Cursor) : Option (List UInt8 × Cursor) := do
  let (lead, cursor) ← readUriByte cursor
  let width ← leadWidth? lead
  let (trail, cursor) ← readTrailBytes (width - 1) cursor
  return (lead :: trail, cursor)

/-- The bytes of a tag; a verbatim tag and a directive allow commas and brackets too. -/
def readUri (verbatim : Bool) : Nat → Cursor → Option (List UInt8 × Cursor)
  | 0, _ => none
  | fuel + 1, cursor =>
    match cursor.peek with
    | none => some ([], cursor)
    | some c =>
      if c == '%' then do
        let (escaped, cursor) ← readUriEscape cursor
        let (bytes, cursor) ← readUri verbatim fuel cursor
        return (escaped ++ bytes, cursor)
      else if isUriChar c || (verbatim && (c == ',' || c == '[' || c == ']')) then
        (readUri verbatim fuel cursor.skip).map fun (bytes, cursor) => (c.toUInt8 :: bytes, cursor)
      else some ([], cursor)

def readTagDirective (cursor : Cursor) : Option (Token × Cursor) := do
  let (handle, cursor) ← readHandle true (cursor.skipWhile isBlank)
  if cursor.atBlank then
    let cursor := cursor.skipWhile isBlank
    let (stem, cursor) ← readUri true (cursor.rest.length + 1) cursor
    if stem.isEmpty || !cursor.gapAt 0 then none
    else return (.tagDirective (String.ofList handle) stem, cursor)
  else none

def readDirective (cursor : Cursor) : Option (Token × Cursor) := do
  let name := cursor.skip.rest.takeWhile isWordChar
  let next := cursor.skip.skipMany name.length
  if !next.gapAt 0 then none
  else
    let (token, next) ←
      if name == "YAML".toList then readVersion next
      else if name == "TAG".toList then readTagDirective next
      else none
    let next := next.skipWhile isBlank
    let next := if next.looksAt '#' then next.skipLineRest else next
    if next.atEnd then return (token, next)
    else if next.atBreak then return (token, next.skipBreak)
    else none

def readAnchorName (cursor : Cursor) : Option (String × Cursor) :=
  let name := cursor.skip.rest.takeWhile isWordChar
  let next := cursor.skip.skipMany name.length
  let ended := next.gapAt 0 || next.peek.any fun c => "?:,]\x7d%@\x60".toList.contains c
  if name.isEmpty || !ended then none else some (String.ofList name, next)

/-- The handle and the rest of a tag. Without a handle of its own, a tag of nothing but the mark is
its own rest. -/
def readTagBody (cursor : Cursor) : Option (String × List UInt8 × Cursor) :=
  if cursor.peekAt 1 == some '<' then do
    let (suffix, next) ← readUri true (cursor.rest.length + 1) (cursor.skipMany 2)
    if suffix.isEmpty || !next.looksAt '>' then none
    else return ("", suffix, next.skip)
  else do
    let (handle, next) ← readHandle false cursor
    let (rest, next) ← readUri false (next.rest.length + 1) next
    if 1 < handle.length && handle.getLast? == some '!' then
      if rest.isEmpty then none
      else return (String.ofList handle, rest, next)
    else
      let suffix := Tag.upToNull ((handle.drop 1).map Char.toUInt8 ++ rest)
      if suffix.isEmpty then return ("", "!".toUTF8.toList, next)
      else return ("!", suffix, next)

def readTag (inFlow : Bool) (cursor : Cursor) : Option (Token × Cursor) := do
  let (handle, suffix, next) ← readTagBody cursor
  if next.gapAt 0 || (inFlow && next.looksAt ',') then return (.tag handle suffix, next) else none

/-! ## The tokens -/

def lexDirective (lexer : Lexer) : Option Lexer := do
  let lexer ← (lexer.closeBlocks (-1)).dropCandidate
  let (token, cursor) ← readDirective lexer.cursor
  return ((lexer.allowKey false).move cursor).add token

def lexDocumentMark (lexer : Lexer) (token : Token) : Option Lexer := do
  let lexer ← (lexer.closeBlocks (-1)).dropCandidate
  return ((lexer.allowKey false).move (lexer.cursor.skipMany 3)).add token

def lexFlowStart (lexer : Lexer) (token : Token) : Option Lexer := do
  let lexer ← lexer.saveCandidate
  return { lexer.addSingle token with
    keyAllowed := true
    candidate := none
    outerCandidates := lexer.candidate :: lexer.outerCandidates }

/-- A bracket closes the innermost level; on the block level it is left to the grammar to refuse. -/
def lexFlowEnd (lexer : Lexer) (token : Token) : Option Lexer := do
  let lexer ← lexer.dropCandidate
  let lexer := (lexer.addSingle token).allowKey false
  match lexer.outerCandidates with
  | candidate :: outerCandidates => return { lexer with candidate, outerCandidates }
  | [] => return lexer

def lexFlowEntry (lexer : Lexer) : Option Lexer := do
  let lexer ← lexer.dropCandidate
  return (lexer.addSingle .flowEntry).allowKey true

def lexBlockEntry (lexer : Lexer) : Option Lexer := do
  if !lexer.inFlow && !lexer.keyAllowed then none
  else
    let lexer ← (lexer.openBlock .blockSequenceStart).dropCandidate
    return (lexer.addSingle .blockEntry).allowKey true

def lexKey (lexer : Lexer) : Option Lexer := do
  if !lexer.inFlow && !lexer.keyAllowed then none
  else
    let lexer ← (lexer.openBlock .blockMappingStart).dropCandidate
    return (lexer.addSingle .key).allowKey !lexer.inFlow

/-- A colon confirms the candidate of its level, or follows a key that was marked as one. -/
def lexValue (lexer : Lexer) : Option Lexer :=
  match lexer.candidate with
  | some candidate =>
    let opens := lexer.deepens candidate.column
    let lexer := lexer.addBefore candidate.position
      (if opens then [.blockMappingStart, .key] else [.key])
    let lexer := if opens then lexer.deepen candidate.column else lexer
    some (({ lexer with candidate := none }.addSingle .value).allowKey false)
  | none =>
    if !lexer.inFlow && !lexer.keyAllowed then none
    else
      let lexer := lexer.openBlock .blockMappingStart
      some ((lexer.addSingle .value).allowKey !lexer.inFlow)

def lexAnchor (lexer : Lexer) (token : String → Token) : Option Lexer := do
  let lexer ← lexer.saveCandidate
  let (name, cursor) ← readAnchorName lexer.cursor
  return ((lexer.allowKey false).move cursor).add (token name)

def lexTag (lexer : Lexer) : Option Lexer := do
  let lexer ← lexer.saveCandidate
  let (token, cursor) ← readTag lexer.inFlow lexer.cursor
  return ((lexer.allowKey false).move cursor).add token

def lexBlockScalar (lexer : Lexer) (style : ScalarStyle) : Option Lexer := do
  let lexer ← lexer.dropCandidate
  let (text, cursor) ← readBlock (style == .literal) lexer.indent lexer.cursor
  return ((lexer.allowKey true).move cursor).add (.scalar (String.ofList text) style)

def lexQuoted (lexer : Lexer) (style : ScalarStyle) : Option Lexer := do
  let lexer ← lexer.saveCandidate
  let (text, cursor) ← readQuoted (style == .singleQuoted) lexer.cursor
  return ((lexer.allowKey false).move cursor).add (.scalar (String.ofList text) style)

/-- A plain scalar that ended after a line break leaves the lexer at the start of a line. -/
def lexPlain (lexer : Lexer) : Option Lexer := do
  let lexer ← lexer.saveCandidate
  let (text, broken, cursor) ← readPlain lexer.inFlow (lexer.indent + 1).toNat lexer.cursor
  return ((lexer.allowKey broken).move cursor).add (.scalar (String.ofList text) .plain)

/-- Characters that no plain scalar begins with, some exceptions apart. -/
def isIndicator (c : Char) : Bool :=
  "-?:,[]\x7b\x7d#&*!|>'\"%@\x60".toList.contains c

/-- A hyphen may begin a plain scalar before a character that is not blank, outside brackets a
question mark and a colon too. -/
def startsPlain (lexer : Lexer) (c : Char) : Bool :=
  !isIndicator c ||
    (c == '-' && !(lexer.cursor.peekAt 1).elim false isBlank) ||
    (!lexer.inFlow && (c == '?' || c == ':') && !lexer.cursor.gapAt 1)

/-- The token that begins with a character. -/
def lexToken (lexer : Lexer) (c : Char) : Option Lexer :=
  let spaced := lexer.cursor.gapAt 1
  if lexer.cursor.column == 0 && c == '%' then lexer.lexDirective
  else if lexer.cursor.atDocumentMark then
    lexer.lexDocumentMark (if c == '-' then .documentStart else .documentEnd)
  else if c == '[' then lexer.lexFlowStart .flowSequenceStart
  else if c == '\x7b' then lexer.lexFlowStart .flowMappingStart
  else if c == ']' then lexer.lexFlowEnd .flowSequenceEnd
  else if c == '\x7d' then lexer.lexFlowEnd .flowMappingEnd
  else if c == ',' then lexer.lexFlowEntry
  else if c == '-' && spaced then lexer.lexBlockEntry
  else if c == '?' && (lexer.inFlow || spaced) then lexer.lexKey
  else if c == ':' && (lexer.inFlow || spaced) then lexer.lexValue
  else if c == '*' then lexer.lexAnchor .reference
  else if c == '&' then lexer.lexAnchor .anchor
  else if c == '!' then lexer.lexTag
  else if c == '|' && !lexer.inFlow then lexer.lexBlockScalar .literal
  else if c == '>' && !lexer.inFlow then lexer.lexBlockScalar .folded
  else if c == '\'' then lexer.lexQuoted .singleQuoted
  else if c == '"' then lexer.lexQuoted .doubleQuoted
  else if lexer.startsPlain c && !isBlank c then lexer.lexPlain
  else none

/-- At the end every block closes and no key may be missing. -/
def lexEnd (lexer : Lexer) : Option Lexer := do
  let lexer ← (lexer.closeBlocks (-1)).dropCandidate
  return lexer.add .streamEnd

/-- Token after token; each consumes a character, so the fuel is never used up. -/
def lexAll : Nat → Lexer → Option Lexer
  | 0, _ => none
  | fuel + 1, lexer => do
    let lexer ← skipToToken (lexer.cursor.rest.length + 1) lexer
    let lexer ← lexer.dropStale
    let lexer := lexer.closeBlocks lexer.cursor.column
    match lexer.cursor.peek with
    | none => lexer.lexEnd
    | some c => lexAll fuel (← lexer.lexToken c)

/-- The tokens in order, with each opening before the token at its position. -/
def linearise (openings : List (Nat × List Token)) : Nat → List Token → List Token
  | _, [] => []
  | position, token :: rest =>
    (openings.filter (·.1 == position)).flatMap (·.2)
      ++ token :: linearise openings (position + 1) rest

end Lexer

/-- The tokens of a text, or nothing if it is not well-formed. -/
def tokens? (text : String) : Option (List Token) :=
  let cs := text.toList
  if cs.all isAllowed then
    (Lexer.lexAll (cs.length + 1) (.ofText cs)).map fun lexer =>
      Lexer.linearise lexer.openings 0 lexer.tokens.reverse
  else none

end CodeHighlight.Yaml
