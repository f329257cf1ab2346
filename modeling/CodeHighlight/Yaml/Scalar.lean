import CodeHighlight.Json.Reader
import CodeHighlight.Yaml.Cursor

/-! # Reading YAML scalars

Plain, quoted and block scalars. Line breaks inside plain and quoted scalars fold: one break
becomes a space, and of several breaks all but the first remain.
-/
namespace CodeHighlight.Yaml

/-- Blanks and breaks between two stretches of a scalar. After a break blanks only indent. -/
structure Gap where
  blanks : List Char
  firstBreak : List Char
  laterBreaks : List Char
  broken : Bool

def Gap.empty : Gap := ⟨[], [], [], false⟩

/-- A gap that begins with an escaped break, which leaves nothing behind. -/
def Gap.escaped : Gap := ⟨[], [], [], true⟩

def Gap.fold (gap : Gap) : List Char :=
  if gap.broken then
    if gap.firstBreak = ['\n'] then
      if gap.laterBreaks.isEmpty then [' '] else gap.laterBreaks
    else gap.firstBreak ++ gap.laterBreaks
  else gap.blanks

/-- Read blanks and breaks. On a later line no tab may stand before column `margin`. -/
def readGap (margin : Nat) : Nat → Gap → Cursor → Option (Gap × Cursor)
  | 0, _, _ => none
  | fuel + 1, gap, cursor =>
    match cursor.peek with
    | none => some (gap, cursor)
    | some c =>
      if isBlank c then
        if gap.broken then
          if c == '\t' && cursor.column < margin then none
          else readGap margin fuel gap cursor.skip
        else readGap margin fuel { gap with blanks := gap.blanks ++ [c] } cursor.skip
      else if isBreak c then
        if gap.broken then
          readGap margin fuel { gap with laterBreaks := gap.laterBreaks ++ cursor.breakText }
            cursor.skipBreak
        else readGap margin fuel ⟨[], cursor.breakText, gap.laterBreaks, true⟩ cursor.skipBreak
      else some (gap, cursor)

/-! ## Plain scalars -/

def isFlowIndicator (c : Char) : Bool :=
  c == ',' || c == '[' || c == ']' || c == '\x7b' || c == '\x7d'

/-- Characters up to a gap or an indicator. Inside brackets a colon may not stand right before an
indicator or a question mark. -/
def readPlainStretch (inFlow : Bool) : Nat → Cursor → Option (List Char × Cursor)
  | 0, _ => none
  | fuel + 1, cursor =>
    match cursor.peek with
    | none => some ([], cursor)
    | some c =>
      if isBlank c || isBreak c then some ([], cursor)
      else if inFlow && c == ':' &&
          (cursor.peekAt 1).elim false (fun d => isFlowIndicator d || d == '?') then none
      else if (c == ':' && cursor.gapAt 1) || (inFlow && isFlowIndicator c) then some ([], cursor)
      else (readPlainStretch inFlow fuel cursor.skip).map fun (cs, cursor) => (c :: cs, cursor)

/-- The rest of a plain scalar, `pending` being the folded gap before it. The flag tells that the
scalar ended after a line break. -/
def readPlainRest (inFlow : Bool) (margin : Nat) (pending : Gap) :
    Nat → Cursor → Option (List Char × Bool × Cursor)
  | 0, _ => none
  | fuel + 1, cursor =>
    if cursor.atDocumentMark || cursor.looksAt '#' then some ([], pending.broken, cursor)
    else do
      let (stretch, next) ← readPlainStretch inFlow (cursor.rest.length + 1) cursor
      let kept := if stretch.isEmpty then [] else pending.fold ++ stretch
      let carried := if stretch.isEmpty then pending else Gap.empty
      if next.atBlank || next.atBreak then
        let (gap, next) ← readGap margin (next.rest.length + 1) carried next
        if !inFlow && next.column < margin then return (kept, gap.broken, next)
        let (more, broken, next) ← readPlainRest inFlow margin gap fuel next
        return (kept ++ more, broken, next)
      else return (kept, carried.broken, next)

/-- A plain scalar, whether a line break follows it, and where it ends. -/
def readPlain (inFlow : Bool) (margin : Nat) (cursor : Cursor) :
    Option (List Char × Bool × Cursor) :=
  readPlainRest inFlow margin .empty (cursor.rest.length + 1) cursor

/-! ## Quoted scalars -/

def shortEscape? : Char → Option Char
  | '0' => some '\x00'
  | 'a' => some '\x07'
  | 'b' => some '\x08'
  | 't' => some '\t'
  | '\t' => some '\t'
  | 'n' => some '\n'
  | 'v' => some '\x0b'
  | 'f' => some '\x0c'
  | 'r' => some '\r'
  | 'e' => some '\x1b'
  | ' ' => some ' '
  | '"' => some '"'
  | '/' => some '/'
  | '\\' => some '\\'
  | 'N' => some '\u0085'
  | '_' => some '\u00a0'
  | 'L' => some '\u2028'
  | 'P' => some '\u2029'
  | _ => none

/-- How many hexadecimal digits follow a backslash and this letter. -/
def escapeWidth? : Char → Option Nat
  | 'x' => some 2
  | 'u' => some 4
  | 'U' => some 8
  | _ => none

def hexValue? (digits : List Char) : Option Nat :=
  digits.foldlM (fun value c => (Json.hexDigit? c).map (value * 16 + ·)) 0

def readEscape (cursor : Cursor) : Option (Char × Cursor) := do
  let c ← cursor.peek
  match shortEscape? c with
  | some escaped => return (escaped, cursor.skip)
  | none =>
    let width ← escapeWidth? c
    let digits := (cursor.rest.drop 1).take width
    if digits.length < width then none
    else
      let value ← hexValue? digits
      if value.isValidChar then return (Char.ofNat value, cursor.skipMany (width + 1)) else none

/-- Characters up to a gap or the closing quote. The flag tells that an escaped line break ended
the stretch. -/
def readQuotedStretch (single : Bool) : Nat → Cursor → Option (List Char × Bool × Cursor)
  | 0, _ => none
  | fuel + 1, cursor =>
    match cursor.peek with
    | none => some ([], false, cursor)
    | some c =>
      if isBlank c || isBreak c then some ([], false, cursor)
      else if single then
        if c == '\'' then
          if cursor.peekAt 1 == some '\'' then
            (readQuotedStretch single fuel (cursor.skipMany 2)).map fun (cs, cut) => (c :: cs, cut)
          else some ([], false, cursor)
        else (readQuotedStretch single fuel cursor.skip).map fun (cs, cut) => (c :: cs, cut)
      else if c == '"' then some ([], false, cursor)
      else if c == '\\' then
        if (cursor.skip).atBreak then some ([], true, cursor.skip.skipBreak)
        else do
          let (escaped, next) ← readEscape cursor.skip
          let (cs, cut) ← readQuotedStretch single fuel next
          return (escaped :: cs, cut)
      else (readQuotedStretch single fuel cursor.skip).map fun (cs, cut) => (c :: cs, cut)

def readQuotedRest (single : Bool) : Nat → Cursor → Option (List Char × Cursor)
  | 0, _ => none
  | fuel + 1, cursor =>
    if cursor.atDocumentMark || cursor.atEnd then none
    else do
      let (stretch, escapedBreak, next) ← readQuotedStretch single (cursor.rest.length + 1) cursor
      if next.looksAt (if single then '\'' else '"') then return (stretch, next.skip)
      else
        let opening := if escapedBreak then Gap.escaped else Gap.empty
        let (gap, next) ← readGap 0 (next.rest.length + 1) opening next
        let (more, next) ← readQuotedRest single fuel next
        return (stretch ++ gap.fold ++ more, next)

def readQuoted (single : Bool) (cursor : Cursor) : Option (List Char × Cursor) :=
  readQuotedRest single (cursor.rest.length + 1) cursor.skip

/-! ## Block scalars -/

inductive Chomping where
  | strip
  | clip
  | keep
deriving DecidableEq, Repr

def chomping? : Char → Option Chomping
  | '+' => some .keep
  | '-' => some .strip
  | _ => none

/-- An explicit indentation, one digit other than zero. The inner option is absence, the outer one
failure. -/
def readIndentDigit (cursor : Cursor) : Option (Option Nat × Cursor) :=
  match cursor.peek with
  | some c =>
    if '0' ≤ c && c ≤ '9' then
      if c == '0' then none else some (some (c.toNat - 48), cursor.skip)
    else some (none, cursor)
  | none => some (none, cursor)

def readChomping (cursor : Cursor) : Chomping × Cursor :=
  match cursor.peek.bind chomping? with
  | some chomping => (chomping, cursor.skip)
  | none => (.clip, cursor)

/-- The line of the indicator: chomping and indentation in either order, then blanks and a
comment. -/
def readBlockHeader (cursor : Cursor) : Option (Chomping × Option Nat × Cursor) := do
  let (chomping, increment, cursor) ←
    match cursor.peek.bind chomping? with
    | some chomping =>
      (readIndentDigit cursor.skip).map fun (increment, cursor) => (chomping, increment, cursor)
    | none =>
      (readIndentDigit cursor).map fun (increment, cursor) =>
        match increment with
        | some _ =>
          let (chomping, cursor) := readChomping cursor
          (chomping, increment, cursor)
        | none => (.clip, none, cursor)
  let cursor := cursor.skipWhile isBlank
  let cursor := if cursor.looksAt '#' then cursor.skipLineRest else cursor
  if cursor.atEnd then return (chomping, increment, cursor)
  else if cursor.atBreak then return (chomping, increment, cursor.skipBreak)
  else none

/-- Indentation and empty lines before the next line of text. `indent` is zero while it is not
known; `widest` is the greatest column seen. No tab may stand in the indentation. -/
def readBlockBreaks (indent : Nat) :
    Nat → Nat → List Char → Cursor → Option (Nat × List Char × Cursor)
  | 0, _, _, _ => none
  | fuel + 1, widest, breaks, cursor =>
    let spaces := (cursor.rest.takeWhile (· == ' ')).length
    let cursor :=
      cursor.skipMany (if indent = 0 then spaces else min spaces (indent - cursor.column))
    let widest := max widest cursor.column
    if (indent = 0 || cursor.column < indent) && cursor.looksAt '\t' then none
    else if cursor.atBreak then
      readBlockBreaks indent fuel widest (breaks ++ cursor.breakText) cursor.skipBreak
    else some (widest, breaks, cursor)

/-- The lines of a block scalar. `leadingBreak` ended the line before, `breaks` are the empty lines
after it, and `leadingBlank` tells that it began with a blank. -/
def readBlockLines (literal : Bool) (indent : Nat) :
    Nat → List Char → List Char → Bool → Cursor →
      Option (List Char × List Char × List Char × Cursor)
  | 0, _, _, _, _ => none
  | fuel + 1, leadingBreak, breaks, leadingBlank, cursor =>
    if cursor.column = indent && !cursor.atEnd then do
      let blank := cursor.atBlank
      let joint :=
        if !literal && leadingBreak = ['\n'] && !leadingBlank && !blank then
          if breaks.isEmpty then [' '] else []
        else leadingBreak
      let line := cursor.rest.takeWhile fun c => !isBreak c
      let next := cursor.skipLineRest
      let nextBreak := next.breakText
      let next := if next.atBreak then next.skipBreak else next
      let (_, nextBreaks, next) ← readBlockBreaks indent (next.rest.length + 1) 0 [] next
      let (more, lastBreak, lastBreaks, next) ←
        readBlockLines literal indent fuel nextBreak nextBreaks blank next
      return (joint ++ breaks ++ line ++ more, lastBreak, lastBreaks, next)
    else some ([], leadingBreak, breaks, cursor)

/-- A block scalar, from its indicator on, below a block of the given indentation. -/
def readBlock (literal : Bool) (parentIndent : Int) (cursor : Cursor) :
    Option (List Char × Cursor) := do
  let (chomping, increment, cursor) ← readBlockHeader cursor.skip
  let fixed :=
    match increment with
    | some width => if 0 ≤ parentIndent then parentIndent.toNat + width else width
    | none => 0
  let (widest, breaks, cursor) ←
    readBlockBreaks fixed (cursor.rest.length + 1) 0 [] cursor
  let indent := if fixed = 0 then max (max widest (parentIndent + 1).toNat) 1 else fixed
  let (text, lastBreak, lastBreaks, cursor) ←
    readBlockLines literal indent (cursor.rest.length + 1) [] breaks false cursor
  let tail :=
    match chomping with
    | .strip => []
    | .clip => lastBreak
    | .keep => lastBreak ++ lastBreaks
  return (text ++ tail, cursor)

end CodeHighlight.Yaml
