import CodeHighlight.Text.CaseRuns

/-! # Lower case

The full lower case of Unicode. It goes character by character, except that a capital sigma at the
end of a word has a form of its own.
-/
namespace CodeHighlight.Text

def inRanges (ranges : List (Nat × Nat)) (c : Char) : Bool :=
  ranges.any fun range => range.1 ≤ c.toNat && c.toNat ≤ range.2

def isCased (c : Char) : Bool := inRanges casedRanges c

def isCaseIgnorable (c : Char) : Bool := inRanges caseIgnorableRanges c

def CaseRun.contains (run : CaseRun) (n : Nat) : Bool :=
  run.first ≤ n && n ≤ run.last && (n - run.first) % run.step == 0

/-- The lower case of a character outside any word. -/
def lowercaseChar (c : Char) : List Char :=
  if c == 'İ' then ['i', '\u0307']
  else
    match lowercaseRuns.find? (·.contains c.toNat) with
    | some run => [Char.ofNat (c.toNat + run.shift).toNat]
    | none => [c]

def meetsCased (cs : List Char) : Bool :=
  ((cs.dropWhile isCaseIgnorable).head?.map isCased).getD false

/-- The lower case of what follows the characters `before`, which are in reverse. -/
def lowercaseFrom (before : List Char) : List Char → List Char
  | [] => []
  | c :: cs =>
    (if c == 'Σ' then [if meetsCased before && !meetsCased cs then 'ς' else 'σ']
      else lowercaseChar c) ++ lowercaseFrom (c :: before) cs

def lowercase (text : String) : String :=
  String.ofList (lowercaseFrom [] text.toList)

end CodeHighlight.Text
