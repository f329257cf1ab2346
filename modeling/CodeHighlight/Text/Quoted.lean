import CodeHighlight.Text.Lowercase
import CodeHighlight.Text.PrintRuns

/-! # Quoted text

Diagnostics show a text between double quotes, with every character that would not be seen written
out by its number.
-/
namespace CodeHighlight.Text

def isPrintable (c : Char) : Bool := !inRanges unprintableRanges c

/-- The character joins the one before it. -/
def extendsGrapheme (c : Char) : Bool := inRanges graphemeExtendRanges c

def numbered (c : Char) : List Char :=
  '\\' :: 'u' :: '\x7b' :: (Nat.toDigits 16 c.toNat ++ ['\x7d'])

def quotedChar (c : Char) : List Char :=
  match c with
  | '\x00' => ['\\', '0']
  | '\t' => ['\\', 't']
  | '\r' => ['\\', 'r']
  | '\n' => ['\\', 'n']
  | '\\' => ['\\', '\\']
  | '"' => ['\\', '"']
  | c => if extendsGrapheme c || !isPrintable c then numbered c else [c]

def quoted (text : String) : String :=
  "\"" ++ String.ofList (text.toList.flatMap quotedChar) ++ "\""

def bracketed (items : List String) : String :=
  "[" ++ String.intercalate ", " items ++ "]"

end CodeHighlight.Text
