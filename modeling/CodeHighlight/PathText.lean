/-! # Paths as text

The parts of a path name, read off its text. Slashes separate; empty parts and single dots are of no
account.
-/
namespace CodeHighlight.PathText

def splitLast? (separator : Char) : List Char → Option (List Char × List Char)
  | [] => none
  | c :: cs =>
    match splitLast? separator cs with
    | some (before, after) => some (c :: before, after)
    | none => if c = separator then some ([], cs) else none

/-- The parts between slashes, the first of them preceded by `part`. -/
def segmentsFrom (part : List Char) : List Char → List (List Char)
  | [] => [part]
  | c :: cs => if c = '/' then part :: segmentsFrom [] cs else segmentsFrom (part ++ [c]) cs

def segments (path : String) : List String :=
  (segmentsFrom [] path.toList).map String.ofList

/-- The last part, unless it leads to the parent directory. -/
def fileName? (path : String) : Option String :=
  match (segments path).reverse.dropWhile fun part => part.isEmpty || part == "." with
  | [] => none
  | part :: _ => if part == ".." then none else some part

/-- A name before and after its last dot; a dot that begins the name is part of it. -/
def splitName (name : String) : String × Option String :=
  match splitLast? '.' name.toList with
  | some (before, after) =>
    if before.isEmpty then (name, none) else (String.ofList before, some (String.ofList after))
  | none => (name, none)

def extension? (path : String) : Option String :=
  (fileName? path).bind fun name => (splitName name).2

def stem? (path : String) : Option String :=
  (fileName? path).map fun name => (splitName name).1

/-- The last part of a path, apart from slashes and single dots at its end. -/
def IsFinal (path name : String) : Prop :=
  ∃ above below, path.toList.splitOn '/' = above ++ name.toList :: below ∧
    name ≠ "" ∧ name ≠ "." ∧ ∀ part ∈ below, part = [] ∨ part = ['.']

/-- What stands after the last dot of the last part, if something stands before that dot. Two dots
by themselves lead to the parent directory. -/
def HasExtension (path extension : String) : Prop :=
  ∃ stem, IsFinal path (stem ++ "." ++ extension) ∧ stem ≠ "" ∧ '.' ∉ extension.toList ∧
    stem ++ "." ++ extension ≠ ".."

/-- A path below a directory. A path from the root stays what it is. -/
def join (directory path : String) : String :=
  if path.startsWith "/" || directory.isEmpty then path
  else if directory.endsWith "/" then directory ++ path
  else directory ++ "/" ++ path

end CodeHighlight.PathText
