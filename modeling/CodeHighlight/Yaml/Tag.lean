/-! # YAML tags

A tag names a type. It is a sequence of bytes, since escapes write it byte by byte, and it ends at
the first null byte.
-/
namespace CodeHighlight.Yaml

structure Tag where
  bytes : List UInt8
deriving DecidableEq, Repr

namespace Tag

/-- The bytes before the first null byte. -/
def upToNull (bytes : List UInt8) : List UInt8 := bytes.takeWhile (· != 0)

/-- What a handle stands for, and what the tag adds to it; each ends at its own null byte. -/
def ofParts (stem suffix : List UInt8) : Tag := ⟨upToNull stem ++ upToNull suffix⟩

def ofString (text : String) : Tag := ⟨text.toUTF8.toList⟩

/-- A type that every reader of documents knows. -/
def core (name : String) : Tag := ofString ("tag:yaml.org,2002:" ++ name)

/-- The tag asks for a type of the application's own. -/
def isOwn (tag : Tag) : Bool :=
  tag.bytes.head? == some 0x21 && (String.fromUTF8? tag.bytes.toByteArray).isSome

/-- The tag begins as one of the application's own does, but spells no name. -/
def isGarbled (tag : Tag) : Bool :=
  tag.bytes.head? == some 0x21 && !tag.isOwn

end Tag

end CodeHighlight.Yaml
