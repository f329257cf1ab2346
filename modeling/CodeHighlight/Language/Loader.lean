import CodeHighlight.Catalog
import CodeHighlight.Language.Definition

/-! # Language loaders

A loader is a definition, or a factory that produces one when it is called. What a factory answers
may depend on how often it was called, so calls are counted; factories that share a label share
their count.
-/
namespace CodeHighlight

/-- How often the factories of each label were called. -/
abbrev Calls := Catalog Nat

inductive FactoryShape where
  | immediate
  | deferred
deriving DecidableEq, Repr

inductive Loader where
  | value (definition : Definition)
  /-- The answer to the call after `n` others is `produce n`. -/
  | factory (shape : FactoryShape) (label : String) (produce : Nat → Except Failure Definition)

namespace Loader

/-- Counting begins when a factory is handed over. -/
def announce (loader : Loader) (calls : Calls) : Calls :=
  match loader with
  | value _ => calls
  | factory _ label _ => if calls.contains label then calls else calls.insert label 0

def resolve (loader : Loader) (calls : Calls) : Except Failure Definition × Calls :=
  match loader with
  | value definition => (.ok definition, calls)
  | factory _ label produce =>
    let count := (calls.get? label).getD 0
    (produce count, calls.insert label (count + 1))

def describe : Loader → String
  | value definition => "Value(" ++ Text.quoted definition.id ++ ")"
  | factory .immediate _ _ => "Factory"
  | factory .deferred _ _ => "AsyncFactory"

end Loader

end CodeHighlight
