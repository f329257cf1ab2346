import CodeHighlight.Proofs.Registry.Stages

/-! # The language that a failure names

A definition that cannot be used is reported under a name: that of the definition where its query is
missing, and otherwise the one it was asked for by. A definition need not have a name, and then a
missing query is reported under none. -/
namespace CodeHighlight

variable {engine : Engine} {id name reason : String}

/-- A missing query is reported under the definition's own id, all other defects under the id of the
load. -/
theorem Definition.Defect.invalidLanguage_cases {definition : Definition}
    (h : definition.Defect engine id (.invalidLanguage name reason)) :
    ((∀ query, ¬ definition.Highlights query) ∧ name = definition.id) ∨
      ((∃ query, definition.Highlights query) ∧ name = id) := by
  cases h with
  | query hnone => exact .inl ⟨hnone, rfl⟩
  | grammar hquery _ => exact .inr ⟨⟨_, hquery⟩, rfl⟩
  | malformed hquery _ _ _ => exact .inr ⟨⟨_, hquery⟩, rfl⟩

namespace Registry

variable {registry : Registry}

/-- A load under some id that reports an unusable definition, which its loader has not reported
itself, names the id of the load or that of the definition. It names nothing exactly if the
definition has neither an id nor a query. -/
theorem failed_load_names_language (hid : id ≠ "")
    (hload : (registry.load engine id).1 = .error (.invalidLanguage name reason))
    (hloader : ¬ registry.Resolves id (.error (.invalidLanguage name reason))) :
    ∃ definition, registry.Resolves id (.ok definition) ∧
      (name = id ∨ name = definition.id) ∧
      (name = "" ↔ definition.id = "" ∧ ∀ query, ¬ definition.Highlights query) := by
  cases failsWith_of_load hload with
  | loader hrefused => exact absurd hrefused hloader
  | definition hresolves hdefect =>
    refine ⟨_, hresolves, ?_⟩
    rcases hdefect.invalidLanguage_cases with ⟨hnone, rfl⟩ | ⟨⟨query, hquery⟩, rfl⟩
    · exact ⟨.inr rfl, (and_iff_left hnone).symm⟩
    · refine ⟨.inl rfl, iff_of_false hid ?_⟩
      rintro ⟨-, hnone⟩
      exact hnone query hquery

namespace Anonymous

/-- Neither definition has an id or a grammar, and only this one has a query. -/
def queried : Definition := ⟨"", none, ⟨some Toys.query, none, none⟩⟩

def bare : Definition := ⟨"", none, .absent⟩

def filed : Registry :=
  (Registry.empty.register "queried" (.value queried)).register "bare" (.value bare)

theorem not_refused {id : String} {definition : Definition} {failure : Failure}
    (h : filed.loaders.get? id = some (.value definition)) :
    ¬ filed.Resolves id (.error failure) := by
  rintro ⟨loader, hloader, hanswer⟩
  obtain rfl : .value definition = loader := Option.some.inj (h.symm.trans hloader)
  cases hanswer

end Anonymous

open Anonymous in
/-- Without a grammar the failure has the id of the load, though the definition has none. -/
theorem failed_load_names_language_of_queried :
    (filed.load Toys.willing "queried").1 = .error (.invalidLanguage "queried"
        "no grammar: provide a binary grammar or a grammar URL") ∧
      ∃ definition, filed.Resolves "queried" (.ok definition) ∧
        ("queried" = "queried" ∨ "queried" = definition.id) ∧
        ("queried" = "" ↔ definition.id = "" ∧ ∀ query, ¬ definition.Highlights query) := by
  have hload : (filed.load Toys.willing "queried").1 = .error (.invalidLanguage "queried"
      "no grammar: provide a binary grammar or a grammar URL") := rfl
  have hvalue : filed.loaders.get? "queried" = some (.value queried) := rfl
  exact ⟨hload, failed_load_names_language (by decide) hload (not_refused hvalue)⟩

open Anonymous in
/-- Without a query the failure has no id at all. -/
theorem bare_failure_names_nothing :
    "bare" ≠ "" ∧
      (filed.load Toys.willing "bare").1 =
        .error (.invalidLanguage "" "missing highlights query") ∧
      ∀ failure, ¬ filed.Resolves "bare" (.error failure) := by
  have hvalue : filed.loaders.get? "bare" = some (.value bare) := rfl
  exact ⟨by decide, rfl, fun _ => not_refused hvalue⟩

end Registry

end CodeHighlight
