import CodeHighlight.Language.Builtin
import CodeHighlight.Language.Detection
import CodeHighlight.Proofs.PathText

/-! # What detection goes by

The language of a file is told from the extension of its path in lower case, and from nothing else.
Only languages of the library are detected, and each of them is. -/
namespace CodeHighlight

open CodeHighlight.PathText

variable {path extension id : String}

theorem languageForPath?_of_extension (h : HasExtension path extension) :
    languageForPath? path = languageForExtension? (Text.lowercase extension) := by
  rw [languageForPath?, extension?_iff_hasExtension.mpr h, Option.bind_some]

theorem languageForPath?_of_none (h : ∀ extension, ¬ HasExtension path extension) :
    languageForPath? path = none := by
  have hnone : extension? path = none := by
    rw [Option.eq_none_iff_forall_ne_some]
    intro extension hextension
    exact h extension (extension?_iff_hasExtension.mp hextension)
  rw [languageForPath?, hnone]
  rfl

/-! ## The languages of the library -/

/-- The languages that extensions stand for are those that have definitions. -/
theorem mem_builtins_of_mem_extensions :
    ∀ entry ∈ extensions, entry.2 ∈ Definition.builtins.map (·.id) := by
  decide

theorem exists_builtin_of_extension (h : languageForExtension? extension = some id) :
    ∃ definition ∈ Definition.builtins, definition.id = id := by
  obtain ⟨before, after, hextensions, -⟩ := List.lookup_eq_some_iff.mp h
  have hentry : (extension, id) ∈ extensions := by
    rw [hextensions]
    simp
  exact List.mem_map.mp (mem_builtins_of_mem_extensions _ hentry)

theorem exists_builtin_of_detected (h : languageForPath? path = some id) :
    ∃ definition ∈ Definition.builtins, definition.id = id := by
  obtain ⟨extension, -, hlanguage⟩ := Option.bind_eq_some_iff.mp h
  exact exists_builtin_of_extension hlanguage

/-- The name of a file that has this extension, if there is neither a dot nor a slash in it. -/
theorem hasExtension_of_plain (hempty : extension ≠ "") (hdot : '.' ∉ extension.toList)
    (hslash : '/' ∉ extension.toList) : HasExtension ("x." ++ extension) extension := by
  have hname : '/' ∉ ("x." ++ extension).toList := by simpa using hslash
  rw [← extension?_iff_hasExtension, extension?_eq_some_iff hname hempty]
  exact ⟨"x", rfl, by decide, hdot⟩

/-- Every language of the library has an extension that stands for it as it is written. -/
theorem exists_extension_of_mem_builtins : ∀ definition ∈ Definition.builtins,
    ∃ entry ∈ extensions, languageForExtension? (Text.lowercase entry.1) = some definition.id ∧
      entry.1 ≠ "" ∧ '.' ∉ entry.1.toList ∧ '/' ∉ entry.1.toList := by
  decide +kernel

theorem exists_detected {definition : Definition} (h : definition ∈ Definition.builtins) :
    ∃ path, languageForPath? path = some definition.id := by
  obtain ⟨entry, -, hlanguage, hempty, hdot, hslash⟩ :=
    exists_extension_of_mem_builtins definition h
  exact ⟨_, (languageForPath?_of_extension (hasExtension_of_plain hempty hdot hslash)).trans
    hlanguage⟩

end CodeHighlight
