import CodeHighlight.Proofs.Failure
import CodeHighlight.Proofs.Language.Embedded
import CodeHighlight.Registry.Stages

/-! # What becomes of a definition

Each stage between a definition and a state either hands on what it found or decides the answer. So
a definition makes a state exactly if nothing is wrong with it, and otherwise fails with its first
defect. -/
namespace CodeHighlight

variable {engine : Engine} {failure : Failure}

/-! ## The query -/

section

variable {definition : Definition} {query : Query}

theorem Definition.filter_highlights_iff :
    (definition.queries.highlights.filter fun query => !query.isBlank) = some query ↔
      definition.Highlights query := by
  rw [Option.filter_eq_some_iff, Definition.Highlights, Bool.not_eq_true']

theorem Definition.highlightQuery_eq_ok_iff :
    definition.highlightQuery = .ok query ↔ definition.Highlights query := by
  rw [← filter_highlights_iff, highlightQuery]
  cases definition.queries.highlights.filter fun query => !query.isBlank <;> simp

theorem Definition.highlightQuery_eq_error_iff :
    definition.highlightQuery = .error failure ↔
      (∀ query, ¬ definition.Highlights query) ∧
        failure = .invalidLanguage definition.id "missing highlights query" := by
  simp only [← filter_highlights_iff]
  rw [highlightQuery]
  cases definition.queries.highlights.filter fun query => !query.isBlank with
  | none => simp [eq_comm]
  | some query => simp

end

/-! ## The grammar -/

section

variable {name : String} {grammar : Grammar} {native : NativeGrammar}

theorem Engine.compileGrammar_eq_ok_iff :
    engine.compileGrammar name grammar = .ok native ↔ grammar = .native native := by
  cases grammar with
  | native other => simp [Engine.compileGrammar]
  | binary bytes => simp [Engine.compileGrammar]
  | embedded text =>
    rw [Engine.compileGrammar, Failure.bind_eq_ok_iff]
    simp
  | url address =>
    rw [Engine.compileGrammar]
    cases engine.download address <;> simp

theorem Engine.compileGrammar_eq_error_iff :
    engine.compileGrammar name grammar = .error failure ↔
      ∃ reason, grammar.Unusable engine name reason ∧ failure = .backendUnavailable reason := by
  constructor
  · intro h
    cases grammar with
    | native native => cases h
    | binary bytes =>
      cases h
      exact ⟨_, .unsupported .binary, rfl⟩
    | embedded text =>
      rcases Failure.of_bind h with h | ⟨bytes, hbytes, h⟩
      · rcases Grammar.decodeEmbedded_cases text with ⟨bytes, hbytes⟩ | ⟨reason, hreason⟩
        · cases hbytes.symm.trans h
        · cases hreason.symm.trans h
          exact ⟨reason, .undecoded hreason, rfl⟩
      · cases h
        exact ⟨_, .unsupported (.embedded hbytes), rfl⟩
    | url address =>
      rw [Engine.compileGrammar] at h
      cases hdownload : engine.download address with
      | none =>
        rw [hdownload] at h
        cases h
        exact ⟨_, .absent hdownload, rfl⟩
      | some bytes =>
        rw [hdownload] at h
        cases h
        exact ⟨_, .unsupported (.url hdownload), rfl⟩
  · rintro ⟨reason, hunusable, rfl⟩
    cases hunusable with
    | undecoded h => exact congrArg (· >>= _) h
    | absent h => rw [Engine.compileGrammar, h]
    | unsupported hyields =>
      cases hyields with
      | binary => rfl
      | embedded h => exact congrArg (· >>= _) h
      | url h =>
        rw [Engine.compileGrammar, h]
        rfl

end

/-! ## The parser -/

section

variable {id : String} {native : NativeGrammar} {query : Query} {state : LanguageState}

theorem LanguageState.build_eq_ok_iff :
    LanguageState.build engine id native query = .ok state ↔
      engine.refusal native = none ∧ ∃ captureNames,
        engine.compileQuery native query = .ok captureNames ∧
          state = ⟨id, native, query, captureNames⟩ := by
  rw [build]
  cases engine.refusal native with
  | some reason => simp
  | none => cases engine.compileQuery native query <;> simp [eq_comm]

theorem LanguageState.build_eq_error_iff :
    LanguageState.build engine id native query = .error failure ↔
      (∃ reason, engine.refusal native = some reason ∧
        failure = .backendUnavailable
          ("grammar for \"" ++ id ++ "\" is incompatible: " ++ reason)) ∨
      engine.refusal native = none ∧ ∃ reason, engine.compileQuery native query = .error reason ∧
        failure = .invalidLanguage id ("malformed highlights query: " ++ reason) := by
  rw [build]
  cases engine.refusal native with
  | some reason => simp [eq_comm]
  | none => cases engine.compileQuery native query <;> simp [eq_comm]

end

namespace Registry

variable {id : String} {definition : Definition} {state : LanguageState}

/-! ## From the definition to the state -/

theorem buildState_eq_ok_iff :
    buildState engine id definition = .ok state ↔ definition.Makes engine id state := by
  rw [buildState, Failure.bind_eq_ok_iff]
  constructor
  · rintro ⟨query, hquery, h⟩
    rw [Definition.highlightQuery_eq_ok_iff] at hquery
    cases hgrammar : definition.grammar with
    | none =>
      rw [hgrammar] at h
      cases h
    | some grammar =>
      rw [hgrammar] at h
      obtain ⟨native, hnative, h⟩ := Failure.ok_of_bind h
      rw [Engine.compileGrammar_eq_ok_iff] at hnative
      subst hnative
      obtain ⟨haccepted, captureNames, hcompiled, rfl⟩ := LanguageState.build_eq_ok_iff.mp h
      exact ⟨query, native, captureNames, hquery, hgrammar, haccepted, hcompiled, rfl⟩
  · rintro ⟨query, native, captureNames, hquery, hgrammar, haccepted, hcompiled, rfl⟩
    refine ⟨query, Definition.highlightQuery_eq_ok_iff.mpr hquery, ?_⟩
    rw [hgrammar]
    exact LanguageState.build_eq_ok_iff.mpr ⟨haccepted, captureNames, hcompiled, rfl⟩

theorem buildState_eq_error_iff :
    buildState engine id definition = .error failure ↔ definition.Defect engine id failure := by
  rw [buildState, Failure.bind_eq_error_iff]
  constructor
  · rintro (h | ⟨query, hquery, h⟩)
    · obtain ⟨hnone, rfl⟩ := Definition.highlightQuery_eq_error_iff.mp h
      exact .query hnone
    · rw [Definition.highlightQuery_eq_ok_iff] at hquery
      cases hgrammar : definition.grammar with
      | none =>
        rw [hgrammar] at h
        cases h
        exact .grammar hquery hgrammar
      | some grammar =>
        rw [hgrammar] at h
        rcases Failure.of_bind h with h | ⟨native, hnative, h⟩
        · obtain ⟨reason, hunusable, rfl⟩ := Engine.compileGrammar_eq_error_iff.mp h
          exact .compilation hquery hgrammar hunusable
        · rw [Engine.compileGrammar_eq_ok_iff] at hnative
          subst hnative
          rcases LanguageState.build_eq_error_iff.mp h with
            ⟨reason, hrefused, rfl⟩ | ⟨haccepted, reason, hmalformed, rfl⟩
          · exact .refusal hquery hgrammar hrefused
          · exact .malformed hquery hgrammar haccepted hmalformed
  · intro h
    cases h with
    | query hnone => exact .inl (Definition.highlightQuery_eq_error_iff.mpr ⟨hnone, rfl⟩)
    | grammar hquery hgrammar =>
      refine .inr ⟨_, Definition.highlightQuery_eq_ok_iff.mpr hquery, ?_⟩
      rw [hgrammar]
    | compilation hquery hgrammar hunusable =>
      refine .inr ⟨_, Definition.highlightQuery_eq_ok_iff.mpr hquery, ?_⟩
      rw [hgrammar]
      exact Failure.bind_eq_error_iff.mpr
        (.inl (Engine.compileGrammar_eq_error_iff.mpr ⟨_, hunusable, rfl⟩))
    | refusal hquery hgrammar hrefused =>
      refine .inr ⟨_, Definition.highlightQuery_eq_ok_iff.mpr hquery, ?_⟩
      rw [hgrammar]
      exact LanguageState.build_eq_error_iff.mpr (.inl ⟨_, hrefused, rfl⟩)
    | malformed hquery hgrammar haccepted hmalformed =>
      refine .inr ⟨_, Definition.highlightQuery_eq_ok_iff.mpr hquery, ?_⟩
      rw [hgrammar]
      exact LanguageState.build_eq_error_iff.mpr (.inr ⟨haccepted, _, hmalformed, rfl⟩)

end Registry

end CodeHighlight
