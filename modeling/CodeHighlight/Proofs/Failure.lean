import CodeHighlight.Failure

/-! # Failures in chains of steps

What a chain of steps that may fail answers is told from the answers of its steps. A failure that is
reported in words is still told apart from the others. -/
namespace CodeHighlight

variable {failure : Failure}

/-- A chain of steps fails where its first step does or where the rest does. -/
theorem Failure.of_bind {α β : Type} {first : Except Failure α} {next : α → Except Failure β}
    (h : (first >>= next) = .error failure) :
    first = .error failure ∨ ∃ value, first = .ok value ∧ next value = .error failure := by
  cases first with
  | error reason =>
    cases h
    exact Or.inl rfl
  | ok value => exact Or.inr ⟨value, rfl, h⟩

theorem Failure.ok_of_bind {ε α β : Type} {first : Except ε α} {next : α → Except ε β}
    {result : β} (h : (first >>= next) = .ok result) :
    ∃ value, first = .ok value ∧ next value = .ok result := by
  cases first with
  | error reason => cases h
  | ok value => exact ⟨value, rfl, h⟩

theorem Failure.map_error_iff {α β : Type} {answer : Except Failure α} {f : α → β} :
    answer.map f = .error failure ↔ answer = .error failure := by
  cases answer <;> simp [Except.map]

theorem Failure.exists_ok_iff {α : Type} {answer : Except Failure α} :
    (∃ value, answer = .ok value) ↔ ∀ failure, answer ≠ .error failure := by
  cases answer <;> simp

theorem Failure.toOption_eq_some_iff {α : Type} {answer : Except Failure α} {value : α} :
    answer.toOption = some value ↔ answer = .ok value := by
  cases answer <;> simp [Except.toOption]

theorem Failure.mapError_eq_ok_iff {ε α : Type} {answer : Except ε α} {f : ε → Failure}
    {value : α} : answer.mapError f = .ok value ↔ answer = .ok value := by
  cases answer with
  | error reason => exact ⟨nofun, nofun⟩
  | ok found =>
    change (Except.ok found : Except Failure α) = .ok value ↔ _
    rw [Except.ok.injEq, Except.ok.injEq]

theorem Failure.isRecoverable_eq_false :
    failure.isRecoverable = false ↔ ∃ themeId, failure = .configuration themeId := by
  cases failure <;> simp [Failure.isRecoverable]

theorem Failure.bind_eq_ok_iff {α β : Type} {first : Except Failure α}
    {next : α → Except Failure β} {result : β} :
    (first >>= next) = .ok result ↔ ∃ value, first = .ok value ∧ next value = .ok result := by
  constructor
  · exact Failure.ok_of_bind
  · rintro ⟨value, rfl, h⟩
    exact h

theorem Failure.bind_eq_error_iff {α β : Type} {first : Except Failure α}
    {next : α → Except Failure β} :
    (first >>= next) = .error failure ↔
      first = .error failure ∨ ∃ value, first = .ok value ∧ next value = .error failure := by
  constructor
  · exact Failure.of_bind
  · rintro (rfl | ⟨value, rfl, h⟩)
    · rfl
    · exact h

/-! ## What a failure says -/

theorem Failure.head?_causes (failure : Failure) :
    failure.causes.head? = some failure.message := by
  cases failure <;> rfl

/-- Only the message of a missing language begins like this. -/
theorem Failure.of_message_eq_unknown {id : String}
    (h : failure.message = (Failure.unknownLanguage id).message) :
    ∃ other, failure = .unknownLanguage other := by
  have hhead := congrArg (·.toList.head?) h
  rw [Failure.message.eq_def, Failure.message.eq_def] at hhead
  cases failure with
  | unknownLanguage other => exact ⟨other, rfl⟩
  | _ => simp at hhead

theorem Failure.of_causes_eq_unknown {id : String}
    (h : failure.causes = (Failure.unknownLanguage id).causes) :
    ∃ other, failure = .unknownLanguage other := by
  have hmessage := congrArg List.head? h
  rw [head?_causes, head?_causes, Option.some.injEq] at hmessage
  exact of_message_eq_unknown hmessage

end CodeHighlight
