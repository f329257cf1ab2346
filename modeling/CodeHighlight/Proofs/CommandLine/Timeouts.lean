import CodeHighlight.CommandLine.Request
import CodeHighlight.Engine
import CodeHighlight.Proofs.Failure

/-! # Timeouts of a call

A timeout is read as a number of 64 bits, and no other argument changes it. The clock goes on for as
long as any of those, so the deadline of a call can always be set. -/
namespace CodeHighlight.CommandLine

/-- A timeout that was read is a number of 64 bits. -/
def Arguments.TimeoutFits (arguments : Arguments) : Prop :=
  ∀ length ∈ arguments.timeout, length < Nat.pow 2 64

variable {arguments filled : Arguments} {progress after : Progress}

theorem readNumber?_lt {text : String} {number : Nat} (h : readNumber? text = some number) :
    number < Nat.pow 2 64 := by
  rw [readNumber?] at h
  -- With a plus sign and without one.
  split at h
  all_goals
    dsimp only at h
    split at h
    · cases h
    · split at h
      · rename_i hlt
        obtain rfl := Option.some.inj h
        exact hlt
      · cases h

namespace Arguments.TimeoutFits

theorem none : Arguments.none.TimeoutFits := by
  intro length hlength
  cases hlength

/-- A value that is filled in is the timeout, and then it was read, or leaves the timeout alone. -/
theorem fill {slot : Slot} {text : String} (h : arguments.TimeoutFits)
    (hfill : arguments.fill slot text = .ok filled) : filled.TimeoutFits := by
  rw [Arguments.fill.eq_def] at hfill
  split at hfill
  · cases hfill
  · cases slot with
    | path | config | manifest =>
      obtain ⟨path, -, hfilled⟩ := Failure.ok_of_bind hfill
      cases hfilled
      exact h
    | language | theme =>
      cases hfill
      exact h
    | timeout =>
      dsimp only at hfill
      split at hfill
      · rename_i number hnumber
        cases hfill
        intro length hlength
        obtain rfl := Option.some.inj hlength
        exact readNumber?_lt hnumber
      · cases hfill

theorem raise {flag : Flag} (h : arguments.TimeoutFits)
    (hraise : arguments.raise flag = .ok filled) : filled.TimeoutFits := by
  cases flag with
  | strict | listThemes | listLanguages =>
    rw [Arguments.raise] at hraise
    split at hraise
    · cases hraise
    · cases hraise
      exact h
  | help | version => cases hraise

end Arguments.TimeoutFits

/-! ## Arguments one after the other -/

namespace Progress

theorem fits_settle (h : progress.arguments.TimeoutFits) (hsettle : progress.settle = .ok after) :
    after.arguments.TimeoutFits := by
  rw [settle] at hsettle
  split at hsettle
  · cases hsettle
    exact h
  · cases hsettle
  · obtain ⟨filled, hfilled, hafter⟩ := Failure.ok_of_bind hsettle
    cases hafter
    exact h.fill hfilled

theorem fits_takePath {text : String} (h : progress.arguments.TimeoutFits)
    (htake : progress.takePath text = .ok after) : after.arguments.TimeoutFits := by
  rw [takePath] at htake
  split at htake
  · cases htake
  · obtain ⟨settled, hsettled, hafter⟩ := Failure.ok_of_bind htake
    cases hafter
    have hfits := fits_settle h hsettled
    exact hfits

theorem fits_takeWord {word : Word} (h : progress.arguments.TimeoutFits)
    (htake : progress.takeWord word = .ok after) : after.arguments.TimeoutFits := by
  cases word with
  | plain text =>
    rw [takeWord] at htake
    split at htake
    · cases htake
      exact h
    · exact fits_takePath h htake
  | separator =>
    cases htake
    exact h
  | option slot attached =>
    cases attached with
    | none =>
      obtain ⟨settled, hsettled, hafter⟩ := Failure.ok_of_bind htake
      cases hafter
      have hfits := fits_settle h hsettled
      exact hfits
    | some text =>
      obtain ⟨settled, hsettled, hrest⟩ := Failure.ok_of_bind htake
      obtain ⟨filled, hfilled, hafter⟩ := Failure.ok_of_bind hrest
      cases hafter
      exact (fits_settle h hsettled).fill hfilled
  | flag flag =>
    obtain ⟨settled, hsettled, hrest⟩ := Failure.ok_of_bind htake
    obtain ⟨raised, hraised, hafter⟩ := Failure.ok_of_bind hrest
    cases hafter
    exact (fits_settle h hsettled).raise hraised
  | flagWithValue | unknown => cases htake

theorem fits_take {argument : String} (h : progress.arguments.TimeoutFits)
    (htake : progress.take argument = .ok after) : after.arguments.TimeoutFits := by
  rw [take] at htake
  split at htake
  · exact fits_takePath h htake
  · exact fits_takeWord h htake

theorem fits_foldlM {words : List String} (h : progress.arguments.TimeoutFits)
    (htaken : words.foldlM take progress = .ok after) : after.arguments.TimeoutFits := by
  induction words generalizing progress with
  | nil =>
    cases htaken
    exact h
  | cons word words ih =>
    rw [List.foldlM_cons] at htaken
    obtain ⟨next, hnext, hrest⟩ := Failure.ok_of_bind htaken
    exact ih (fits_take h hnext) hrest

end Progress

theorem fits_of_ofList {words : List String} (h : Arguments.ofList words = .ok arguments) :
    arguments.TimeoutFits := by
  obtain ⟨progress, htaken, hrest⟩ := Failure.ok_of_bind h
  obtain ⟨settled, hsettled, harguments⟩ := Failure.ok_of_bind hrest
  cases harguments
  exact Progress.fits_settle (Progress.fits_foldlM .none htaken) hsettled

/-! ## Requests -/

theorem timeout_of_request {request : Request} (h : Request.ofArguments arguments = .ok request) :
    request.timeout = arguments.timeout := by
  obtain ⟨action, -, hrequest⟩ := Failure.ok_of_bind h
  cases hrequest
  rfl

/-- Whatever the arguments, the clock allows the timeout that they ask for. -/
theorem canTime_of_request {words : List String} {request : Request}
    (harguments : Arguments.ofList words = .ok arguments)
    (hrequest : Request.ofArguments arguments = .ok request) (engine : Engine) :
    engine.CanTime request.timeout := by
  intro length hlength
  rw [timeout_of_request hrequest] at hlength
  have hfits : length < 18446744073709551616 := fits_of_ofList harguments length hlength
  rw [Engine.longestTimeout]
  omega

end CodeHighlight.CommandLine
