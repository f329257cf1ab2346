import Mathlib.Algebra.Order.Ring.Nat
import Mathlib.Data.List.Nodup
import CodeHighlight.Proofs.Registry.Outcome
import CodeHighlight.Registry.Preload

/-! # Preloading in any order

However its tasks are scheduled, a preload returns, and it returns a failure exactly if some
language cannot be loaded. Which languages are loaded after a failure depends on the schedule; that
each of them has the state that it would have been given by itself does not. -/
namespace CodeHighlight.Registry

variable {engine : Engine} {start registry registry' : Registry} {load load' : Load}

theorem ids_nodup (registry : Registry) : registry.ids.Nodup :=
  registry.loaders.names_ordered.imp fun h => String.ne_of_lt h

theorem mem_ids {id : String} {loader : Loader} (h : registry.loaders.get? id = some loader) :
    id ∈ registry.ids :=
  Catalog.mem_names_of_get? h

/-! ## Steps of tasks -/

namespace Concurrent

variable {tasks : Concurrent} {index : Nat}

/-- Each language has one task, which is on course, and nothing was touched but for the tasks. -/
structure OnCourse (engine : Engine) (start : Registry) (tasks : Concurrent) : Prop where
  starts_le : start.backend.starts ≤ 1 → tasks.registry.backend.starts ≤ 1
  loaders : tasks.registry.loaders = start.loaders
  ids : tasks.loads.map (·.id) = start.ids
  loads : ∀ load ∈ tasks.loads, load.OnCourse engine start tasks.registry
  others : ∀ id, id ∉ start.ids → tasks.registry.states.get? id = start.states.get? id
  idle : start.ids = [] → tasks.registry = start

theorem OnCourse.getElem?_ids (h : tasks.OnCourse engine start)
    (hindex : tasks.loads[index]? = some load) : start.ids[index]? = some load.id := by
  rw [← h.ids, List.getElem?_map, hindex]
  rfl

theorem OnCourse.id_mem (h : tasks.OnCourse engine start) (hload : load ∈ tasks.loads) :
    load.id ∈ start.ids := by
  rw [← h.ids]
  exact List.mem_map_of_mem hload

theorem OnCourse.exists_load (h : tasks.OnCourse engine start) {id : String}
    (hid : id ∈ start.ids) : ∃ load ∈ tasks.loads, load.id = id := by
  rw [← h.ids] at hid
  exact List.mem_map.mp hid

theorem OnCourse.id_ne (h : tasks.OnCourse engine start) {other : Load} {place : Nat}
    (hindex : tasks.loads[index]? = some load) (hplace : tasks.loads[place]? = some other)
    (hne : index ≠ place) : other.id ≠ load.id := by
  intro hid
  have hload := h.getElem?_ids hindex
  have hother := h.getElem?_ids hplace
  rw [hid, ← hload] at hother
  obtain ⟨hlt, -⟩ := List.getElem?_eq_some_iff.mp hload
  exact hne ((List.getElem?_inj hlt start.ids_nodup).mp hother.symm)

theorem OnCourse.step (h : tasks.OnCourse engine start)
    (hapart : ∀ a b, a ≠ b → start.LoadersApart a b) (index : Nat) :
    (tasks.next engine (.step index)).OnCourse engine start := by
  rcases next_step_cases engine tasks index with
    heq | ⟨load, load', registry', hindex, hstep, heq⟩
  · rw [heq]
    exact h
  · rw [heq]
    have hload := h.loads load (List.mem_of_getElem? hindex)
    -- Nothing but the task's own language is affected.
    have hsame : ∀ id, id ≠ load.id → tasks.registry.SameFor registry' id := by
      intro id hne
      refine hstep.sameFor hload.held hne ?_
      intro loader other hloader hother
      rw [h.loaders] at hloader hother
      exact hapart load.id id hne.symm loader other hloader hother
    refine ⟨fun hstarts => hstep.starts_le (h.starts_le hstarts),
      hstep.loaders_eq.trans h.loaders, ?_, ?_, ?_, ?_⟩
    · have hid := h.getElem?_ids hindex
      obtain ⟨hlt, hid⟩ := List.getElem?_eq_some_iff.mp hid
      rw [List.map_set, hstep.id_eq, h.ids, ← hid, List.set_getElem_self]
    · intro other hother
      obtain ⟨place, hplace⟩ := List.mem_iff_getElem?.mp hother
      by_cases hne : index = place
      · subst hne
        obtain ⟨hlt, -⟩ := List.getElem?_eq_some_iff.mp hindex
        rw [List.getElem?_set_self hlt] at hplace
        obtain rfl := Option.some.inj hplace
        exact hstep.onCourse hload
      · rw [List.getElem?_set_ne hne] at hplace
        have hon := h.loads other (List.mem_of_getElem? hplace)
        exact hon.of_sameFor (hsame other.id (h.id_ne hindex hplace hne))
    · intro id hid
      have hne : id ≠ load.id := fun heq => hid (heq ▸ h.id_mem (List.mem_of_getElem? hindex))
      rw [(hsame id hne).states]
      exact h.others id hid
    · intro hnil
      have hmem := h.id_mem (List.mem_of_getElem? hindex)
      rw [hnil] at hmem
      cases hmem

theorem onCourse_spawned (engine : Engine) (start : Registry) :
    OnCourse engine start ⟨start, start.ids.map fun id => ⟨id, .begun, false⟩⟩ where
  starts_le hstarts := hstarts
  loaders := rfl
  ids := by
    rw [List.map_map]
    exact List.map_id _
  loads load hload := by
    obtain ⟨id, -, rfl⟩ := List.mem_map.mp hload
    exact Load.onCourse_begun engine start id
  others _ _ := rfl
  idle _ := rfl

end Concurrent

/-! ## Joins -/

theorem Load.answer?_eq_some_iff {answer : Except Failure LanguageState} :
    load.answer? = some answer ↔ load.phase = .finished answer := by
  obtain ⟨id, phase, called⟩ := load
  cases phase <;> simp [answer?]

theorem Concurrent.next_step_of_finished {tasks : Concurrent} {index : Nat}
    (hindex : tasks.loads[index]? = some load) {answer : Except Failure LanguageState}
    (hphase : load.phase = .finished answer) (engine : Engine) :
    tasks.next engine (.step index) = tasks := by
  obtain ⟨id, phase, called⟩ := load
  obtain rfl : phase = .finished answer := hphase
  obtain ⟨hlt, hget⟩ := List.getElem?_eq_some_iff.mp hindex
  have hkept : tasks.loads.set index ⟨id, .finished answer, called⟩ = tasks.loads := by
    rw [← hget, List.set_getElem_self]
  rw [next, hindex]
  change Concurrent.mk tasks.registry (tasks.loads.set index ⟨id, .finished answer, called⟩) = tasks
  rw [hkept]

/-- The steps that a load has before it, at most. -/
def Load.remaining (load : Load) : Nat :=
  match load.phase with
  | .begun => 6
  | .missed => 5
  | .found _ => 4
  | .ready _ => 3
  | .resolved _ _ => 2
  | .built _ _ => 1
  | .finished _ => 0

theorem Load.Step.remaining_lt (h : Load.Step engine registry load load' registry')
    (hunfinished : load.answer? = none) : load'.remaining < load.remaining := by
  cases h with
  | rest => cases hunfinished
  | _ => simp [remaining]

theorem sum_map_set_lt {α : Type} {f : α → Nat} {xs : List α} {index : Nat} {x y : α}
    (hindex : xs[index]? = some x) (hlt : f y < f x) :
    ((xs.set index y).map f).sum < (xs.map f).sum := by
  induction xs generalizing index with
  | nil => cases hindex
  | cons z zs ih =>
    cases index with
    | zero =>
      obtain rfl := Option.some.inj hindex
      simpa using hlt
    | succ index => simpa using ih hindex

namespace Preloading

variable {preloading joined : Preloading} {index : Nat}

theorem run_append (engine : Engine) (preloading : Preloading) (moves more : List Move) :
    run engine preloading (moves ++ more) = run engine (run engine preloading moves) more :=
  List.foldl_append

theorem answer?_eq_ok_iff :
    preloading.answer? = some (.ok ()) ↔ preloading.failure? = none ∧ preloading.waiting = [] := by
  obtain ⟨tasks, waiting, failure?⟩ := preloading
  cases failure? <;> cases waiting <;> simp [answer?]

theorem answer?_eq_error_iff {failure : Failure} :
    preloading.answer? = some (.error failure) ↔ preloading.failure? = some failure := by
  obtain ⟨tasks, waiting, failure?⟩ := preloading
  cases failure? <;> cases waiting <;> simp [answer?]

theorem answer?_eq_none_iff :
    preloading.answer? = none ↔ preloading.failure? = none ∧ preloading.waiting ≠ [] := by
  obtain ⟨tasks, waiting, failure?⟩ := preloading
  cases failure? <;> cases waiting <;> simp [answer?]

/-- What a join may make of a preload. -/
inductive Join (preloading : Preloading) (index : Nat) : Preloading → Prop where
  | pass {load state} (hnone : preloading.failure? = none)
    (hload : preloading.tasks.loads[index]? = some load)
    (hphase : load.phase = .finished (.ok state)) :
    Join preloading index { preloading with waiting := preloading.waiting.erase index }
  | fail {load failure} (hnone : preloading.failure? = none)
    (hload : preloading.tasks.loads[index]? = some load)
    (hphase : load.phase = .finished (.error failure)) :
    Join preloading index
      { preloading with waiting := preloading.waiting.erase index, failure? := some failure }
  | idle : Join preloading index preloading

theorem next_join_of_ok {state : LanguageState} (hnone : preloading.failure? = none)
    (hload : preloading.tasks.loads[index]? = some load)
    (hphase : load.phase = .finished (.ok state)) (engine : Engine) :
    next engine preloading (.join index) =
      { preloading with waiting := preloading.waiting.erase index } := by
  have hanswer := Load.answer?_eq_some_iff.mpr hphase
  simp only [next, hnone, hload, Option.bind_eq_bind, Option.bind_some, hanswer]

theorem next_join_of_error {failure : Failure} (hnone : preloading.failure? = none)
    (hload : preloading.tasks.loads[index]? = some load)
    (hphase : load.phase = .finished (.error failure)) (engine : Engine) :
    next engine preloading (.join index) =
      { preloading with waiting := preloading.waiting.erase index, failure? := some failure } := by
  have hanswer := Load.answer?_eq_some_iff.mpr hphase
  simp only [next, hnone, hload, Option.bind_eq_bind, Option.bind_some, hanswer]

theorem join_sound (engine : Engine) (preloading : Preloading) (index : Nat) :
    Join preloading index (next engine preloading (.join index)) := by
  cases hfailure : preloading.failure? with
  | some failure =>
    simp only [next, hfailure]
    exact .idle
  | none =>
    cases hload : preloading.tasks.loads[index]? with
    | none =>
      simp only [next, hfailure, hload]
      exact .idle
    | some load =>
      cases hanswer : load.answer? with
      | none =>
        simp only [next, hfailure, hload, Option.bind_eq_bind, Option.bind_some, hanswer]
        exact .idle
      | some answer =>
        have hphase := Load.answer?_eq_some_iff.mp hanswer
        cases answer with
        | ok state =>
          rw [next_join_of_ok hfailure hload hphase]
          exact .pass hfailure hload hphase
        | error failure =>
          rw [next_join_of_error hfailure hload hphase]
          exact .fail hfailure hload hphase

/-- The tasks are on course. Those that were joined have succeeded, or a failure is one of
theirs. -/
structure Sound (engine : Engine) (start : Registry) (preloading : Preloading) : Prop where
  tasks : preloading.tasks.OnCourse engine start
  waiting : ∀ index ∈ preloading.waiting, index < start.ids.length
  joined : preloading.failure? = none → ∀ index load,
    preloading.tasks.loads[index]? = some load → index ∉ preloading.waiting →
      ∃ state, load.phase = .finished (.ok state)
  failed : ∀ failure, preloading.failure? = some failure →
    ∃ load ∈ preloading.tasks.loads, load.phase = .finished (.error failure)

theorem sound_spawn (engine : Engine) (start : Registry) :
    (spawn start).Sound engine start where
  tasks := Concurrent.onCourse_spawned engine start
  waiting index hindex := List.mem_range.mp hindex
  joined _ index load hindex hjoined := by
    rw [spawn, List.mem_range, Nat.not_lt] at hjoined
    rw [spawn, List.getElem?_map, List.getElem?_eq_none hjoined] at hindex
    cases hindex
  failed failure hfailure := by cases hfailure

theorem Sound.join (h : preloading.Sound engine start) (hjoin : Join preloading index joined) :
    joined.Sound engine start := by
  cases hjoin with
  | @pass load state hnone hload hphase =>
    refine ⟨h.tasks, fun place hplace => h.waiting place (List.mem_of_mem_erase hplace), ?_,
      h.failed⟩
    intro _ place other hother hjoined
    by_cases hne : place = index
    · rw [hne, hload] at hother
      obtain rfl := Option.some.inj hother
      exact ⟨state, hphase⟩
    · have hbefore : place ∉ preloading.waiting := fun hmem =>
        hjoined ((List.mem_erase_of_ne hne).mpr hmem)
      exact h.joined hnone place other hother hbefore
  | @fail load failure hnone hload hphase =>
    refine ⟨h.tasks, fun place hplace => h.waiting place (List.mem_of_mem_erase hplace), ?_, ?_⟩
    · intro hcleared
      cases hcleared
    · intro reported hreported
      obtain rfl := Option.some.inj hreported
      exact ⟨load, List.mem_of_getElem? hload, hphase⟩
  | idle => exact h

/-- Tasks that have finished are left alone by every step. -/
theorem finished_step (hindex : preloading.tasks.loads[index]? = some load)
    {answer : Except Failure LanguageState} (hphase : load.phase = .finished answer)
    (engine : Engine) (place : Nat) :
    (preloading.tasks.next engine (.step place)).loads[index]? = some load := by
  by_cases hne : place = index
  · rw [hne, Concurrent.next_step_of_finished hindex hphase engine]
    exact hindex
  · rcases Concurrent.next_step_cases engine preloading.tasks place with
      heq | ⟨moved, moved', registry', -, -, heq⟩
    · rw [heq]
      exact hindex
    · rw [heq, List.getElem?_set_ne hne]
      exact hindex

theorem Sound.step (h : preloading.Sound engine start)
    (hapart : ∀ a b, a ≠ b → start.LoadersApart a b) (index : Nat) :
    (next engine preloading (.step index)).Sound engine start where
  tasks := h.tasks.step hapart index
  waiting := h.waiting
  joined hnone place load hload hjoined := by
    have hlt : place < preloading.tasks.loads.length := by
      have hids := (h.tasks.step hapart index).getElem?_ids hload
      obtain ⟨hlt, -⟩ := List.getElem?_eq_some_iff.mp hids
      rw [← h.tasks.ids, List.length_map] at hlt
      exact hlt
    obtain ⟨state, hphase⟩ :=
      h.joined hnone place _ (List.getElem?_eq_getElem hlt) hjoined
    have hkept := finished_step (List.getElem?_eq_getElem hlt) hphase engine index
    rw [next, hkept] at hload
    obtain rfl := Option.some.inj hload
    exact ⟨state, hphase⟩
  failed failure hfailure := by
    obtain ⟨load, hload, hphase⟩ := h.failed failure hfailure
    obtain ⟨place, hplace⟩ := List.mem_iff_getElem?.mp hload
    exact ⟨load, List.mem_of_getElem? (finished_step hplace hphase engine index), hphase⟩

theorem sound_run (engine : Engine) (hapart : ∀ a b, a ≠ b → start.LoadersApart a b)
    (moves : List Move) :
    (run engine (spawn start) moves).Sound engine start := by
  induction moves using List.reverseRecOn with
  | nil => exact sound_spawn engine start
  | append_singleton moves move ih =>
    rw [run_append]
    cases move with
    | step index => exact ih.step hapart index
    | join index => exact ih.join (join_sound engine _ index)

/-! ## What is known when a preload has returned -/

theorem Sound.load_of_ok (h : preloading.Sound engine start)
    (hanswer : preloading.answer? = some (.ok ())) {id : String} (hid : id ∈ start.ids) :
    ∃ state, (start.load engine id).1 = .ok state ∧
      preloading.tasks.registry.states.get? id = some state := by
  obtain ⟨hnone, hempty⟩ := answer?_eq_ok_iff.mp hanswer
  obtain ⟨load, hload, rfl⟩ := h.tasks.exists_load hid
  obtain ⟨index, hindex⟩ := List.mem_iff_getElem?.mp hload
  have hgone : index ∉ preloading.waiting := by simp [hempty]
  obtain ⟨state, hphase⟩ := h.joined hnone index load hindex hgone
  obtain ⟨houtcome, hstate⟩ := (h.tasks.loads load hload).of_finished hphase
  exact ⟨state, houtcome.symm, hstate⟩

theorem Sound.load_of_error (h : preloading.Sound engine start) {failure : Failure}
    (hanswer : preloading.answer? = some (.error failure)) :
    ∃ id ∈ start.ids, (start.load engine id).1 = .error failure ∧ start.isLoaded id = false ∧
      preloading.tasks.registry.isLoaded id = false := by
  obtain ⟨load, hload, hphase⟩ := h.failed failure (answer?_eq_error_iff.mp hanswer)
  obtain ⟨houtcome, hstate⟩ := (h.tasks.loads load hload).of_finished hphase
  refine ⟨load.id, h.tasks.id_mem hload, houtcome.symm, ?_, isLoaded_eq_false.mpr hstate⟩
  apply isLoaded_eq_false.mpr
  cases hbefore : start.states.get? load.id with
  | none => rfl
  | some state =>
    rw [load_of_loaded hbefore] at houtcome
    cases houtcome

theorem Sound.loaded_before (h : preloading.Sound engine start) {id : String}
    {state : LanguageState} (hbefore : start.states.get? id = some state) :
    preloading.tasks.registry.states.get? id = some state ∧
      (∀ load ∈ preloading.tasks.loads, load.id = id → load.called = false) ∧
      ∀ loader, start.loaders.get? id = some loader →
        loader.SameCounts start.calls preloading.tasks.registry.calls := by
  have huncalled : ∀ load ∈ preloading.tasks.loads, load.id = id → load.called = false := by
    rintro load hload rfl
    exact ((h.tasks.loads load hload).of_loaded hbefore).1
  by_cases hid : id ∈ start.ids
  · obtain ⟨load, hload, rfl⟩ := h.tasks.exists_load hid
    have hon := h.tasks.loads load hload
    exact ⟨(hon.of_loaded hbefore).2, huncalled, hon.uncalled (huncalled load hload rfl)⟩
  · refine ⟨(h.tasks.others id hid).trans hbefore, huncalled, ?_⟩
    intro loader hloader
    exact absurd (mem_ids hloader) hid

/-! ## A preload returns -/

/-- The steps and joins that are still to be made, at most. -/
def remaining (preloading : Preloading) : Nat :=
  (preloading.tasks.loads.map Load.remaining).sum + preloading.waiting.length

theorem remaining_step_lt (hindex : preloading.tasks.loads[index]? = some load)
    (hunfinished : load.answer? = none) (engine : Engine) :
    (next engine preloading (.step index)).remaining < preloading.remaining := by
  have hstep := load.step_sound engine preloading.tasks.registry
  have hlt := sum_map_set_lt hindex (hstep.remaining_lt hunfinished)
  have hnext : (preloading.tasks.next engine (.step index)).loads =
      preloading.tasks.loads.set index (load.step engine preloading.tasks.registry).1 := by
    rw [Concurrent.next, hindex]
  rw [remaining, remaining, next, hnext]
  exact Nat.add_lt_add_right hlt _

theorem remaining_erase_lt (h : index ∈ preloading.waiting) :
    { preloading with waiting := preloading.waiting.erase index }.remaining <
      preloading.remaining := by
  have hlength := List.length_erase_add_one h
  rw [remaining, remaining]
  dsimp only
  omega

theorem Join.remaining_le (h : Join preloading index joined) :
    joined = preloading ∨ joined.answer?.isSome ∨ joined.remaining < preloading.remaining := by
  cases h with
  | pass hnone hload hphase =>
    by_cases hmem : index ∈ preloading.waiting
    · exact Or.inr (Or.inr (remaining_erase_lt hmem))
    · rw [List.erase_of_not_mem hmem]
      exact Or.inl rfl
  | fail => exact Or.inr (Or.inl rfl)
  | idle => exact Or.inl rfl

/-- No move is lost: it answers, it leaves less to be done, or it does nothing. -/
theorem next_cases (engine : Engine) (preloading : Preloading) (move : Move) :
    next engine preloading move = preloading ∨ (next engine preloading move).answer?.isSome ∨
      (next engine preloading move).remaining < preloading.remaining := by
  cases move with
  | join index => exact (join_sound engine preloading index).remaining_le
  | step index =>
    cases hindex : preloading.tasks.loads[index]? with
    | none =>
      left
      rw [next, Concurrent.next, hindex]
    | some load =>
      cases hanswer : load.answer? with
      | none => exact Or.inr (Or.inr (remaining_step_lt hindex hanswer engine))
      | some answer =>
        have hphase := Load.answer?_eq_some_iff.mp hanswer
        left
        rw [next, Concurrent.next_step_of_finished hindex hphase]

theorem Sound.exists_move (h : preloading.Sound engine start) (hnone : preloading.answer? = none) :
    ∃ index < start.ids.length, ∃ move, (move = .step index ∨ move = .join index) ∧
      ((next engine preloading move).answer?.isSome ∨
        (next engine preloading move).remaining < preloading.remaining) := by
  obtain ⟨hfailure, hne⟩ := answer?_eq_none_iff.mp hnone
  obtain ⟨index, hwaiting⟩ := List.exists_mem_of_ne_nil _ hne
  have hlt := h.waiting index hwaiting
  obtain ⟨load, hindex⟩ : ∃ load, preloading.tasks.loads[index]? = some load := by
    rw [← h.tasks.ids, List.length_map] at hlt
    exact ⟨_, List.getElem?_eq_getElem hlt⟩
  cases hanswer : load.answer? with
  | none =>
    exact ⟨index, hlt, .step index, Or.inl rfl, Or.inr (remaining_step_lt hindex hanswer engine)⟩
  | some answer =>
    refine ⟨index, hlt, .join index, Or.inr rfl, ?_⟩
    have hphase := Load.answer?_eq_some_iff.mp hanswer
    cases answer with
    | ok state =>
      rw [next_join_of_ok hfailure hindex hphase]
      exact Or.inr (remaining_erase_lt hwaiting)
    | error failure =>
      rw [next_join_of_error hfailure hindex hphase]
      exact Or.inl rfl

theorem upTo_succ (schedule : Nat → Move) (time : Nat) :
    upTo schedule (time + 1) = upTo schedule time ++ [schedule time] := by
  rw [upTo, List.range_succ, List.map_append]
  rfl

theorem run_upTo_succ (engine : Engine) (preloading : Preloading) (schedule : Nat → Move)
    (time : Nat) :
    run engine preloading (upTo schedule (time + 1)) =
      next engine (run engine preloading (upTo schedule time)) (schedule time) := by
  rw [upTo_succ, run_append]
  rfl

/-- While a schedule waits for a move, the preload answers, has less to do, or stays as it is. -/
theorem wait_cases (engine : Engine) (preloading : Preloading) (schedule : Nat → Move)
    {time later : Nat} (hle : time ≤ later) :
    (∃ moment, (run engine preloading (upTo schedule moment)).answer?.isSome) ∨
      (run engine preloading (upTo schedule later)).remaining <
        (run engine preloading (upTo schedule time)).remaining ∨
      run engine preloading (upTo schedule later) = run engine preloading (upTo schedule time) := by
  induction hle with
  | refl => exact Or.inr (Or.inr rfl)
  | @step later hle ih =>
    have hmove := next_cases engine (run engine preloading (upTo schedule later)) (schedule later)
    rw [← run_upTo_succ] at hmove
    rcases hmove with heq | hanswer | hlt
    · rw [heq]
      exact ih
    · exact Or.inl ⟨later + 1, hanswer⟩
    · rcases ih with hanswer | hless | heq
      · exact Or.inl hanswer
      · exact Or.inr (Or.inl (Nat.lt_trans hlt hless))
      · rw [heq] at hlt
        exact Or.inr (Or.inl hlt)

/-- Under a fair schedule a preload returns. -/
theorem returns (engine : Engine) (hapart : ∀ a b, a ≠ b → start.LoadersApart a b)
    {schedule : Nat → Move} (hfair : Fair start.ids.length schedule) :
    ∃ moment, (run engine (spawn start) (upTo schedule moment)).answer?.isSome := by
  suffices hall : ∀ bound time,
      (run engine (spawn start) (upTo schedule time)).remaining < bound →
        ∃ moment, (run engine (spawn start) (upTo schedule moment)).answer?.isSome from
    hall _ 0 (Nat.lt_succ_self _)
  intro bound
  induction bound with
  | zero =>
    intro time hlt
    cases hlt
  | succ bound ih =>
    intro time hlt
    have hsound := sound_run engine hapart (upTo schedule time)
    cases hanswer : (run engine (spawn start) (upTo schedule time)).answer? with
    | some answer => exact ⟨time, by rw [hanswer]; rfl⟩
    | none =>
      -- A move that gets the preload on comes up, if nothing else has got it on by then.
      obtain ⟨index, hindex, move, hmove, hgain⟩ := hsound.exists_move hanswer
      obtain ⟨hstep, hjoin⟩ := hfair index hindex time
      obtain ⟨later, hle, hlater⟩ : ∃ later ≥ time, schedule later = move := by
        rcases hmove with rfl | rfl
        · exact hstep
        · exact hjoin
      rcases wait_cases engine (spawn start) schedule hle with hdone | hless | heq
      · exact hdone
      · exact ih later (by omega)
      · rw [← hlater, ← heq, ← run_upTo_succ] at hgain
        rcases hgain with hdone | hless
        · exact ⟨later + 1, hdone⟩
        · rw [heq] at hless
          exact ih (later + 1) (by omega)

end Preloading

/-! ## One task after another -/

namespace Concurrent

theorem next_step_at (engine : Engine) (registry : Registry) (before after : List Load)
    (load : Load) :
    next engine ⟨registry, before ++ load :: after⟩ (.step before.length) =
      ⟨(load.step engine registry).2, before ++ (load.step engine registry).1 :: after⟩ := by
  rw [next]
  simp

/-- The steps of a load take no notice of the loads around it. -/
theorem run_steps_at (engine : Engine) (count : Nat) (registry : Registry) (load : Load) :
    ∃ load' registry', ∀ before after : List Load,
      run engine ⟨registry, before ++ load :: after⟩
          (List.replicate count (.step before.length)) =
        ⟨registry', before ++ load' :: after⟩ := by
  induction count generalizing registry load with
  | zero => exact ⟨load, registry, fun _ _ => rfl⟩
  | succ count ih =>
    obtain ⟨load', registry', h⟩ := ih (load.step engine registry).2 (load.step engine registry).1
    refine ⟨load', registry', fun before after => ?_⟩
    rw [List.replicate_succ, run_cons, next_step_at, h]

theorem run_alone_at (engine : Engine) (registry : Registry) (id : String) :
    ∃ called, ∀ before after : List Load,
      run engine ⟨registry, before ++ ⟨id, .begun, false⟩ :: after⟩
          (List.replicate 6 (.step before.length)) =
        ⟨(registry.load engine id).2,
          before ++ ⟨id, .finished (registry.load engine id).1, called⟩ :: after⟩ := by
  obtain ⟨called, halone⟩ := run_alone engine ⟨registry, []⟩ id
  obtain ⟨load', registry', h⟩ := run_steps_at engine 6 registry ⟨id, .begun, false⟩
  rw [run_cons] at halone
  have heq := (h [] []).symm.trans halone
  obtain ⟨rfl, hloads⟩ := Concurrent.mk.inj heq
  obtain rfl := List.singleton_inj.mp hloads
  exact ⟨called, h⟩

end Concurrent

namespace Preloading

theorem run_steps (engine : Engine) (preloading : Preloading) (index count : Nat) :
    run engine preloading (List.replicate count (.step index)) =
      { preloading with
        tasks := preloading.tasks.run engine (List.replicate count (.step index)) } := by
  induction count generalizing preloading with
  | zero => rfl
  | succ count ih => exact ih (next engine preloading (.step index))

theorem run_turn (engine : Engine) (registry : Registry) (id : String) :
    ∃ called, ∀ (before after : List Load) (waiting : List Nat) (failure? : Option Failure),
      let load : Load := ⟨id, .finished (registry.load engine id).1, called⟩
      run engine ⟨⟨registry, before ++ ⟨id, .begun, false⟩ :: after⟩, waiting, failure?⟩
          (turn before.length) =
        next engine ⟨⟨(registry.load engine id).2, before ++ load :: after⟩, waiting, failure?⟩
          (.join before.length) := by
  obtain ⟨called, h⟩ := Concurrent.run_alone_at engine registry id
  refine ⟨called, fun before after waiting failure? => ?_⟩
  rw [turn, run_append, run_steps, h]
  rfl

/-- The answer is the first failure, and the tasks after it are still run. -/
theorem run_turns (engine : Engine) (ids : List String) :
    ∀ (registry : Registry) (before : List Load) (waiting : List Nat)
      (failure? : Option Failure),
      (failure? = none → waiting = List.range' before.length ids.length) →
      let last := run engine
        ⟨⟨registry, before ++ ids.map fun id => ⟨id, .begun, false⟩⟩, waiting, failure?⟩
        ((List.range' before.length ids.length).flatMap turn)
      last.tasks.registry = (loadAll engine registry ids).2 ∧
        last.answer? = some (failure?.elim (loadAll engine registry ids).1 .error) := by
  -- The tasks before have had their turns, and `failure?` is the first failure among them.
  induction ids with
  | nil =>
    intro registry before waiting failure? hwaiting
    refine ⟨rfl, ?_⟩
    cases failure? with
    | some failure => rfl
    | none =>
      obtain rfl := hwaiting rfl
      rfl
  | cons id ids ih =>
    intro registry before waiting failure? hwaiting last
    obtain ⟨called, hturn⟩ := run_turn engine registry id
    have hall : loadAll engine registry (id :: ids) =
        ((registry.load engine id).1.bind fun _ =>
            (loadAll engine (registry.load engine id).2 ids).1,
          (loadAll engine (registry.load engine id).2 ids).2) := rfl
    have hrest := ih (registry.load engine id).2
      (before ++ [⟨id, .finished (registry.load engine id).1, called⟩])
    simp only [List.length_append, List.length_singleton, List.append_assoc,
      List.singleton_append] at hrest
    have hlast : last = run engine (next engine
        ⟨⟨(registry.load engine id).2,
          before ++ ⟨id, .finished (registry.load engine id).1, called⟩ ::
            ids.map fun id => ⟨id, .begun, false⟩⟩, waiting, failure?⟩ (.join before.length))
        ((List.range' (before.length + 1) ids.length).flatMap turn) := by
      rw [← hturn, ← run_append]
      rfl
    rw [hlast, hall]
    cases failure? with
    | some failure => exact hrest waiting (some failure) (by rintro ⟨⟩)
    | none =>
      obtain rfl := hwaiting rfl
      rw [List.length_cons, List.range'_succ]
      have hindex : ∀ (load : Load) (after : List Load),
          (before ++ load :: after)[before.length]? = some load := by simp
      cases hanswer : (registry.load engine id).1 with
      | ok state =>
        rw [hanswer] at hrest
        rw [next_join_of_ok rfl (hindex ⟨id, .finished (.ok state), called⟩ _) rfl,
          List.erase_cons_head]
        exact hrest _ none fun _ => rfl
      | error failure =>
        rw [hanswer] at hrest
        rw [next_join_of_error rfl (hindex ⟨id, .finished (.error failure), called⟩ _) rfl,
          List.erase_cons_head]
        exact hrest _ (some failure) (by rintro ⟨⟩)

/-- Loading all languages in turn is one way to preload. -/
theorem preload_in_turn (engine : Engine) (registry : Registry) :
    let last := run engine (spawn registry) (inTurn registry.ids.length)
    last.tasks.registry = (registry.preload engine).2 ∧
      last.answer? = some (registry.preload engine).1 := by
  have h := run_turns engine registry.ids registry [] (List.range' 0 registry.ids.length) none
    fun _ => rfl
  rw [List.length_nil, ← List.range_eq_range'] at h
  exact h

/-- A preload that loads one language after another is a run of the tasks, and under any fair
schedule the tasks lead to an answer. However they were scheduled until then, each task that has
finished answers what its language would have answered by itself. The preload succeeds exactly if
every registered language is or can be loaded, and all of them are loaded then. A failure is the
answer of a registered language that was not and is not loaded. Languages that were loaded keep
their states and their loaders are not called, nothing else is loaded, and the backend starts at
most once, not at all where nothing is registered. -/
theorem preload_in_any_order (engine : Engine)
    (hapart : ∀ a b, a ≠ b → start.LoadersApart a b) :
    ((run engine (spawn start) (inTurn start.ids.length)).tasks.registry =
        (start.preload engine).2 ∧
      (run engine (spawn start) (inTurn start.ids.length)).answer? =
        some (start.preload engine).1) ∧
    (∀ schedule, Fair start.ids.length schedule →
      ∃ moment, (run engine (spawn start) (upTo schedule moment)).answer?.isSome) ∧
    ∀ moves answer, (run engine (spawn start) moves).answer? = some answer →
      let tasks := (run engine (spawn start) moves).tasks
      let now := tasks.registry
      (∀ load ∈ tasks.loads, ∀ result, load.phase = .finished result →
        result = (start.load engine load.id).1) ∧
      (answer = .ok () ↔ ∀ id ∈ start.ids,
        start.isLoaded id = true ∨ ∃ state, (start.load engine id).1 = .ok state) ∧
      (answer = .ok () → ∀ id ∈ start.ids, now.isLoaded id = true) ∧
      (∀ failure, answer = .error failure → ∃ id ∈ start.ids,
        (start.load engine id).1 = .error failure ∧ start.isLoaded id = false ∧
          now.isLoaded id = false) ∧
      (∀ id state, start.states.get? id = some state →
        now.states.get? id = some state ∧
          (∀ load ∈ tasks.loads, load.id = id → load.called = false) ∧
          ∀ loader, start.loaders.get? id = some loader → ∀ label, loader.callsOf label ≠ 0 →
            now.calls.count label = start.calls.count label) ∧
      (∀ id, id ∉ start.ids → now.isLoaded id = start.isLoaded id) ∧
      (start.backend.starts ≤ 1 → now.backend.starts ≤ 1) ∧
      (start.ids = [] → start.backend.starts = 0 → now.backend.starts = 0) := by
  refine ⟨preload_in_turn engine start, fun schedule => returns engine hapart, ?_⟩
  intro moves answer hanswer tasks now
  have hsound := sound_run engine hapart moves
  refine ⟨?_, ?_, ?_, ?_, ?_, ?_, hsound.tasks.starts_le, ?_⟩
  · intro load hload result hphase
    exact ((hsound.tasks.loads load hload).of_finished hphase).1
  · constructor
    · rintro rfl id hid
      obtain ⟨state, hstate, -⟩ := hsound.load_of_ok hanswer hid
      exact Or.inr ⟨state, hstate⟩
    · intro hall
      cases answer with
      | ok done => rfl
      | error failure =>
        obtain ⟨id, hid, hfails, hbefore, -⟩ := hsound.load_of_error hanswer
        rcases hall id hid with hloaded | ⟨state, hstate⟩
        · rw [hbefore] at hloaded
          cases hloaded
        · rw [hfails] at hstate
          cases hstate
  · rintro rfl id hid
    obtain ⟨state, -, hstate⟩ := hsound.load_of_ok hanswer hid
    exact Option.isSome_iff_exists.mpr ⟨state, hstate⟩
  · rintro failure rfl
    exact hsound.load_of_error hanswer
  · intro id state hbefore
    exact hsound.loaded_before hbefore
  · intro id hid
    rw [isLoaded, isLoaded, Catalog.contains, Catalog.contains, hsound.tasks.others id hid]
  · intro hnil hzero
    change tasks.registry.backend.starts = 0
    rw [hsound.tasks.idle hnil]
    exact hzero

namespace Trial

def failing : Loader := .factory .deferred "f" fun _ => .error (.backendUnavailable "offline")

def steady : Loader := .factory .immediate "g" fun _ => .ok (Definition.builtin .c)

/-- One language that cannot be loaded, one that can, and one that is loaded. -/
def mixed : Registry :=
  (((empty.register "c" (.value (Definition.builtin .go))).load Concurrent.Race.accepting
    "c").2.register "a" failing).register "b" steady

def schedule (time : Nat) : Move :=
  if time % 6 < 3 then .step (time % 3) else .join (time % 3)

theorem get?_loaders (id : String) :
    mixed.loaders.get? id =
      if id = "b" then some steady
      else if id = "a" then some failing
      else if id = "c" then some (.value (Definition.builtin .go))
      else none := by
  change (((Catalog.empty.insert "c" _).insert "a" failing).insert "b" steady).get? id = _
  simp only [Catalog.get?_insert, Catalog.get?_empty]

theorem caller_unique {id label : String} {loader : Loader}
    (h : mixed.loaders.get? id = some loader) (hcalls : loader.callsOf label ≠ 0) :
    id = "b" ∧ label = "g" ∨ id = "a" ∧ label = "f" := by
  rw [get?_loaders] at h
  split at h
  · rename_i hb
    cases h
    exact Or.inl ⟨hb, by simpa [steady, Loader.callsOf, eq_comm] using hcalls⟩
  · split at h
    · rename_i ha
      cases h
      exact Or.inr ⟨ha, by simpa [failing, Loader.callsOf, eq_comm] using hcalls⟩
    · split at h <;> cases h
      exact absurd rfl hcalls

theorem loaders_apart {a b : String} (hne : a ≠ b) : mixed.LoadersApart a b := by
  intro loader other hloader hother label
  by_contra hboth
  rw [not_or] at hboth
  have ha := caller_unique hloader hboth.1
  have hb := caller_unique hother hboth.2
  grind

theorem fair_schedule : Fair mixed.ids.length schedule := by
  intro index hindex time
  have hlt : index < 3 := hindex
  refine ⟨⟨6 * time + index, by omega, ?_⟩, ⟨6 * time + 3 + index, by omega, ?_⟩⟩
  · have hplace : (6 * time + index) % 6 < 3 := by omega
    have htask : (6 * time + index) % 3 = index := by omega
    rw [schedule, if_pos hplace, htask]
  · have hplace : ¬ (6 * time + 3 + index) % 6 < 3 := by omega
    have htask : (6 * time + 3 + index) % 3 = index := by omega
    rw [schedule, if_neg hplace, htask]

end Trial

open Concurrent.Race (accepting) in
theorem preload_in_any_order_of_trial :
    (∀ a b, a ≠ b → Trial.mixed.LoadersApart a b) ∧
      Fair Trial.mixed.ids.length Trial.schedule ∧
      (∃ moment,
        (run accepting (spawn Trial.mixed) (upTo Trial.schedule moment)).answer?.isSome) ∧
      (run accepting (spawn Trial.mixed) (turn 1 ++ turn 0)).answer? =
        some (.error (.backendUnavailable "offline")) ∧
      (∃ id ∈ Trial.mixed.ids,
        (Trial.mixed.load accepting id).1 = .error (.backendUnavailable "offline")) ∧
      (run accepting (spawn Trial.mixed) (turn 1 ++ turn 0)).tasks.registry.isLoaded "b" =
        true := by
  have hapart : ∀ a b, a ≠ b → Trial.mixed.LoadersApart a b := fun _ _ => Trial.loaders_apart
  have hanswer : (run accepting (spawn Trial.mixed) (turn 1 ++ turn 0)).answer? =
      some (.error (.backendUnavailable "offline")) := rfl
  obtain ⟨-, hreturns, hafter⟩ := preload_in_any_order accepting hapart
  obtain ⟨-, -, -, hfailure, -⟩ := hafter _ _ hanswer
  obtain ⟨id, hid, hfails, -⟩ := hfailure _ rfl
  exact ⟨hapart, Trial.fair_schedule, hreturns _ Trial.fair_schedule, hanswer,
    ⟨id, hid, hfails⟩, rfl⟩

end Preloading

end CodeHighlight.Registry
