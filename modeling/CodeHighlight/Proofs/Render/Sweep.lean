import CodeHighlight.Proofs.Render.Pieces
import Mathlib.Data.List.Induction
import Mathlib.Data.List.Nodup

/-! # The sweep from event to event

The sweep comes to its events one after the other. At each of them the cursor and the event stand at
boundaries, the cursor first, so the text between them can be sliced; and the stack holds the
captures that have started and not stopped. A stop finds its capture there and takes only that one
off, and after the last event none is left. -/
namespace CodeHighlight.Render

open CodeHighlight.Text

variable {source : List Char} {captures : List Capture} {passed rest : List Event} {state : State}
  {event : Event}

/-- The sweep comes to a state with some events behind it and the rest ahead. -/
inductive Reaches (source : List Char) (captures : List Capture) :
    List Event → State → List Event → Prop where
  | start : Reaches source captures [] .initial (events source captures)
  | next {passed : List Event} {state : State} {event : Event} {rest : List Event} :
    Reaches source captures passed state (event :: rest) →
    Reaches source captures (passed ++ [event]) (state.next event) rest

/-- The capture at this place in the list has started among the events and has not stopped. -/
def IsOpen (passed : List Event) (index : Nat) : Prop :=
  (∃ event ∈ passed, event.edge = .start ∧ event.index = index) ∧
    ∀ event ∈ passed, event.edge = .stop → event.index ≠ index

/-- What the sweep finds when it comes to an event, and what the event makes of the sweep. -/
structure Meets (source : List Char) (captures : List Capture) (state : State) (event : Event) :
    Prop where
  cursor_isBoundary : IsBoundary source state.cursor
  offset_isBoundary : IsBoundary source event.offset
  cursor_le : state.cursor ≤ event.offset
  offset_le : event.offset ≤ byteLength source
  text : ∃ text, slice? source state.cursor event.offset = some text
  listed : event.index < captures.length
  cursor_next : (state.next event).cursor = event.offset
  opens : event.edge = .start →
    event.index ∉ state.opened ∧ (state.next event).opened = state.opened ++ [event.index]
  closes : event.edge = .stop → ∃ outer inner, state.opened = outer ++ event.index :: inner ∧
    event.index ∉ outer ++ inner ∧ (state.next event).opened = outer ++ inner

/-! ## What every step keeps -/

/-- The invariant of the sweep. -/
structure Steady (source : List Char) (captures : List Capture) (passed : List Event)
    (state : State) (rest : List Event) : Prop where
  split : passed ++ rest = events source captures
  tracks : Tracks source captures passed state.opened
  boundary : IsBoundary source state.cursor
  ahead : ∀ event ∈ rest, state.cursor ≤ event.offset

theorem Steady.initial (source : List Char) (captures : List Capture) :
    Steady source captures [] .initial (events source captures) where
  split := rfl
  tracks := .initial
  boundary := isBoundary_zero source
  ahead := fun _ _ => Nat.zero_le _

namespace Steady

/-- The cursor goes on to the event. -/
theorem cursor_next (h : Steady source captures passed state (event :: rest)) :
    (state.next event).cursor = event.offset :=
  Nat.max_eq_right (h.ahead event List.mem_cons_self)

theorem mem_events (h : Steady source captures passed state (event :: rest)) :
    event ∈ events source captures := by
  rw [← h.split]
  exact List.mem_append_right passed List.mem_cons_self

theorem next (h : Steady source captures passed state (event :: rest)) :
    Steady source captures (passed ++ [event]) (state.next event) rest where
  split := by simpa using h.split
  tracks := h.tracks.next h.split
  boundary := by
    rw [h.cursor_next]
    exact event_isBoundary h.mem_events
  ahead := by
    intro later hlater
    rw [h.cursor_next]
    have hsplit : (passed ++ [event]) ++ rest = events source captures := by simpa using h.split
    have hbefore : event.Before later := before_of_split hsplit (by simp) hlater
    exact hbefore.offset_le

end Steady

/-- Wherever the sweep comes to, the invariant holds. -/
theorem Reaches.steady (h : Reaches source captures passed state rest) :
    Steady source captures passed state rest := by
  induction h with
  | start => exact .initial source captures
  | next _ ih => exact ih.next

/-- The sweep comes to each of its events. -/
theorem reaches_foldl (hsplit : passed ++ rest = events source captures) :
    Reaches source captures passed (passed.foldl State.next .initial) rest := by
  induction passed using List.reverseRecOn generalizing rest with
  | nil =>
    obtain rfl : rest = events source captures := hsplit
    exact .start
  | append_singleton passed event ih =>
    rw [List.foldl_concat]
    exact .next (ih (by simpa using hsplit))

/-! ## What the sweep finds -/

/-- Two boundaries in order enclose a text. -/
theorem exists_slice {start stop : Nat} (hstart : IsBoundary source start)
    (hstop : IsBoundary source stop) (hle : start ≤ stop) :
    ∃ text, slice? source start stop = some text :=
  ⟨_, @slice?_eq_pieceText source (start, stop) hstart hstop hle⟩

theorem index_lt_of_mem_events (h : event ∈ events source captures) :
    event.index < captures.length := by
  obtain ⟨_, _, ⟨capture, hcapture, -⟩, -⟩ := mem_events.mp h
  exact (List.getElem?_eq_some_iff.mp hcapture).1

namespace Steady

theorem listed (h : Steady source captures passed state rest) {index : Nat}
    (hindex : index ∈ state.opened) : index < captures.length := by
  obtain ⟨⟨event, hevent, -, rfl⟩, -⟩ := (h.tracks.mem_iff index).mp hindex
  exact index_lt_of_mem_events (h.split ▸ List.mem_append_left rest hevent)

/-- Pushing a capture that was on the stack already would spoil its order. -/
theorem opens (h : Steady source captures passed state (event :: rest))
    (hedge : event.edge = .start) :
    event.index ∉ state.opened ∧ (state.next event).opened = state.opened ++ [event.index] := by
  have hopened : (state.next event).opened = state.opened ++ [event.index] := by
    simp only [State.next, hedge]
  have hnodup : (state.opened ++ [event.index]).Nodup := by
    rw [← hopened]
    exact h.next.tracks.nodup
  have hdisjoint := (List.nodup_append.mp hnodup).2.2
  refine ⟨fun hmem => ?_, hopened⟩
  exact hdisjoint _ hmem _ (List.mem_singleton_self _) rfl

/-- A capture that stops has started and has not stopped before, so it is on the stack. -/
theorem mem_opened_of_stop (h : Steady source captures passed state (event :: rest))
    (hedge : event.edge = .stop) : event.index ∈ state.opened := by
  have hsplit : (passed ++ [event]) ++ rest = events source captures := by simpa using h.split
  rw [h.tracks.mem_iff]
  constructor
  · obtain ⟨other, hother, hstart, hindex⟩ := start_passed hsplit (by simp) hedge
    exact ⟨other, mem_passed hother (by simp [hstart, hedge]), hstart, hindex⟩
  · intro other hother hkind hindex
    -- Two stops of one capture are at one offset, where no two events of a kind have one place.
    have hotherEvent : other ∈ events source captures :=
      h.split ▸ List.mem_append_left _ hother
    obtain ⟨_, hspans⟩ := spans_of_stop h.mem_events hedge
    obtain ⟨_, hotherSpans⟩ := spans_of_stop hotherEvent hkind
    rw [hindex] at hotherSpans
    have hoffset : other.offset = event.offset := (hotherSpans.unique hspans).2
    have hbefore : other.Before event := before_of_split h.split hother List.mem_cons_self
    rcases hbefore.same_edge (hkind.trans hedge.symm) with hlt | ⟨-, hlt⟩ <;> omega

theorem closes (h : Steady source captures passed state (event :: rest))
    (hedge : event.edge = .stop) :
    ∃ outer inner, state.opened = outer ++ event.index :: inner ∧
      event.index ∉ outer ++ inner ∧ (state.next event).opened = outer ++ inner := by
  obtain ⟨outer, inner, houter, hopened, herase⟩ :=
    List.exists_erase_eq (h.mem_opened_of_stop hedge)
  have hnext : (state.next event).opened = outer ++ inner := by
    simp only [State.next, hedge, eraseLast_eq_erase h.tracks.nodup, herase]
  refine ⟨outer, inner, hopened, ?_, hnext⟩
  have hnodup := h.tracks.nodup
  rw [hopened, List.nodup_middle, List.nodup_cons] at hnodup
  exact hnodup.1

theorem meets (h : Steady source captures passed state (event :: rest)) :
    Meets source captures state event where
  cursor_isBoundary := h.boundary
  offset_isBoundary := event_isBoundary h.mem_events
  cursor_le := h.ahead event List.mem_cons_self
  offset_le := (event_isBoundary h.mem_events).le_byteLength
  text := exists_slice h.boundary (event_isBoundary h.mem_events) (h.ahead event List.mem_cons_self)
  listed := index_lt_of_mem_events h.mem_events
  cursor_next := h.cursor_next
  opens := h.opens
  closes := h.closes

/-- Every capture that started has stopped by the end. -/
theorem opened_eq_nil (h : Steady source captures passed state []) : state.opened = [] := by
  have hpassed : passed = events source captures := by simpa using h.split
  rw [List.eq_nil_iff_forall_not_mem]
  intro index hindex
  obtain ⟨⟨event, hevent, hedge, rfl⟩, hopen⟩ := (h.tracks.mem_iff index).mp hindex
  rw [hpassed] at hevent hopen
  obtain ⟨stop, hspans⟩ := spans_of_start hevent hedge
  exact hopen _ hspans.stop_mem rfl rfl

end Steady

/-- Whatever the captures, the sweep comes to each of its events and keeps a stack without
duplicates, of the captures that have started and not stopped. At every event it slices between
boundaries in order, pushes or takes off the capture of that event alone, and goes on to the event;
in the end the stack is empty. So every run that it leaves has text of the source, under captures of
the list. -/
theorem sweep_keeps_stack (source : List Char) (captures : List Capture) :
    (∀ passed rest, passed ++ rest = events source captures →
      ∃ state, Reaches source captures passed state rest) ∧
      (∀ passed state rest, Reaches source captures passed state rest →
        IsBoundary source state.cursor ∧ state.opened.Nodup ∧
          (∀ index, index ∈ state.opened ↔ IsOpen passed index) ∧
          ∀ index ∈ state.opened, index < captures.length) ∧
      (∀ passed state event rest, Reaches source captures passed state (event :: rest) →
        Meets source captures state event) ∧
      (∀ passed state, Reaches source captures passed state [] → state.opened = [] ∧
        ∃ text, slice? source state.cursor (byteLength source) = some text) ∧
      ∀ run ∈ runs source captures, (∃ text, slice? source run.start run.stop = some text) ∧
        ∀ index ∈ run.opened, index < captures.length := by
  refine ⟨fun passed rest hsplit => ⟨_, reaches_foldl hsplit⟩, fun passed state rest h => ?_,
    fun passed state event rest h => h.steady.meets,
    fun passed state h => ⟨h.steady.opened_eq_nil, ?_⟩, fun run hrun => ?_⟩
  · have hsteady := h.steady
    exact ⟨hsteady.boundary, hsteady.tracks.nodup, hsteady.tracks.mem_iff,
      fun _ hindex => hsteady.listed hindex⟩
  · have hboundary := h.steady.boundary
    exact exists_slice hboundary (isBoundary_byteLength source) hboundary.le_byteLength
  · rw [runs_eq] at hrun
    obtain ⟨piece, hpiece, rfl⟩ := List.mem_map.mp hrun
    obtain ⟨hlt, hstart, hstop⟩ := mem_pieces hpiece
    refine ⟨exists_slice hstart hstop (Nat.le_of_lt hlt), fun index hindex => ?_⟩
    obtain ⟨entry, hentry, rfl⟩ := List.mem_map.mp hindex
    obtain ⟨capture, hcapture, -⟩ := mem_placedRegions.mp (mem_placedCover.mp hentry).1
    exact (List.getElem?_eq_some_iff.mp hcapture).1

namespace Overlap

/-- The second character is two bytes long. -/
def text : List Char := "aé<b".toList

/-- The second capture stops past the end, the third starts inside a character and the last has no
text left. -/
def marks : List Capture :=
  [⟨"keyword", 0, 4⟩, ⟨"string", 1, 18446744073709551615⟩, ⟨"escape", 2, 3⟩, ⟨"none", 2, 2⟩]

def before : List Event :=
  [⟨0, .start, 0⟩, ⟨1, .start, 1⟩, ⟨1, .start, 2⟩, ⟨3, .stop, 2⟩]

/-- The first capture stops while the second one is still open. -/
def crossing : Event := ⟨4, .stop, 0⟩

def last : Event := ⟨5, .stop, 1⟩

theorem events_marks : before ++ crossing :: [last] = events text marks := by
  have hperm : (before ++ crossing :: [last]).Perm (events text marks) := by
    refine List.Perm.trans ?_ (List.mergeSort_perm _ Event.le).symm
    decide
  have hordered : (before ++ crossing :: [last]).Pairwise Event.Before := by
    unfold Event.Before
    decide
  refine hperm.eq_of_pairwise ?_ hordered (events_ordered text marks)
  intro a b _ _ hab hba
  exact absurd (hab.2 hba.1) (Nat.lt_asymm (hba.2 hab.1))

end Overlap

open Overlap in
/-- A capture that stops under another one is taken off alone, and the other one at the end. -/
theorem sweep_keeps_stack_overlap :
    Reaches Overlap.text marks before ⟨3, [0, 1]⟩ [crossing, last] ∧
      Meets Overlap.text marks ⟨3, [0, 1]⟩ crossing ∧
      Reaches Overlap.text marks (before ++ [crossing] ++ [last]) ⟨5, []⟩ [] ∧
      ∃ rest, slice? Overlap.text 5 (byteLength Overlap.text) = some rest := by
  obtain ⟨-, -, hmeets, hends, -⟩ := sweep_keeps_stack Overlap.text marks
  have hreaches : Reaches Overlap.text marks before ⟨3, [0, 1]⟩ [crossing, last] :=
    reaches_foldl events_marks
  have hdone : Reaches Overlap.text marks (before ++ [crossing] ++ [last]) ⟨5, []⟩ [] :=
    hreaches.next.next
  exact ⟨hreaches, hmeets _ _ _ _ hreaches, hdone, (hends _ _ hdone).2⟩

end CodeHighlight.Render
