import CodeHighlight.Proofs.Render.Events
import Mathlib.Data.List.Nodup

/-! # The stack of the sweep

An invariant of the sweep: the stack holds the captures that have started and not stopped, and of
two captures on it the one further out starts first or, where both start at one offset, stands first
in the list. -/
namespace CodeHighlight.Render

open CodeHighlight.Text

variable {source : List Char} {captures : List Capture} {passed rest : List Event}
  {opened : List Nat}

/-- Where the capture at this place in the list starts. -/
def startOf (source : List Char) (captures : List Capture) (index : Nat) : Nat :=
  (captures[index]?.map fun capture => floorBoundary source capture.start).getD 0

theorem Spans.startOf_eq {index start stop : Nat} (h : Spans source captures index start stop) :
    startOf source captures index = start := by
  obtain ⟨capture, hc, rfl, -, -⟩ := h
  simp [startOf, hc]

/-- The span of `i` goes outside the span of `j`. -/
def Outside (source : List Char) (captures : List Capture) (i j : Nat) : Prop :=
  startOf source captures i < startOf source captures j ∨
    startOf source captures i = startOf source captures j ∧ i < j

theorem Outside.asymm {i j : Nat} (h : Outside source captures i j) :
    ¬ Outside source captures j i := by
  unfold Outside at *
  omega

theorem Outside.ne {i j : Nat} (h : Outside source captures i j) : i ≠ j := by
  rintro rfl
  exact h.asymm h

/-- The stack after the events that the sweep has passed. -/
structure Tracks (source : List Char) (captures : List Capture) (passed : List Event)
    (opened : List Nat) : Prop where
  mem_iff : ∀ i, i ∈ opened ↔
    (∃ event ∈ passed, event.edge = .start ∧ event.index = i) ∧
      ∀ event ∈ passed, event.edge = .stop → event.index ≠ i
  ordered : opened.Pairwise (Outside source captures)

theorem Tracks.nodup (h : Tracks source captures passed opened) : opened.Nodup :=
  h.ordered.imp Outside.ne

theorem before_of_split {earlier later : Event}
    (hsplit : passed ++ rest = events source captures)
    (hearlier : earlier ∈ passed) (hlater : later ∈ rest) : earlier.Before later :=
  (List.pairwise_append.mp (hsplit ▸ events_ordered source captures)).2.2 _ hearlier _ hlater

theorem startOf_event {event : Event} (h : event ∈ events source captures)
    (hedge : event.edge = .start) : startOf source captures event.index = event.offset := by
  obtain ⟨stop, hs⟩ := spans_of_start h hedge
  exact hs.startOf_eq

theorem mem_passed {event other : Event} (h : other ∈ passed ++ [event])
    (hedge : other.edge ≠ event.edge) : other ∈ passed := by
  rcases List.mem_append.mp h with h | h
  · exact h
  · exact absurd (congrArg Event.edge (List.mem_singleton.mp h)) hedge

/-- A stop never comes before the start of its capture. -/
theorem start_passed {event : Event} (hsplit : passed ++ rest = events source captures)
    (hmem : event ∈ passed) (hedge : event.edge = .stop) :
    ∃ other ∈ passed, other.edge = .start ∧ other.index = event.index := by
  obtain ⟨start, hs⟩ := spans_of_stop (hsplit ▸ List.mem_append_left rest hmem) hedge
  have hstart := hs.start_mem
  rw [← hsplit, List.mem_append] at hstart
  rcases hstart with hstart | hstart
  · exact ⟨_, hstart, rfl, rfl⟩
  · have : event.offset ≤ start := (before_of_split hsplit hmem hstart).offset_le
    have := hs.lt
    omega

theorem Tracks.initial : Tracks source captures [] State.initial.opened := by
  constructor
  · simp [State.initial]
  · exact .nil

theorem Tracks.start {event : Event} (h : Tracks source captures passed opened)
    (hsplit : passed ++ event :: rest = events source captures) (hedge : event.edge = .start) :
    Tracks source captures (passed ++ [event]) (opened ++ [event.index]) := by
  have hsplit' : (passed ++ [event]) ++ rest = events source captures := by simpa using hsplit
  have hevent : event ∈ events source captures := by simp [← hsplit]
  constructor
  · intro i
    constructor
    · intro hi
      rcases List.mem_append.mp hi with hi | hi
      · obtain ⟨⟨other, hother, hstart⟩, hopen⟩ := (h.mem_iff i).mp hi
        refine ⟨⟨other, List.mem_append_left _ hother, hstart⟩, fun stop hstop hkind => ?_⟩
        exact hopen stop (mem_passed hstop (by simp [hkind, hedge])) hkind
      · obtain rfl := List.mem_singleton.mp hi
        refine ⟨⟨event, by simp, hedge, rfl⟩, fun stop hstop hkind heq => ?_⟩
        have hpassed : stop ∈ passed := mem_passed hstop (by simp [hkind, hedge])
        obtain ⟨other, hother, hstart, hindex⟩ := start_passed hsplit hpassed hkind
        have hbefore := before_of_split hsplit hother List.mem_cons_self
        have hoffset := startOf_event (hsplit ▸ List.mem_append_left _ hother) hstart
        rw [hindex, heq, startOf_event hevent hedge] at hoffset
        rcases hbefore.same_edge (hstart.trans hedge.symm) with hlt | ⟨-, hlt⟩ <;> omega
    · rintro ⟨⟨other, hother, hstart, rfl⟩, hopen⟩
      rcases List.mem_append.mp hother with hother | hother
      · refine List.mem_append_left _ ((h.mem_iff _).mpr ⟨⟨other, hother, hstart, rfl⟩, ?_⟩)
        exact fun stop hstop => hopen stop (List.mem_append_left _ hstop)
      · simp [List.mem_singleton.mp hother]
  · refine List.pairwise_append.mpr ⟨h.ordered, List.pairwise_singleton _ _, fun i hi j hj => ?_⟩
    obtain rfl := List.mem_singleton.mp hj
    obtain ⟨⟨other, hother, hstart, rfl⟩, -⟩ := (h.mem_iff i).mp hi
    have hbefore := before_of_split hsplit hother List.mem_cons_self
    rw [Outside, startOf_event (hsplit ▸ List.mem_append_left _ hother) hstart,
      startOf_event hevent hedge]
    exact hbefore.same_edge (hstart.trans hedge.symm)

/-- A stop finds its capture on the stack and takes only that one off. -/
theorem Tracks.stop {event : Event} (h : Tracks source captures passed opened)
    (hedge : event.edge = .stop) :
    Tracks source captures (passed ++ [event]) (opened.erase event.index) := by
  constructor
  · intro i
    rw [h.nodup.mem_erase_iff, h.mem_iff]
    constructor
    · rintro ⟨hne, ⟨other, hother, hstart⟩, hopen⟩
      refine ⟨⟨other, List.mem_append_left _ hother, hstart⟩, fun stop hstop hkind => ?_⟩
      rcases List.mem_append.mp hstop with hstop | hstop
      · exact hopen stop hstop hkind
      · rw [List.mem_singleton.mp hstop]
        exact hne.symm
    · rintro ⟨⟨other, hother, hstart, rfl⟩, hopen⟩
      refine ⟨(hopen event (by simp) hedge).symm, ⟨other, ?_, hstart, rfl⟩, ?_⟩
      · exact mem_passed hother (by simp [hstart, hedge])
      · exact fun stop hstop => hopen stop (List.mem_append_left _ hstop)
  · exact h.ordered.sublist List.erase_sublist

/-- Where no entry comes twice, the last entry for an index is the only one. -/
theorem eraseLast_eq_erase {opened : List Nat} (h : opened.Nodup) (index : Nat) :
    State.eraseLast opened index = opened.erase index := by
  have hreverse : opened.reverse.Nodup := List.nodup_reverse.mpr h
  rw [State.eraseLast, hreverse.erase_eq_filter, h.erase_eq_filter, List.filter_reverse,
    List.reverse_reverse]

theorem Tracks.next {state : State} {event : Event} (h : Tracks source captures passed state.opened)
    (hsplit : passed ++ event :: rest = events source captures) :
    Tracks source captures (passed ++ [event]) (state.next event).opened := by
  cases hedge : event.edge with
  | start => simpa [State.next, hedge] using h.start hsplit hedge
  | stop => simpa [State.next, hedge, eraseLast_eq_erase h.nodup] using h.stop hedge

/-- Between two neighbouring offsets the stack holds the captures that cover the text there. -/
theorem Tracks.mem_iff_spans {lower upper : Nat} (h : Tracks source captures passed opened)
    (hsplit : passed ++ rest = events source captures) (hlt : lower < upper)
    (hpassed : ∀ event ∈ passed, event.offset ≤ lower)
    (hrest : ∀ event ∈ rest, upper ≤ event.offset) (i : Nat) :
    i ∈ opened ↔
      ∃ start stop, Spans source captures i start stop ∧ start ≤ lower ∧ upper ≤ stop := by
  rw [h.mem_iff]
  constructor
  · rintro ⟨⟨event, hmem, hedge, rfl⟩, hopen⟩
    obtain ⟨stop, hs⟩ := spans_of_start (hsplit ▸ List.mem_append_left rest hmem) hedge
    refine ⟨_, stop, hs, hpassed event hmem, ?_⟩
    have hstop := hs.stop_mem
    rw [← hsplit, List.mem_append] at hstop
    rcases hstop with hstop | hstop
    · exact (hopen _ hstop rfl rfl).elim
    · exact hrest _ hstop
  · rintro ⟨start, stop, hs, hstart, hstop⟩
    constructor
    · have hmem := hs.start_mem
      rw [← hsplit, List.mem_append] at hmem
      rcases hmem with hmem | hmem
      · exact ⟨_, hmem, rfl, rfl⟩
      · have : upper ≤ start := hrest _ hmem
        omega
    · rintro event hmem hedge rfl
      obtain ⟨start', hs'⟩ := spans_of_stop (hsplit ▸ List.mem_append_left rest hmem) hedge
      have := hpassed event hmem
      have := (hs.unique hs').2
      omega

end CodeHighlight.Render
