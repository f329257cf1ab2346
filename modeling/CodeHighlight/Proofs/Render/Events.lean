import CodeHighlight.Proofs.StableSort
import CodeHighlight.Proofs.Text.Clamping
import CodeHighlight.Render.Sweep

/-! # Events of the sweep

Every capture with text left of it has one start and one stop among the events. Sorting puts them by
offset, stops before starts, and events of one kind at one offset by the places of their captures.
-/
namespace CodeHighlight.Render

open CodeHighlight.Text

variable {source : List Char} {captures : List Capture}

/-- The capture at this place in the list has the text from `start` up to `stop` left of it. -/
def Spans (source : List Char) (captures : List Capture) (index start stop : Nat) : Prop :=
  ∃ capture, captures[index]? = some capture ∧ floorBoundary source capture.start = start ∧
    floorBoundary source capture.stop = stop ∧ start < stop

theorem Spans.unique {index start stop start' stop' : Nat}
    (h : Spans source captures index start stop) (h' : Spans source captures index start' stop') :
    start = start' ∧ stop = stop' := by
  obtain ⟨capture, hc, rfl, rfl, -⟩ := h
  obtain ⟨capture', hc', rfl, rfl, -⟩ := h'
  obtain rfl := Option.some.inj (hc.symm.trans hc')
  exact ⟨rfl, rfl⟩

theorem Spans.lt {index start stop : Nat} (h : Spans source captures index start stop) :
    start < stop := by
  obtain ⟨_, _, _, _, h⟩ := h
  exact h

theorem captureEvents_eq (source : List Char) (capture : Capture) (index : Nat) :
    captureEvents source capture index =
      if floorBoundary source capture.start < floorBoundary source capture.stop then
        [⟨floorBoundary source capture.start, .start, index⟩,
          ⟨floorBoundary source capture.stop, .stop, index⟩]
      else [] := by
  simp only [captureEvents, clampOffset_eq_floorBoundary]

theorem mem_captureEvents {capture : Capture} {index : Nat} {event : Event} :
    event ∈ captureEvents source capture index ↔
      floorBoundary source capture.start < floorBoundary source capture.stop ∧
        event.index = index ∧
        (event.edge = .start ∧ event.offset = floorBoundary source capture.start ∨
          event.edge = .stop ∧ event.offset = floorBoundary source capture.stop) := by
  obtain ⟨offset, edge, place⟩ := event
  by_cases h : floorBoundary source capture.start < floorBoundary source capture.stop
  · simp only [captureEvents_eq, h, if_true, List.mem_cons, Event.mk.injEq, List.not_mem_nil,
      or_false, true_and]
    constructor
    · rintro (⟨rfl, rfl, rfl⟩ | ⟨rfl, rfl, rfl⟩)
      · exact ⟨rfl, Or.inl ⟨rfl, rfl⟩⟩
      · exact ⟨rfl, Or.inr ⟨rfl, rfl⟩⟩
    · rintro ⟨rfl, ⟨rfl, rfl⟩ | ⟨rfl, rfl⟩⟩
      · exact Or.inl ⟨rfl, rfl, rfl⟩
      · exact Or.inr ⟨rfl, rfl, rfl⟩
  · simp [captureEvents_eq, h]

theorem mem_events {event : Event} :
    event ∈ events source captures ↔ ∃ start stop, Spans source captures event.index start stop ∧
      (event.edge = .start ∧ event.offset = start ∨ event.edge = .stop ∧ event.offset = stop) := by
  rw [events, List.mem_mergeSort, List.mem_flatMap]
  constructor
  · rintro ⟨⟨capture, index⟩, hmem, he⟩
    obtain ⟨hlt, rfl, hedge⟩ := mem_captureEvents.mp he
    exact ⟨_, _, ⟨capture, List.mem_zipIdx_iff_getElem?.mp hmem, rfl, rfl, hlt⟩, hedge⟩
  · rintro ⟨_, _, ⟨capture, hc, rfl, rfl, hlt⟩, he⟩
    exact ⟨(capture, event.index), List.mem_zipIdx_iff_getElem?.mpr hc,
      mem_captureEvents.mpr ⟨hlt, rfl, he⟩⟩

theorem spans_of_start {event : Event} (h : event ∈ events source captures)
    (hedge : event.edge = .start) :
    ∃ stop, Spans source captures event.index event.offset stop := by
  obtain ⟨start, stop, hs, ⟨-, rfl⟩ | ⟨he, -⟩⟩ := mem_events.mp h
  · exact ⟨stop, hs⟩
  · cases hedge.symm.trans he

theorem spans_of_stop {event : Event} (h : event ∈ events source captures)
    (hedge : event.edge = .stop) :
    ∃ start, Spans source captures event.index start event.offset := by
  obtain ⟨start, stop, hs, ⟨he, -⟩ | ⟨-, rfl⟩⟩ := mem_events.mp h
  · cases hedge.symm.trans he
  · exact ⟨start, hs⟩

theorem Spans.start_mem {index start stop : Nat} (h : Spans source captures index start stop) :
    ⟨start, .start, index⟩ ∈ events source captures :=
  mem_events.mpr ⟨start, stop, h, Or.inl ⟨rfl, rfl⟩⟩

theorem Spans.stop_mem {index start stop : Nat} (h : Spans source captures index start stop) :
    ⟨stop, .stop, index⟩ ∈ events source captures :=
  mem_events.mpr ⟨start, stop, h, Or.inr ⟨rfl, rfl⟩⟩

/-- The order of the sweep, which tells any two events apart. -/
def Event.Before (a b : Event) : Prop := a.le b ∧ (b.le a → a.index < b.index)

theorem Event.le_iff {a b : Event} :
    a.le b ↔ a.offset < b.offset ∨ a.offset = b.offset ∧ (a.edge = .stop ∨ b.edge = .start) := by
  simp [Event.le]

theorem Event.Before.offset_le {a b : Event} (h : a.Before b) : a.offset ≤ b.offset := by
  rcases Event.le_iff.mp h.1 with h | ⟨h, -⟩ <;> omega

/-- Events of one kind come by offset and then by their places in the list. -/
theorem Event.Before.same_edge {a b : Event} (h : a.Before b) (hedge : a.edge = b.edge) :
    a.offset < b.offset ∨ a.offset = b.offset ∧ a.index < b.index := by
  rcases Event.le_iff.mp h.1 with hlt | ⟨heq, hab⟩
  · exact Or.inl hlt
  · refine Or.inr ⟨heq, h.2 (Event.le_iff.mpr (Or.inr ⟨heq.symm, ?_⟩))⟩
    rw [← hedge]
    rw [← hedge] at hab
    exact hab

theorem Event.le_trans (a b c : Event) (hab : a.le b) (hbc : b.le c) : a.le c := by
  rw [Event.le_iff] at *
  cases ha : a.edge <;> cases hb : b.edge <;> cases hc : c.edge <;> simp_all <;> omega

theorem Event.le_total (a b : Event) : a.le b || b.le a := by
  rw [Bool.or_eq_true, Event.le_iff, Event.le_iff]
  cases ha : a.edge <;> cases hb : b.edge <;> simp <;> omega

theorem Event.edge_eq {a b : Event} (hab : a.le b) (hba : b.le a) : a.edge = b.edge := by
  rw [Event.le_iff] at hab hba
  cases ha : a.edge <;> cases hb : b.edge <;> simp_all <;> omega

theorem events_ordered (source : List Char) (captures : List Capture) :
    (events source captures).Pairwise Event.Before := by
  have hties : (captures.zipIdx.flatMap fun entry =>
      captureEvents source entry.1 entry.2).Pairwise
        fun a b => a.edge = b.edge → a.index < b.index := by
    refine List.pairwise_flatMap.mpr ⟨?_, ?_⟩
    · rintro ⟨capture, index⟩ -
      rw [captureEvents_eq]
      split <;> simp
    · refine List.pairwise_iff_getElem.mpr fun i j hi hj hij a ha b hb _ => ?_
      simp only [List.getElem_zipIdx] at ha hb
      rw [(mem_captureEvents.mp ha).2.1, (mem_captureEvents.mp hb).2.1]
      omega
  refine (pairwise_mergeSort_ties Event.le_trans Event.le_total hties).imp fun {a b} h => ?_
  exact ⟨h.1, fun hba => h.2 hba (Event.edge_eq h.1 hba)⟩

end CodeHighlight.Render
