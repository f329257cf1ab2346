import Mathlib.Data.List.Basic

/-! # Stable sorting

Merge sort keeps the order of entries that the comparison does not tell apart. Where some relation
settles ties in the input, the output is ordered by the comparison and then by that relation. -/
namespace CodeHighlight

variable {α : Type}

theorem distinct_zipIdx (l : List α) : l.zipIdx.Pairwise (·.2 ≠ ·.2) := by
  refine List.pairwise_iff_getElem.mpr fun i j hi hj hij => ?_
  simp only [List.getElem_zipIdx]
  omega

/-- Entries in the order of the comparison, ties in the order of the input. -/
theorem pairwise_mergeSort_ties {le : α → α → Bool} {Tie : α → α → Prop}
    (trans : ∀ a b c, le a b → le b c → le a c) (total : ∀ a b, le a b || le b a)
    {l : List α} (h : l.Pairwise Tie) :
    (l.mergeSort le).Pairwise fun a b => le a b ∧ (le b a → Tie a b) := by
  rw [← List.mergeSort_zipIdx, List.pairwise_map]
  have hsorted := List.pairwise_mergeSort (List.zipIdxLE_trans trans)
    (List.zipIdxLE_total total) l.zipIdx
  have hperm := List.mergeSort_perm l.zipIdx (List.zipIdxLE le)
  have hdistinct := (hperm.pairwise_iff Ne.symm).mpr (distinct_zipIdx l)
  refine (hsorted.and hdistinct).imp_of_mem fun {a b} ha hb hab => ?_
  obtain ⟨hle, hne⟩ := hab
  rw [List.zipIdxLE] at hle
  split at hle
  · rename_i hab
    refine ⟨hab, fun hba => ?_⟩
    rw [if_pos hba, decide_eq_true_eq] at hle
    obtain ⟨hia, ha⟩ := List.getElem?_eq_some_iff.mp
      (List.mem_zipIdx_iff_getElem?.mp (hperm.mem_iff.mp ha))
    obtain ⟨hib, hb⟩ := List.getElem?_eq_some_iff.mp
      (List.mem_zipIdx_iff_getElem?.mp (hperm.mem_iff.mp hb))
    rw [← ha, ← hb]
    exact List.pairwise_iff_getElem.mp h _ _ hia hib (by omega)
  · cases hle

/-- Entries that are all tied with one another stay as they stand. -/
theorem filter_mergeSort {le : α → α → Bool}
    (trans : ∀ a b c, le a b → le b c → le a c) (total : ∀ a b, le a b || le b a)
    {p : α → Bool} (tied : ∀ a b, p a → p b → le a b) (l : List α) :
    (l.mergeSort le).filter p = l.filter p := by
  have hties : (l.filter p).Pairwise fun a b => le a b :=
    List.pairwise_of_forall_mem_list fun a ha b hb =>
      tied a b (List.mem_filter.mp ha).2 (List.mem_filter.mp hb).2
  have hsub : (l.filter p).Sublist (l.mergeSort le) :=
    List.sublist_mergeSort trans total hties List.filter_sublist
  have hkept : (l.filter p).Sublist ((l.mergeSort le).filter p) := by
    have h := hsub.filter p
    rw [List.filter_filter] at h
    simpa using h
  have hlength : (l.filter p).length = ((l.mergeSort le).filter p).length :=
    ((List.mergeSort_perm l le).filter p).length_eq.symm
  exact (hkept.eq_of_length hlength).symm

/-- Lists in the order of a key are equal if they have the same entries in the same order under
every key. -/
theorem eq_of_filter_key {key : α → Nat} {a b : List α} (ha : a.Pairwise (key · ≤ key ·))
    (hb : b.Pairwise (key · ≤ key ·))
    (h : ∀ k, a.filter (fun x => key x = k) = b.filter (fun x => key x = k)) : a = b := by
  induction a generalizing b with
  | nil =>
    cases b with
    | nil => rfl
    | cons y ys => simpa using h (key y)
  | cons x xs ih =>
    cases b with
    | nil => simpa using h (key x)
    | cons y ys =>
      rw [List.pairwise_cons] at ha hb
      have hx : x ∈ y :: ys := by
        have hmem : x ∈ (y :: ys).filter (fun z => key z = key x) := by
          rw [← h]
          simp
        exact (List.mem_filter.mp hmem).1
      have hy : y ∈ x :: xs := by
        have hmem : y ∈ (x :: xs).filter (fun z => key z = key y) := by
          rw [h]
          simp
        exact (List.mem_filter.mp hmem).1
      have hle : key y ≤ key x := by
        rcases List.mem_cons.mp hx with rfl | hx
        · exact Nat.le_refl _
        · exact hb.1 x hx
      have hge : key x ≤ key y := by
        rcases List.mem_cons.mp hy with rfl | hy
        · exact Nat.le_refl _
        · exact ha.1 y hy
      have hkey : key y = key x := Nat.le_antisymm hle hge
      have hfirst := h (key x)
      simp only [List.filter_cons, hkey, decide_true, if_true, List.cons.injEq] at hfirst
      obtain ⟨rfl, -⟩ := hfirst
      refine congrArg (x :: ·) (ih ha.2 hb.2 fun k => ?_)
      have hk := h k
      by_cases hxk : key x = k <;> simpa [List.filter_cons, hxk] using hk

theorem mergeSort_key_ordered (key : α → Nat) (l : List α) :
    (l.mergeSort fun x y => key x ≤ key y).Pairwise (key · ≤ key ·) := by
  have hsorted : (l.mergeSort fun x y => key x ≤ key y).Pairwise fun x y =>
      decide (key x ≤ key y) :=
    List.pairwise_mergeSort (by simp only [decide_eq_true_eq]; omega)
      (by simp only [Bool.or_eq_true, decide_eq_true_eq]; omega) l
  exact hsorted.imp of_decide_eq_true

theorem filter_key_mergeSort (key : α → Nat) (l : List α) (k : Nat) :
    (l.mergeSort fun x y => key x ≤ key y).filter (fun x => key x = k) =
      l.filter fun x => key x = k := by
  refine filter_mergeSort (by simp only [decide_eq_true_eq]; omega)
    (by simp only [Bool.or_eq_true, decide_eq_true_eq]; omega) (fun x y hx hy => ?_) l
  rw [decide_eq_true_eq] at hx hy ⊢
  omega

/-- Sorting by a key depends only on which entries there are under every key, and in which order. -/
theorem mergeSort_eq_of_filter_key {key : α → Nat} {a b : List α}
    (h : ∀ k, a.filter (fun x => key x = k) = b.filter (fun x => key x = k)) :
    (a.mergeSort fun x y => key x ≤ key y) = b.mergeSort fun x y => key x ≤ key y := by
  refine eq_of_filter_key (mergeSort_key_ordered key a) (mergeSort_key_ordered key b) fun k => ?_
  rw [filter_key_mergeSort, filter_key_mergeSort, h]

/-- Entries may be left out before they are sorted by a key, or afterwards. -/
theorem filter_mergeSort_by_key (key : α → Nat) (p : α → Bool) (l : List α) :
    (l.mergeSort fun x y => key x ≤ key y).filter p =
      (l.filter p).mergeSort fun x y => key x ≤ key y := by
  have hkept := (mergeSort_key_ordered key l).filter p
  refine eq_of_filter_key hkept (mergeSort_key_ordered key (l.filter p)) fun k => ?_
  rw [filter_key_mergeSort, List.filter_comm, filter_key_mergeSort, List.filter_comm]

end CodeHighlight
