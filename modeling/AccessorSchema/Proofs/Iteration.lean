import AccessorSchema.Proofs.Views

/-! # The size of an iteration

An iterator that walks through a source keeps the number of elements left beside the walk itself.  The two are
equal at the start, since the length of a source is that of its elements, and one call keeps them equal
(`Iter.IsExact.next`): the number goes down by one exactly when an element is handed out.  So they are equal
after any number of calls (`Iter.IsExact.take`), and the iterator tells what is left as a slice does
(`countsDown_iter`). -/

namespace AccessorSchema.ReadView

variable {α : Type}

namespace Iter

/-- The number of elements left is that of the elements still to come. -/
def IsExact (it : Iter α) : Prop := it.length = it.toList.length

/-- The iterator hands out the elements of `xs`, and knows how many are left at every point. -/
structure CountsDown (it : Iter α) (xs : List α) : Prop where
  answers : ∀ k, (it.take k).1 = (xs.take k).map some ++ List.replicate (k - xs.length) none
  length : ∀ k, (it.take k).2.length = xs.length - min k xs.length
  sizeHint : ∀ k, (it.take k).2.sizeHint =
    (xs.length - min k xs.length, some (xs.length - min k xs.length))
  /-- There is something to count down from whenever an element is handed out. -/
  counts : ∀ k x, (it.take k).2.next.1 = some x →
    (it.take k).2.length = (it.take k).2.next.2.length + 1

variable {it : Iter α}

/-! ### One call -/

theorem IsExact.next (h : it.IsExact) : it.next.2.IsExact := by
  cases it with
  | slice rest => cases rest <;> rfl
  | walk rest n =>
      cases rest with
      | nil => exact h
      | cons x rest =>
          show n - 1 = rest.length
          rw [show n = rest.length + 1 from h, Nat.add_sub_cancel]

theorem IsExact.length_of_next (h : it.IsExact) {x : α} (hx : it.next.1 = some x) :
    it.length = it.next.2.length + 1 := by
  rw [next_fst] at hx
  obtain ⟨rest, hrest⟩ := List.head?_eq_some_iff.mp hx
  rw [h, h.next, toList_next, hrest, List.length_cons, List.tail_cons]

/-! ### Many calls -/

theorem toList_take (it : Iter α) (k : Nat) : (it.take k).2.toList = it.toList.drop k := by
  induction k generalizing it with
  | zero => rfl
  | succ k ih =>
      show (it.next.2.take k).2.toList = _
      rw [ih, toList_next, ← List.drop_one, List.drop_drop, Nat.add_comm]

theorem IsExact.take (h : it.IsExact) (k : Nat) : (it.take k).2.IsExact := by
  induction k generalizing it with
  | zero => exact h
  | succ k ih => exact ih h.next

/-- Behind the last element every call answers with nothing. -/
theorem answers_take (it : Iter α) (k : Nat) :
    (it.take k).1 = (it.toList.take k).map some ++ List.replicate (k - it.toList.length) none := by
  induction k generalizing it with
  | zero => simp [take]
  | succ k ih =>
      show it.next.1 :: (it.next.2.take k).1 = _
      rw [ih, next_fst, toList_next]
      cases it.toList with
      | nil => simp [List.replicate_succ]
      | cons x rest => simp

theorem IsExact.countsDown (h : it.IsExact) : it.CountsDown it.toList where
  answers k := it.answers_take k
  length k := by
    rw [h.take k, toList_take, List.length_drop]
    omega
  sizeHint k := by
    rw [sizeHint_eq, h.take k, toList_take, List.length_drop]
    have hmin : it.toList.length - k = it.toList.length - min k it.toList.length := by omega
    rw [hmin]
  counts k _ hx := (h.take k).length_of_next hx

end Iter

/-! ### Views -/

theorem isExact_iter (v : ReadView α) : v.iter.IsExact := by
  cases v with
  | slice items => rfl
  | walked s => exact s.length_eq

theorem toList_ofSource (s : ViewSource α) : (ofSource s).toList = s.elements := by
  unfold ofSource
  cases h : s.slice? with
  | none => rfl
  | some items => exact (s.elements_of_slice? h).symm

/-- A view counts down the elements of its source, and does so in the same way whether it keeps them as a slice
or walks through the source. -/
theorem countsDown_iter (s : ViewSource α) :
    (ofSource s).iter.CountsDown s.elements ∧ (slice s.elements).iter.CountsDown s.elements ∧
      (walked s).iter.CountsDown s.elements := by
  have hcounts : ∀ v : ReadView α, v.toList = s.elements → v.iter.CountsDown s.elements := by
    intro v hv
    exact hv ▸ v.isExact_iter.countsDown
  exact ⟨hcounts _ (toList_ofSource s), hcounts _ rfl, hcounts _ rfl⟩

end ReadView

end AccessorSchema
