import AccessorSchema.View.Basic
import Mathlib.Data.List.Basic

/-! # Views and the lists behind them

A source answers by its own layout: a ring buffer computes in which run an index lies, and cells are walked.
Either way it answers as the list of its elements does (`ViewSource.length_eq`, `ViewSource.get?_eq`).  A
view adds a choice between a slice and the source, and a walk that counts what is left; one call of a walk
takes one element off the list still to come (`Iter.toList_next`), and so do many (`Iter.take_fst`).  What a
view is written to is fed by such calls (`Iter.feed_next`).  Together a view is the list of its source,
whatever it is asked (`ReadView.shows_ofSource`). -/

namespace AccessorSchema

variable {α : Type}

/-! ### Sources -/

namespace Ring

variable (r : Ring α)

theorem length_eq : r.length = r.elements.length := List.length_append.symm

theorem get?_eq (i : Nat) : r.get? i = r.elements[i]? := by
  unfold get? elements
  split
  next h => exact (List.getElem?_append_left h).symm
  next h => exact (List.getElem?_append_right (Nat.le_of_not_lt h)).symm

end Ring

namespace ViewSource

theorem walkTo_eq (items : List α) (i : Nat) : walkTo items i = items[i]? := by
  induction items generalizing i with
  | nil => rfl
  | cons x rest ih =>
      cases i with
      | zero => rfl
      | succ i => exact ih i

variable (s : ViewSource α)

theorem length_eq : s.length = s.elements.length := by
  cases s with
  | run items => rfl
  | ring r => exact r.length_eq
  | cells items => rfl

theorem get?_eq (i : Nat) : s.get? i = s.elements[i]? := by
  cases s with
  | run items => rfl
  | ring r => exact r.get?_eq i
  | cells items => exact walkTo_eq items i

/-- What lies side by side is all there is: a ring buffer with a second run has no slice. -/
theorem elements_of_slice? {items : List α} (h : s.slice? = some items) : s.elements = items := by
  cases s with
  | run items => exact Option.some.inj h
  | ring r =>
      have hring : (if r.back.isEmpty then some r.front else none) = some items := h
      show r.front ++ r.back = items
      split at hring
      next hback => rw [← Option.some.inj hring, List.isEmpty_iff.mp hback, List.append_nil]
      next => cases hring
  | cells items => cases h

end ViewSource

namespace ReadView

/-! ### Walks -/

namespace Iter

theorem next_fst (it : Iter α) : it.next.1 = it.toList.head? := by
  rcases it with (_ | _) | ⟨_ | _, _⟩ <;> rfl

theorem toList_next (it : Iter α) : it.next.2.toList = it.toList.tail := by
  rcases it with (_ | _) | ⟨_ | _, _⟩ <;> rfl

/-- Successive calls answer with the elements in order, and with nothing behind the last. -/
theorem take_fst (n : Nat) (it : Iter α) : (it.take n).1 = (List.range n).map (it.toList[·]?) := by
  induction n generalizing it with
  | zero => rfl
  | succ n ih =>
      have hrest : (it.next.2.take n).1 = (List.range n).map fun i => it.toList[i + 1]? := by
        rw [ih, toList_next]
        refine List.map_congr_left fun i _ => ?_
        rw [← List.drop_one, List.getElem?_drop, Nat.add_comm]
      show it.next.1 :: (it.next.2.take n).1 = _
      rw [hrest, next_fst, List.range_succ_eq_map, List.map_cons, List.map_map, List.head?_eq_getElem?]
      rfl

theorem sizeHint_eq (it : Iter α) : it.sizeHint = (it.length, some it.length) := by
  cases it <;> rfl

theorem exactLength?_eq (it : Iter α) : it.exactLength? = some it.length := by
  rw [exactLength?, sizeHint_eq]
  exact if_pos (beq_self_eq_true _)

/-- Feeding is calling: what comes first is handed over first, and what is left after it. -/
theorem feed_next {σ ε : Type} (f : σ → α → Except ε σ) (s : σ) (it : Iter α) :
    it.feed f s =
      match it.next.1 with
      | none => .ok s
      | some x => f s x >>= fun s' => it.next.2.feed f s' := by
  rcases it with (_ | _) | ⟨_ | _, _⟩ <;> rfl

end Iter

/-! ### Sinks -/

/-- Brackets are put around the texts of all elements. -/
theorem written_brackets (separator : String) (elemText : α → String) (length? : Option Nat) (items : List α) :
    SeqSink.written ((SeqSink.brackets separator elemText).write length? items) =
      "[" ++ separator.intercalate (items.map elemText) ++ "]" := by
  have hentries : ∀ texts : List String, items.foldlM (SeqSink.brackets separator elemText).entry texts =
      .ok (texts ++ items.map elemText) := by
    induction items with
    | nil => exact fun texts => congrArg Except.ok (List.append_nil texts).symm
    | cons x rest ih =>
        intro texts
        rw [List.map_cons, List.append_cons]
        exact ih (texts ++ [elemText x])
  show SeqSink.written (items.foldlM _ [] >>= _) = _
  rw [hentries]
  rfl

/-! ### Views -/

/-- The view answers as the list `xs`. -/
structure Shows (v : ReadView α) (xs : List α) : Prop where
  length : v.length = xs.length
  isEmpty : v.isEmpty = xs.isEmpty
  get? : ∀ i, v.get? i = xs[i]?
  first? : v.first? = xs.head?
  last? : v.last? = xs.getLast?
  slice? : ∀ items ∈ v.slice?, items = xs
  /-- Indexing has the element at the index as its result. -/
  at?_ok : ∀ i x, v.at? i = .ok x ↔ xs[i]? = some x
  /-- It fails behind the last element and nowhere else. -/
  at?_error : ∀ i e, v.at? i = .error e ↔ xs.length ≤ i ∧ e = ⟨xs.length, i⟩
  /-- A walk has the elements before it, and knows how many. -/
  iter_length : v.iter.length = xs.length
  iter_take : ∀ n, (v.iter.take n).1 = (List.range n).map (xs[·]?)
  toList : v.toList = xs
  /-- Whatever the elements are shown by gets all of them as its entries. -/
  debug : ∀ {σ ε β : Type} (sink : SeqSink α σ ε β), v.debug sink = sink.write none xs
  /-- Whatever they are serialized by is told their number first. -/
  serialize : ∀ {σ ε β : Type} (sink : SeqSink α σ ε β), v.serialize sink = sink.write (some xs.length) xs
  shown : ∀ showElem, v.shown showElem = "[" ++ ", ".intercalate (xs.map showElem) ++ "]"
  json : ∀ elemJson, v.json elemJson = "[" ++ ",".intercalate (xs.map elemJson) ++ "]"

variable {v w : ReadView α} {xs ys : List α}

/-- A view that has the length, the elements by index and the walk of a list answers as that list. -/
theorem shows_of_core (hlength : v.length = xs.length) (hget : ∀ i, v.get? i = xs[i]?)
    (hlast : v.last? = xs.getLast?) (hslice : ∀ items ∈ v.slice?, items = xs)
    (hcount : v.iter.length = xs.length) (hlist : v.toList = xs) : v.Shows xs where
  length := hlength
  isEmpty := by
    rw [isEmpty, hlength]
    cases xs <;> rfl
  get? := hget
  first? := by rw [first?, hget, List.head?_eq_getElem?]
  last? := hlast
  slice? := hslice
  at?_ok i x := by
    unfold at?
    rw [hget]
    cases xs[i]? <;> simp
  at?_error i e := by
    unfold at?
    rw [hget, hlength, ← List.getElem?_eq_none_iff]
    cases xs[i]? <;> simp [eq_comm]
  iter_length := hcount
  iter_take n := by
    rw [Iter.take_fst]
    exact congrArg (fun items : List α => (List.range n).map (items[·]?)) hlist
  toList := hlist
  debug sink := by rw [← hlist]; rfl
  serialize sink := by rw [serialize, Iter.exactLength?_eq, hcount, ← hlist]; rfl
  shown showElem := by rw [← hlist]; exact written_brackets ", " showElem none v.toList
  json elemJson := by rw [← hlist]; exact written_brackets "," elemJson v.iter.exactLength? v.toList

theorem shows_slice (items : List α) : (slice items).Shows items :=
  shows_of_core rfl (fun _ => rfl) rfl (fun _ h => (Option.some.inj h).symm) rfl rfl

/-- The last element of a source is looked up by the length less one, if that is anything. -/
theorem last?_walked (s : ViewSource α) : (walked s).last? = s.elements.getLast? := by
  show (if s.length == 0 then none else s.get? (s.length - 1)) = _
  rw [s.length_eq, s.get?_eq, List.getLast?_eq_getElem?]
  split
  next hempty =>
    have hnil : s.elements = [] := List.eq_nil_of_length_eq_zero (by simpa using hempty)
    rw [hnil]
    rfl
  next => rfl

theorem shows_walked (s : ViewSource α) : (walked s).Shows s.elements :=
  shows_of_core s.length_eq s.get?_eq (last?_walked s) (fun _ h => nomatch h) s.length_eq rfl

/-! ### Comparison -/

/-- Lists that are equal element by element are equally long. -/
theorem length_beq_of_beq [BEq α] (h : (xs == ys) = true) : (xs.length == ys.length) = true := by
  induction xs generalizing ys with
  | nil =>
      cases ys with
      | nil => rfl
      | cons => cases h
  | cons x xs ih =>
      cases ys with
      | nil => cases h
      | cons y ys => simpa using ih (Bool.and_eq_true_iff.mp h).2

theorem length_beq_and_beq [BEq α] (xs ys : List α) :
    (xs.length == ys.length && xs == ys) = (xs == ys) := by
  cases h : xs == ys with
  | false => rw [Bool.and_false]
  | true => rw [length_beq_of_beq h, Bool.and_true]

theorem Shows.eqList_eq [BEq α] (h : v.Shows xs) (items : List α) : v.eqList items = (xs == items) := by
  rw [eqList, h.length, h.toList, length_beq_and_beq]

theorem Shows.beq_eq [BEq α] (h : v.Shows xs) (h' : w.Shows ys) : (v == w) = (xs == ys) := by
  show (v.length == w.length && v.toList == w.toList) = _
  rw [h.length, h'.length, h.toList, h'.toList, length_beq_and_beq]

/-- A view of a source answers as the list of its elements, and is compared like it. -/
theorem shows_ofSource (s : ViewSource α) :
    (ofSource s).Shows s.elements ∧
      ∀ [BEq α], (∀ items, (ofSource s).eqList items = (s.elements == items)) ∧
        ∀ t, (ofSource s == ofSource t) = (s.elements == t.elements) := by
  have hshows : ∀ s : ViewSource α, (ofSource s).Shows s.elements := by
    intro s
    unfold ofSource
    cases h : s.slice? with
    | none => exact shows_walked s
    | some items => exact s.elements_of_slice? h ▸ shows_slice items
  exact ⟨hshows s, (hshows s).eqList_eq, fun t => (hshows s).beq_eq (hshows t)⟩

/-- A ring buffer that was pushed to at both ends is equal to a vector with the same elements, though it
has no slice. -/
example :
    let ring := ofSource (.ring (((Ring.ofList [2, 3]).pushBack 4).pushFront 1))
    ring.slice? = none ∧ ring.eqList [1, 2, 3, 4] = true ∧ ring == ofSource (.run [1, 2, 3, 4]) := by
  decide

end ReadView

end AccessorSchema
