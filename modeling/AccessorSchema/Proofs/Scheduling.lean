import AccessorSchema.Compilation.Schedule
import Mathlib.Data.Finset.Card
import Mathlib.Data.Fintype.EquivFin
import Mathlib.Data.List.Induction
import Mathlib.Data.List.Nodup
import Mathlib.Order.WellFounded

/-! # Every type is scheduled, behind the one it waits for

A type is cyclic exactly when going from base to base comes back to it, however long that takes
(`isCyclic_iff`).  Without the cyclic ones nobody waits in a circle (`wellFounded_awaits`), so some
type is ready as long as one is left (`exists_ready`).  Placing ready types one after the other keeps
the order (`InOrder.snoc`, `place_inOrder`), hence the schedule is an arrangement of all types in
which each stands behind the one it waits for (`order_perm`, `order_inOrder`). -/

namespace AccessorSchema.Schedule

open Relation

/-- `j` is the base of `i`. -/
def HasParent (parents : List (Option Nat)) (i j : Nat) : Prop := parent? parents i = some j

/-- Every base has a number of its own. -/
def InRange (parents : List (Option Nat)) : Prop := ∀ i j, HasParent parents i j → j < parents.length

variable {parents : List (Option Nat)}

/-! ### Ancestors -/

theorem ancestor?_add (m n i : Nat) :
    ancestor? parents (m + n) i = (ancestor? parents m i).bind (ancestor? parents n) := by
  induction m generalizing i with
  | zero => rw [Nat.zero_add, ancestor?, Option.bind_some]
  | succ m ih =>
      rw [Nat.succ_add, ancestor?, ancestor?]
      cases parent? parents i with
      | none => rfl
      | some j => exact ih j

theorem ancestor?_one (i : Nat) : ancestor? parents 1 i = parent? parents i := by
  simp only [ancestor?]
  cases parent? parents i <;> rfl

theorem transGen_of_ancestor? {k i j : Nat} (h : ancestor? parents (k + 1) i = some j) :
    TransGen (HasParent parents) i j := by
  induction k generalizing i with
  | zero => exact .single (by rw [ancestor?_one] at h; exact h)
  | succ k ih =>
      rw [ancestor?] at h
      obtain ⟨m, hm, hj⟩ := Option.bind_eq_some_iff.mp h
      exact .head hm (ih hj)

theorem ancestor?_of_transGen {i j : Nat} (h : TransGen (HasParent parents) i j) :
    ∃ k, ancestor? parents (k + 1) i = some j := by
  induction h with
  | single h => exact ⟨0, by rw [ancestor?_one]; exact h⟩
  | tail _ h ih =>
      obtain ⟨k, hk⟩ := ih
      refine ⟨k + 1, ?_⟩
      rw [ancestor?_add, hk, Option.bind_some, ancestor?_one]
      exact h

theorem lt_of_transGen (hr : InRange parents) {i j : Nat} (h : TransGen (HasParent parents) i j) :
    j < parents.length := by
  obtain ⟨k, -, hk⟩ := TransGen.tail'_iff.mp h
  exact hr k j hk

theorem exists_ancestor_of_le (hr : InRange parents) {i k a : Nat}
    (h : ancestor? parents (k + 1) i = some i) (ha : a ≤ k) :
    ∃ x, ancestor? parents a i = some x ∧ x < parents.length := by
  cases a with
  | zero => exact ⟨i, rfl, lt_of_transGen hr (transGen_of_ancestor? h)⟩
  | succ a =>
      have hsum : k + 1 = a + 1 + (k - a) := by omega
      rw [hsum, ancestor?_add] at h
      obtain ⟨x, hx, -⟩ := Option.bind_eq_some_iff.mp h
      exact ⟨x, hx, lt_of_transGen hr (transGen_of_ancestor? hx)⟩

/-- If a way back passed a type twice, leaving out what lies between would make it shorter. -/
theorem ancestor?_ne_of_shortest {i k : Nat} (h : ancestor? parents (k + 1) i = some i)
    (hmin : ∀ m < k, ancestor? parents (m + 1) i ≠ some i) {a b : Nat} (hab : a < b) (hb : b ≤ k) :
    ancestor? parents a i ≠ ancestor? parents b i := by
  intro heq
  have hsum : k + 1 = b + (k + 1 - b) := by omega
  have hshort : a + (k + 1 - b) = (k - (b - a)) + 1 := by omega
  rw [hsum, ancestor?_add, ← heq, ← ancestor?_add, hshort] at h
  exact hmin _ (by omega) h

/-- A shortest way back passes no type twice, so there are enough types for each step of it. -/
theorem lt_length_of_shortest (hr : InRange parents) {i k : Nat}
    (h : ancestor? parents (k + 1) i = some i)
    (hmin : ∀ m < k, ancestor? parents (m + 1) i ≠ some i) : k < parents.length := by
  have hcard : (Finset.range (k + 1)).card ≤ (Finset.range parents.length).card := by
    refine Finset.card_le_card_of_injOn (fun a => (ancestor? parents a i).getD 0) ?_ ?_
    · intro a ha
      obtain ⟨x, hx, hlt⟩ := exists_ancestor_of_le hr h (a := a) (by simpa [Nat.lt_succ_iff] using ha)
      simpa [hx] using hlt
    · intro a ha b hb hab
      rw [Finset.coe_range, Set.mem_Iio, Nat.lt_succ_iff] at ha hb
      obtain ⟨x, hx, -⟩ := exists_ancestor_of_le hr h ha
      obtain ⟨y, hy, -⟩ := exists_ancestor_of_le hr h hb
      simp only [hx, hy, Option.getD_some] at hab
      rcases Nat.lt_trichotomy a b with hlt | heq | hlt
      · exact absurd (by rw [hx, hy, hab]) (ancestor?_ne_of_shortest h hmin hlt hb)
      · exact heq
      · exact absurd (by rw [hx, hy, hab]) (ancestor?_ne_of_shortest h hmin hlt ha)
  simpa [Nat.succ_le_iff] using hcard

/-- A type is cyclic when it is its own ancestor. -/
theorem isCyclic_iff (hr : InRange parents) (i : Nat) :
    isCyclic parents i = true ↔ TransGen (HasParent parents) i i := by
  unfold isCyclic
  rw [List.any_eq_true]
  constructor
  · rintro ⟨k, -, hk⟩
    exact transGen_of_ancestor? (by simpa using hk)
  · intro h
    have hex := ancestor?_of_transGen h
    classical
    refine ⟨Nat.find hex, ?_, by simpa using Nat.find_spec hex⟩
    rw [List.mem_range]
    exact lt_length_of_shortest hr (Nat.find_spec hex) fun m hm => Nat.find_min hex hm

/-! ### Waiting -/

theorem awaited?_eq_some {i j : Nat} :
    awaited? parents i = some j ↔ isCyclic parents i = false ∧ HasParent parents i j := by
  unfold awaited? HasParent
  cases isCyclic parents i <;> simp

/-- For each type the one that it waits for. -/
abbrev waiting (parents : List (Option Nat)) : List (Option Nat) :=
  (List.range parents.length).map (awaited? parents)

/-- Nobody waits in a circle. -/
theorem wellFounded_awaits (hr : InRange parents) :
    WellFounded fun j i : Fin parents.length => awaited? parents i = some j.val := by
  let Waits : Fin parents.length → Fin parents.length → Prop := fun j i =>
    awaited? parents i = some j.val
  have hup : ∀ j i : Fin parents.length, TransGen Waits j i → TransGen (HasParent parents) i j := by
    intro j i h
    induction h with
    | single h => exact .single (awaited?_eq_some.mp h).2
    | tail _ h ih => exact .head (awaited?_eq_some.mp h).2 ih
  have hirrefl : Std.Irrefl (TransGen Waits) := by
    refine ⟨fun i h => ?_⟩
    obtain ⟨j, -, hj⟩ := TransGen.tail'_iff.mp h
    have hc := (isCyclic_iff hr i).mpr (hup i i h)
    rw [(awaited?_eq_some.mp hj).1] at hc
    exact Bool.noConfusion hc
  have hsub : Subrelation Waits (TransGen Waits) := fun h => TransGen.single h
  exact hsub.wf (Finite.wellFounded_of_trans_of_irrefl (TransGen Waits))

theorem isReady_iff {placed : List Nat} {i : Nat} (hi : i < parents.length) :
    isReady (waiting parents) placed i = true ↔
      i ∉ placed ∧ ∀ j, awaited? parents i = some j → j ∈ placed := by
  unfold isReady
  cases ha : awaited? parents i <;> simp [hi, ha]

/-- As long as a type is left, one of those left is ready. -/
theorem exists_ready (hr : InRange parents) {placed : List Nat} {i : Nat} (hi : i < parents.length)
    (hp : i ∉ placed) :
    ∃ j < parents.length,
      isReady (waiting parents) placed j = true := by
  obtain ⟨j, hj, hmin⟩ := (wellFounded_awaits hr).has_min
    {j : Fin parents.length | j.val ∉ placed} ⟨⟨i, hi⟩, hp⟩
  refine ⟨j, j.isLt, (isReady_iff j.isLt).mpr ⟨hj, fun k hk => ?_⟩⟩
  have hlt : k < parents.length := hr j k (awaited?_eq_some.mp hk).2
  by_contra hkp
  exact hmin ⟨k, hlt⟩ hkp hk

/-! ### The order -/

/-- Every type stands once, behind the one it waits for. -/
structure InOrder (parents : List (Option Nat)) (order : List Nat) : Prop where
  nodup : order.Nodup
  lt : ∀ i ∈ order, i < parents.length
  waits : ∀ pre i post, order = pre ++ i :: post → ∀ j, awaited? parents i = some j → j ∈ pre

/-- What holds at every place of a list, and behind it of one thing more, holds at every place of both. -/
theorem forall_split_snoc {P : List Nat → Nat → Prop} {l : List Nat} {i : Nat}
    (h : ∀ pre j post, l = pre ++ j :: post → P pre j) (hi : P l i) :
    ∀ pre j post, l ++ [i] = pre ++ j :: post → P pre j := by
  intro pre j post heq
  induction post using List.reverseRecOn with
  | nil =>
      obtain ⟨rfl, hj⟩ := List.append_inj' heq rfl
      obtain rfl : i = j := by simpa using hj
      exact hi
  | append_singleton post k _ =>
      rw [← List.cons_append, ← List.append_assoc] at heq
      exact h pre j post (List.append_inj' heq rfl).1

theorem InOrder.nil : InOrder parents [] :=
  ⟨List.nodup_nil, by simp, by simp⟩

theorem InOrder.snoc {placed : List Nat} (h : InOrder parents placed) {i : Nat}
    (hi : i < parents.length)
    (hready : isReady (waiting parents) placed i = true) :
    InOrder parents (placed ++ [i]) := by
  obtain ⟨hnew, hbase⟩ := (isReady_iff hi).mp hready
  refine ⟨?_, ?_, forall_split_snoc h.waits hbase⟩
  · exact List.nodup_append.mpr ⟨h.nodup, List.nodup_singleton i, fun a ha b hb => by
      rw [List.mem_singleton] at hb
      rintro rfl
      exact hnew (hb ▸ ha)⟩
  · intro j hj
    rcases List.mem_append.mp hj with hj | hj
    · exact h.lt j hj
    · rw [List.mem_singleton] at hj
      exact hj ▸ hi

/-- Placing more types keeps the order. -/
theorem place_inOrder (count : Nat) {placed : List Nat} (h : InOrder parents placed) :
    InOrder parents (place (waiting parents) count placed) := by
  induction count generalizing placed with
  | zero => exact h
  | succ count ih =>
      rw [place]
      split
      next i hi =>
        have hlt := List.mem_range.mp (List.mem_of_find?_eq_some hi)
        rw [List.length_map, List.length_range] at hlt
        exact ih (h.snoc hlt (List.find?_some hi))
      next => exact h

theorem exists_lt_notMem {n : Nat} {placed : List Nat} (hlen : placed.length < n) :
    ∃ i < n, i ∉ placed := by
  by_contra hall
  push Not at hall
  have hsub : List.range n ⊆ placed := fun i hi => hall i (List.mem_range.mp hi)
  have := (List.subperm_of_subset List.nodup_range hsub).length_le
  rw [List.length_range] at this
  omega

/-- Placing never gets stuck before its count is used up. -/
theorem length_place (hr : InRange parents) (count : Nat) {placed : List Nat}
    (h : InOrder parents placed) (hlen : placed.length + count = parents.length) :
    (place (waiting parents) count placed).length =
      parents.length := by
  induction count generalizing placed with
  | zero => simpa [place] using hlen
  | succ count ih =>
      rw [place]
      split
      next i hi =>
        have hlt := List.mem_range.mp (List.mem_of_find?_eq_some hi)
        rw [List.length_map, List.length_range] at hlt
        exact ih (h.snoc hlt (List.find?_some hi)) (by rw [List.length_append, List.length_singleton]; omega)
      next hnone =>
        obtain ⟨i, hi, hp⟩ : ∃ i < parents.length, i ∉ placed := exists_lt_notMem (by omega)
        obtain ⟨j, hj, hready⟩ := exists_ready hr hi hp
        rw [List.find?_eq_none] at hnone
        exact absurd hready (hnone j (by simpa using hj))

theorem order_inOrder (parents : List (Option Nat)) : InOrder parents (ofParents parents).order :=
  place_inOrder _ InOrder.nil

/-- An order with as many places as there are types arranges them all. -/
theorem InOrder.perm {order : List Nat} (h : InOrder parents order) (hlen : order.length = parents.length) :
    order.Perm (List.range parents.length) := by
  have hsub : order ⊆ List.range parents.length := fun i hi => List.mem_range.mpr (h.lt i hi)
  exact (List.subperm_of_subset h.nodup hsub).perm_of_length_le (by simp [hlen])

theorem length_order (hr : InRange parents) : (ofParents parents).order.length = parents.length :=
  length_place hr _ InOrder.nil (by simp)

/-- The schedule arranges all types. -/
theorem order_perm (hr : InRange parents) :
    (ofParents parents).order.Perm (List.range parents.length) :=
  (order_inOrder parents).perm (length_order hr)

theorem mem_cyclic {i : Nat} :
    i ∈ (ofParents parents).cyclic ↔ i < parents.length ∧ isCyclic parents i = true := by
  simp [ofParents]

end AccessorSchema.Schedule
