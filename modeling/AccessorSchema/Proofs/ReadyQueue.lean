import AccessorSchema.Example.Small
import AccessorSchema.Proofs.EarliestOrder
import Mathlib.Data.Finset.Insert
import Mathlib.Data.Finset.Range

/-! # Scheduling with a queue

The order of the schedule comes out of a loop that does not search: for each type it counts what that
still waits for, and it keeps a queue of those that wait for nothing.  A step takes the first type from
the queue and lets go of the types that waited for it (`Queue.Step`).  Counts and queue stay right from
step to step (`Queue.Tracks.pop`), so the loop places one type after the other as the schedule does, and
the queue is empty when all are placed (`Queue.exists_run`).  The main statement, `ofDecls_isLeast`, puts
this next to what the order is. -/

namespace AccessorSchema.Schedule

open Relation TypeDecl

/-- The state of the loop: the types placed so far, how many types each of the others waits for, and
those that wait for none. -/
structure Queue where
  order : List Nat
  pending : Nat → Nat
  ready : Finset Nat

namespace Queue

section
variable (awaited : List (Option Nat))

/-- The types that wait for `i`. -/
def heirs (i : Nat) : List Nat := (List.range awaited.length).filter fun k => (awaited[k]?).join == some i

theorem nodup_heirs (i : Nat) : (heirs awaited i).Nodup := List.nodup_range.filter _

def start : Queue :=
  let pending i := if (awaited[i]?).join.isSome then 1 else 0
  { order := [], pending := pending, ready := (Finset.range awaited.length).filter (pending · = 0) }

/-- One type less to wait for; with the last one the type is ready. -/
def release (q : Queue) (i : Nat) : Queue :=
  let left := q.pending i - 1
  { q with
    pending := Function.update q.pending i left
    ready := if left = 0 then insert i q.ready else q.ready }

def pop (q : Queue) (i : Nat) : Queue :=
  (heirs awaited i).foldl release { q with order := q.order ++ [i], ready := q.ready.erase i }

/-- The first type that is ready is taken from the queue. -/
inductive Step : Queue → Queue → Prop
  | pop {q : Queue} {i : Nat} (h : IsLeast (q.ready : Set Nat) i) : Step q (q.pop awaited i)

end

variable {parents : List (Option Nat)} {q : Queue} {i : Nat}

/-- The counts are right, and what is ready is in the queue. -/
structure Tracks (parents : List (Option Nat)) (q : Queue) : Prop where
  inOrder : InOrder parents q.order
  ready : (q.ready : Set Nat) = Ready parents q.order
  pending : ∀ k < parents.length, ∀ j, awaited? parents k = some j →
    q.pending k = if j ∈ q.order then 0 else 1

theorem mem_heirs {k : Nat} :
    k ∈ heirs (waiting parents) i ↔ k < parents.length ∧ awaited? parents k = some i := by
  unfold heirs
  rw [List.mem_filter, List.mem_range, List.length_map, List.length_range]
  refine and_congr_right fun hk => ?_
  simp [hk]

theorem tracks_start : Tracks parents (start (waiting parents)) := by
  refine ⟨InOrder.nil, ?_, fun k hk j hj => ?_⟩
  · ext k
    show k ∈ (start (waiting parents)).ready ↔ k < parents.length ∧ k ∉ [] ∧ _
    simp only [start, Finset.mem_filter, Finset.mem_range, List.length_map, List.length_range]
    refine and_congr_right fun hk => ?_
    cases hj : awaited? parents k <;> simp [hk, hj]
  · simp [start, hk, hj]

theorem foldl_release {ks : List Nat} (hn : ks.Nodup) (h : ∀ k ∈ ks, q.pending k = 1) :
    (ks.foldl release q).order = q.order ∧
      (∀ j, (ks.foldl release q).pending j = if j ∈ ks then 0 else q.pending j) ∧
      ∀ j, j ∈ (ks.foldl release q).ready ↔ j ∈ ks ∨ j ∈ q.ready := by
  induction ks generalizing q with
  | nil => simp
  | cons k ks ih =>
      obtain ⟨hk, hn⟩ := List.nodup_cons.mp hn
      have hlast : q.pending k - 1 = 0 := by rw [h k List.mem_cons_self]
      have hrest : ∀ j ∈ ks, (q.release k).pending j = 1 := by
        intro j hj
        have hjk : j ≠ k := fun hjk => hk (hjk ▸ hj)
        show Function.update q.pending k _ j = 1
        rw [Function.update_of_ne hjk, h j (List.mem_cons_of_mem _ hj)]
      obtain ⟨horder, hpending, hready⟩ := ih hn hrest
      refine ⟨horder, fun j => ?_, fun j => ?_⟩
      · rw [List.foldl_cons, hpending]
        show (if j ∈ ks then 0 else Function.update q.pending k _ j) = _
        by_cases hjk : j = k
        · simp [hjk, hk, hlast]
        · simp [hjk]
      · rw [List.foldl_cons, hready, List.mem_cons]
        show j ∈ ks ∨ j ∈ (if q.pending k - 1 = 0 then insert k q.ready else q.ready) ↔ _
        rw [if_pos hlast, Finset.mem_insert]
        tauto

/-- Placing a type makes those ready that waited for it, and takes it away from those that were. -/
theorem mem_ready_snoc {placed : List Nat} (h : InOrder parents placed) (hi : i ∈ Ready parents placed)
    {k : Nat} :
    k ∈ Ready parents (placed ++ [i]) ↔
      k ∈ heirs (waiting parents) i ∨ k ≠ i ∧ k ∈ Ready parents placed := by
  obtain ⟨-, hnew, hbase⟩ := hi
  rw [mem_heirs]
  constructor
  · rintro ⟨hk, hknew, hkbase⟩
    rw [List.mem_append, List.mem_singleton, not_or] at hknew
    by_cases hki : awaited? parents k = some i
    · exact .inl ⟨hk, hki⟩
    · refine .inr ⟨hknew.2, hk, hknew.1, fun j hj => ?_⟩
      rcases List.mem_append.mp (hkbase j hj) with hjp | hji
      · exact hjp
      · exact absurd (List.mem_singleton.mp hji ▸ hj) hki
  · rintro (⟨hk, hki⟩ | ⟨hki, hk, hknew, hkbase⟩)
    · -- `k` has waited till now, so it is neither placed nor `i` itself
      have hknew : k ∉ placed := by
        intro hkp
        obtain ⟨pre, post, heq⟩ := List.append_of_mem hkp
        exact hnew (heq ▸ List.mem_append_left _ (h.waits pre k post heq i hki))
      have hne : k ≠ i := fun hne => hnew (hbase i (hne ▸ hki))
      refine ⟨hk, by simp [hknew, hne], fun j hj => ?_⟩
      rw [hki] at hj
      simp [Option.some.inj hj]
    · refine ⟨hk, by simp [hknew, hki], fun j hj => List.mem_append_left _ (hkbase j hj)⟩

/-- Taking the first type from the queue places it, and lets go of all that waited for it. -/
theorem Tracks.pop (h : Tracks parents q) (hi : IsLeast (q.ready : Set Nat) i) :
    Tracks parents (q.pop (waiting parents) i) ∧ (q.pop (waiting parents) i).order = q.order ++ [i] := by
  have hmem : i ∈ Ready parents q.order := h.ready ▸ hi.1
  have ⟨hlt, hnew, hbase⟩ := hmem
  have hone : ∀ k ∈ heirs (waiting parents) i, q.pending k = 1 := by
    intro k hk
    obtain ⟨hk, hki⟩ := mem_heirs.mp hk
    rw [h.pending k hk i hki, if_neg hnew]
  obtain ⟨horder, hpending, hready⟩ :=
    foldl_release (q := ⟨q.order ++ [i], q.pending, q.ready.erase i⟩) (nodup_heirs (waiting parents) i) hone
  have horder : (q.pop (waiting parents) i).order = q.order ++ [i] := horder
  refine ⟨⟨?_, ?_, fun k hk j hj => ?_⟩, horder⟩
  · rw [horder]
    exact h.inOrder.snoc hlt ((isReady_iff hlt).mpr ⟨hnew, hbase⟩)
  · ext k
    have hold : k ∈ q.ready ↔ k ∈ Ready parents q.order := h.ready ▸ Iff.rfl
    rw [horder, mem_ready_snoc h.inOrder hmem, ← hold, ← Finset.mem_erase]
    exact hready k
  · rw [horder]
    refine (hpending k).trans ?_
    simp only [mem_heirs, hk, hj, true_and, Option.some.injEq, h.pending k hk j hj]
    by_cases hji : j = i <;> simp [hji]

/-- The loop places as many types as the schedule does, and the same ones. -/
theorem exists_steps (count : Nat) (h : Tracks parents q) :
    ∃ q', ReflTransGen (Step (waiting parents)) q q' ∧ Tracks parents q' ∧
      q'.order = place (waiting parents) count q.order := by
  induction count generalizing q with
  | zero => exact ⟨q, .refl, h, rfl⟩
  | succ count ih =>
      rw [place]
      split
      next i hi =>
        have hleast : IsLeast (q.ready : Set Nat) i := h.ready ▸ find?_ready_eq_some_iff.mp hi
        obtain ⟨hpop, hplaced⟩ := h.pop hleast
        obtain ⟨q', hsteps, h', horder⟩ := ih hpop
        exact ⟨q', .head (.pop hleast) hsteps, h', hplaced ▸ horder⟩
      next => exact ⟨q, .refl, h, rfl⟩

/-- When all types are placed the queue is empty. -/
theorem Tracks.ready_eq_empty (h : Tracks parents q) (hall : q.order.length = parents.length) :
    q.ready = ∅ := by
  rw [Finset.eq_empty_iff_forall_notMem]
  intro k hk
  have hk : k ∈ Ready parents q.order := h.ready ▸ hk
  exact hk.2.1 ((h.inOrder.perm hall).mem_iff.mpr (List.mem_range.mpr hk.1))

/-- The loop comes to an end, with the order of the schedule. -/
theorem exists_run (hr : InRange parents) :
    ∃ q, ReflTransGen (Step (waiting parents)) (start (waiting parents)) q ∧ q.ready = ∅ ∧
      q.order = (ofParents parents).order := by
  obtain ⟨q, hsteps, h, horder⟩ := exists_steps parents.length tracks_start
  have horder : q.order = (ofParents parents).order := horder
  exact ⟨q, hsteps, h.ready_eq_empty (horder ▸ length_order hr), horder⟩

end Queue

/-- What a schedule is: the cyclic types are those from which going from base to base comes back, the
order is the first of all that arrange the types, each place is taken by the first type that may take it,
and the loop over a queue of ready types comes to an end with this order. -/
theorem ofDecls_isLeast (ds : List TypeDecl) :
    (∀ i, i ∈ (ofDecls ds).cyclic ↔ TransGen (BaseOf ds) i i) ∧
      IsLeast {order | Arranges ds order} (ofDecls ds).order ∧
      (∀ pre i post, (ofDecls ds).order = pre ++ i :: post → IsLeast (candidates ds pre) i) ∧
      ∃ q, ReflTransGen (Queue.Step (waiting (parents ds))) (.start (waiting (parents ds))) q ∧
        q.ready = ∅ ∧ q.order = (ofDecls ds).order := by
  have hr := inRange_parents ds
  have hlen := length_order hr
  refine ⟨fun i => ?_, ⟨?_, ?_⟩, fun pre i post heq => ?_, Queue.exists_run hr⟩
  · rw [← isCyclic_iff_transGen]
    exact mem_cyclic.trans (and_iff_right_of_imp fun h => lt_of_transGen hr ((isCyclic_iff hr i).mp h))
  · exact arranges_iff.mpr ⟨order_inOrder _, hlen⟩
  · intro order' h'
    obtain ⟨h', hlen'⟩ := arranges_iff.mp h'
    exact (order_isEarliest _).le h' (hlen.trans hlen'.symm)
  · exact ready_parents ds pre ▸ order_isEarliest _ pre i post heq

open Example in
/-- Two types that extend each other do not wait, and who extends one of them comes as soon as it can. -/
example :
    ofDecls [declare "D" (some "A") .immutable [], declare "A" (some "B") .immutable [],
      declare "B" (some "A") .immutable []] = ⟨[1, 0, 2], [1, 2]⟩ := by
  decide +kernel

end AccessorSchema.Schedule
