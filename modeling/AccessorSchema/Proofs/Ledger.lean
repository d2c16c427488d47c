import AccessorSchema.Proofs.Naming

/-! # Runs that pass on what they find

A run may keep its types in a table under their names, look bases up there, pass accessors and reports on
as they come, and take the types out of the table in the end.  Looking up in the table is looking up
among the types so far, so the ledger comes out of the steps of a run that keeps them all, and breaks off where
that does (`Ledger.ofDecls?_eq`).  No name comes twice, so nothing is replaced in the table and no type is lost
when it is emptied (`Ledger.Records.types_eq`). -/

namespace AccessorSchema

open TypeDecl

/-! ### Tables of types -/

namespace DataType

variable {table : List DataType} {t : DataType} {x y : Ident} {xs : List Ident}

/-- Puts a type under its name, where it replaces what was there. -/
def insertInto (t : DataType) (table : List DataType) : List DataType :=
  table.filter (·.ident != t.ident) ++ [t]

/-- Takes types out of a table by their names. -/
def drain (table : List DataType) : List Ident → List DataType
  | [] => []
  | x :: xs => (find? table x).toList ++ drain (table.filter (·.ident != x)) xs

theorem find?_filter_ne (h : y ≠ x) : find? (table.filter (·.ident != x)) y = find? table y := by
  have hkeep : ∀ t : DataType, ((t.ident == y) && (t.ident != x)) = (t.ident == y) := by
    intro t
    by_cases ht : t.ident = y <;> simp [ht, h]
  unfold find?
  simp only [List.filter_filter, hkeep]

theorem find?_snoc : find? (table ++ [t]) y = if y = t.ident then some t else find? table y := by
  unfold find?
  rw [List.filter_append]
  split
  next h => simp [h]
  next h => simp [Ne.symm h]

theorem find?_insertInto : find? (t.insertInto table) y = if y = t.ident then some t else find? table y := by
  rw [insertInto, find?_snoc]
  split
  next => rfl
  next h => exact find?_filter_ne h

/-- Taking out different names is looking them up. -/
theorem drain_eq (h : xs.Nodup) : drain table xs = xs.filterMap (find? table) := by
  induction xs generalizing table with
  | nil => rfl
  | cons x xs ih =>
      obtain ⟨hx, hxs⟩ := List.nodup_cons.mp h
      have hrest : xs.filterMap (find? (table.filter (·.ident != x))) = xs.filterMap (find? table) :=
        List.filterMap_congr fun y hy => find?_filter_ne fun hyx => hx (hyx ▸ hy)
      rw [drain, ih hxs, hrest, List.filterMap_cons]
      cases find? table x <;> rfl

/-- Types of different names are found under their names. -/
theorem filterMap_find? (h : (table.map (·.ident)).Nodup) :
    (table.map (·.ident)).filterMap (find? table) = table := by
  have hall : ∀ t ∈ table, (find? table ∘ (·.ident)) t = some t :=
    fun t ht => (find?_eq_some_iff h).mpr ⟨ht, rfl⟩
  rw [List.filterMap_map, List.filterMap_congr hall, List.filterMap_some]

end DataType

/-! ### Ledgers -/

/-- The types by name, their names in order, and what was passed on. -/
structure Ledger where
  table : List DataType
  order : List Ident
  emitted : List AccessorSet
  reported : List Diagnostic

namespace Ledger

variable (resolver : Resolver) (policy : InvalidPolicy)

def enter (l : Ledger) (s : Step) : Ledger where
  table := s.data.insertInto l.table
  order := l.order ++ [s.data.ident]
  emitted := l.emitted ++ [.ofType s.data policy]
  reported := l.reported ++ s.diagnostics

/-- Compiles the declarations with the given numbers against the table, until methods cannot be named. -/
def compileAll? (ds : List TypeDecl) (cyclic : List Nat) (l : Ledger) : List Nat → Except IdentFault Ledger
  | [] => return l
  | i :: rest =>
    match ds[i]? with
    | none => compileAll? ds cyclic l rest
    | some d => do
      let s ← Step.compile? resolver d (cyclic.contains i) l.table
      compileAll? ds cyclic (l.enter policy s) rest

def ofDecls? (ds : List TypeDecl) : Except IdentFault Ledger :=
  let (merged, conflicts) := merge ds
  let schedule := Schedule.ofDecls merged
  compileAll? resolver policy merged schedule.cyclic ⟨[], [], [], conflicts⟩ schedule.order

/-- The types in order; the table is emptied. -/
def types (l : Ledger) : List DataType := DataType.drain l.table l.order

/-- The ledger holds what the steps found. -/
structure Records (conflicts : List Diagnostic) (steps : List Step) (l : Ledger) : Prop where
  table : ∀ x, DataType.find? l.table x = DataType.find? (steps.map (·.data)) x
  order : l.order = steps.map (·.data.ident)
  emitted : l.emitted = steps.map fun s => .ofType s.data policy
  reported : l.reported = conflicts ++ steps.flatMap (·.diagnostics)

variable {resolver policy} {conflicts : List Diagnostic} {steps : List Step} {l : Ledger}

theorem records_nil : Records policy conflicts [] ⟨[], [], [], conflicts⟩ :=
  ⟨fun _ => rfl, rfl, rfl, (List.append_nil _).symm⟩

theorem Records.enter (h : Records policy conflicts steps l) (s : Step) :
    Records policy conflicts (steps ++ [s]) (l.enter policy s) := by
  refine ⟨fun x => ?_, ?_, ?_, ?_⟩
  · rw [Ledger.enter, DataType.find?_insertInto, List.map_append, List.map_singleton, DataType.find?_snoc,
      h.table]
  · rw [Ledger.enter, h.order, List.map_append, List.map_singleton]
  · rw [Ledger.enter, h.emitted, List.map_append, List.map_singleton]
  · rw [Ledger.enter, h.reported, List.flatMap_append, List.flatMap_singleton, List.append_assoc]

theorem Records.foldl_enter (h : Records policy conflicts steps l) (later : List Step) :
    Records policy conflicts (steps ++ later) (later.foldl (Ledger.enter policy) l) := by
  induction later generalizing steps l with
  | nil => rwa [List.append_nil]
  | cons s later ih =>
      have hrest := ih (h.enter s)
      rwa [List.append_assoc, List.singleton_append] at hrest

/-- The table answers as the types before do. -/
theorem Records.compile?_eq (h : Records policy conflicts steps l) (d : TypeDecl) (c : Bool) :
    Step.compile? resolver d c l.table = Step.compile? resolver d c (steps.map (·.data)) :=
  Step.compile?_congr resolver d c fun _ y _ => h.table y

/-- So the same steps are made against the table, and what they find is entered; a step that breaks off does so in
both. -/
theorem Records.compileAll?_eq (h : Records policy conflicts steps l) (ds : List TypeDecl)
    (cyclic order : List Nat) :
    l.compileAll? resolver policy ds cyclic order =
      (List.foldl (Ledger.enter policy) l) <$> Run.compileAll? resolver ds cyclic (steps.map (·.data)) order := by
  induction order generalizing steps l with
  | nil => rfl
  | cons i order ih =>
      rw [Run.compileAll?, Ledger.compileAll?]
      cases ds[i]? with
      | none => exact ih h
      | some d =>
          dsimp only
          rw [h.compile?_eq, map_bind]
          refine bind_congr fun s => ?_
          -- From here on the ledger holds this step too, so the induction goes on with one more.
          have hrest := ih (h.enter s)
          rw [List.map_append, List.map_singleton] at hrest
          rw [hrest, bind_pure_comp, Functor.map_map]
          rfl

section
variable {ds : List TypeDecl}

/-- A ledger is what the steps of a run make of an empty one, if the run comes to its end. -/
theorem ofDecls?_eq :
    ofDecls? resolver policy ds =
      (fun r => r.steps.foldl (enter policy) ⟨[], [], [], r.conflicts⟩) <$> Run.ofDecls? resolver ds := by
  rw [Run.ofDecls?_eq, bind_pure_comp, Functor.map_map]
  exact records_nil.compileAll?_eq (merge ds).1 _ _

variable (policy) in
theorem records_ofDecls? {r : Run} (hr : Run.ofDecls? resolver ds = .ok r) :
    ∃ l, ofDecls? resolver policy ds = .ok l ∧ Records policy r.conflicts r.steps l := by
  rw [ofDecls?_eq, hr]
  exact ⟨_, rfl, records_nil.foldl_enter r.steps⟩

theorem Records.emitted_eq {r : Run} (h : Records policy r.conflicts r.steps l) : l.emitted = r.generated policy := by
  rw [h.emitted, Run.generated, Run.types, List.map_map]
  rfl

/-- The ledger of a run ends with all types, in order. -/
theorem Records.types_eq {r : Run} (h : Records policy r.conflicts r.steps l)
    (hn : (r.types.map (·.ident)).Nodup) : l.types = r.types := by
  have hfind : DataType.find? l.table = DataType.find? r.types := funext h.table
  have horder : l.order = r.types.map (·.ident) := by
    rw [h.order, Run.types, List.map_map]
    rfl
  rw [types, horder, DataType.drain_eq (horder ▸ hn), hfind]
  exact DataType.filterMap_find? hn

end

end Ledger

end AccessorSchema
