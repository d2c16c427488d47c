import AccessorSchema.Proofs.Scheduling

/-! # Base chains by name

The schedule numbers declarations, and a base name stands for the last declaration of it
(`hasParent_iff_baseOf`).  Where every name is declared once the same facts can be told by names:
`Extends` is one base reference, `IsCyclic` a chain of them that comes back, and `isCyclic_parents_iff`
says that these are the cyclic types of the schedule. -/

namespace AccessorSchema

open Relation

namespace TypeDecl

/-- The name of the base a declaration refers to. -/
def baseName? (d : TypeDecl) : Option Ident := d.base.map (·.value.ident)

/-- `x` is declared with a reference to the base `y`. -/
def Extends (ds : List TypeDecl) (x y : Ident) : Prop := ∃ d ∈ ds, d.ident = x ∧ d.baseName? = some y

/-- Following base references from `x` comes back to `x`. -/
def IsCyclic (ds : List TypeDecl) (x : Ident) : Prop := TransGen (Extends ds) x x

/-- `i` names a base, and `j` is the last type declared under that name. -/
def BaseOf (ds : List TypeDecl) (i j : Nat) : Prop :=
  ∃ d e, ds[i]? = some d ∧ ds[j]? = some e ∧ d.baseName? = some e.ident ∧
    ∀ k > j, ∀ f, ds[k]? = some f → f.ident ≠ e.ident

theorem eq_of_ident_eq {ds : List TypeDecl} (hn : (ds.map (·.ident)).Nodup) {d e : TypeDecl}
    (hd : d ∈ ds) (he : e ∈ ds) (h : d.ident = e.ident) : d = e :=
  List.inj_on_of_nodup_map hn hd he h

theorem extends_iff {ds : List TypeDecl} (hn : (ds.map (·.ident)).Nodup) {d : TypeDecl} (hd : d ∈ ds)
    {y : Ident} : Extends ds d.ident y ↔ d.baseName? = some y := by
  constructor
  · rintro ⟨e, he, hx, hy⟩
    exact eq_of_ident_eq hn he hd hx ▸ hy
  · exact fun h => ⟨d, hd, rfl, h⟩

end TypeDecl

namespace Schedule

open TypeDecl

theorem getElem?_of_lastIndex? {names : List Ident} {x : Ident} {i : Nat}
    (h : lastIndex? names x = some i) : names[i]? = some x := by
  simpa using List.find?_some h

theorem getElem?_ne_of_lastIndex? {names : List Ident} {x : Ident} {i : Nat}
    (h : lastIndex? names x = some i) : ∀ j > i, names[j]? ≠ some x := by
  intro j hj hjx
  have hlt : j < names.length := (List.getElem?_eq_some_iff.mp hjx).1
  obtain ⟨-, k, hk, hki, hmin⟩ := List.find?_eq_some_iff_getElem.mp h
  simp only [List.length_reverse, List.length_range, List.getElem_reverse, List.getElem_range]
    at hk hki hmin
  -- the search goes from the end to the front, so it passes `j` before it comes to `i`
  have hpassed := hmin (names.length - 1 - j) (by omega)
  have hback : names.length - 1 - (names.length - 1 - j) = j := by omega
  rw [hback, hjx] at hpassed
  simp at hpassed

theorem lastIndex?_eq_some_iff {names : List Ident} {x : Ident} {i : Nat} :
    lastIndex? names x = some i ↔ names[i]? = some x ∧ ∀ j > i, names[j]? ≠ some x := by
  refine ⟨fun h => ⟨getElem?_of_lastIndex? h, getElem?_ne_of_lastIndex? h⟩, fun ⟨h, hlast⟩ => ?_⟩
  have hlt : i < names.length := (List.getElem?_eq_some_iff.mp h).1
  cases hj : lastIndex? names x with
  | none =>
      unfold lastIndex? at hj
      rw [List.find?_eq_none] at hj
      exact absurd (by simpa using h) (hj i (by simpa using hlt))
  | some j =>
      rcases Nat.lt_trichotomy i j with hij | rfl | hji
      · exact absurd (getElem?_of_lastIndex? hj) (hlast j hij)
      · rfl
      · exact absurd h (getElem?_ne_of_lastIndex? hj i hji)

theorem parents_length (ds : List TypeDecl) : (parents ds).length = ds.length := by
  simp [parents]

theorem parent?_parents (ds : List TypeDecl) (i : Nat) :
    parent? (parents ds) i =
      ds[i]?.bind fun d => d.baseName?.bind (lastIndex? (ds.map (·.ident))) := by
  unfold parent? parents
  cases hd : ds[i]? with
  | none => simp [hd]
  | some d => cases hb : d.base <;> simp [hd, hb, baseName?]

theorem inRange_parents (ds : List TypeDecl) : InRange (parents ds) := by
  intro i j h
  rw [HasParent, parent?_parents] at h
  obtain ⟨d, -, h⟩ := Option.bind_eq_some_iff.mp h
  obtain ⟨x, -, h⟩ := Option.bind_eq_some_iff.mp h
  have := (List.getElem?_eq_some_iff.mp (getElem?_of_lastIndex? h)).1
  rwa [List.length_map, ← parents_length] at this

variable {ds : List TypeDecl}

theorem hasParent_iff_baseOf {i j : Nat} : HasParent (parents ds) i j ↔ BaseOf ds i j := by
  rw [HasParent, parent?_parents]
  constructor
  · intro h
    obtain ⟨d, hd, h⟩ := Option.bind_eq_some_iff.mp h
    obtain ⟨x, hx, h⟩ := Option.bind_eq_some_iff.mp h
    obtain ⟨hj, hlast⟩ := lastIndex?_eq_some_iff.mp h
    rw [List.getElem?_map, Option.map_eq_some_iff] at hj
    obtain ⟨e, he, rfl⟩ := hj
    refine ⟨d, e, hd, he, hx, fun k hk f hf hident => hlast k hk ?_⟩
    rw [List.getElem?_map, hf, Option.map_some, hident]
  · rintro ⟨d, e, hd, he, hx, hlast⟩
    rw [hd, Option.bind_some, hx, Option.bind_some, lastIndex?_eq_some_iff]
    refine ⟨by rw [List.getElem?_map, he, Option.map_some], fun k hk hident => ?_⟩
    rw [List.getElem?_map, Option.map_eq_some_iff] at hident
    obtain ⟨f, hf, hident⟩ := hident
    exact hlast k hk f hf hident

variable (hn : (ds.map (·.ident)).Nodup)

include hn

theorem hasParent_parents_iff {i j : Nat} :
    HasParent (parents ds) i j ↔
      ∃ d e, ds[i]? = some d ∧ ds[j]? = some e ∧ d.baseName? = some e.ident := by
  rw [hasParent_iff_baseOf]
  constructor
  · rintro ⟨d, e, hd, he, hx, -⟩
    exact ⟨d, e, hd, he, hx⟩
  · rintro ⟨d, e, hd, he, hx⟩
    refine ⟨d, e, hd, he, hx, fun k hk f hf hident => ?_⟩
    have hj : (ds.map (·.ident))[j]? = some e.ident := by rw [List.getElem?_map, he, Option.map_some]
    have hkj : (ds.map (·.ident))[k]? = (ds.map (·.ident))[j]? := by
      rw [hj, List.getElem?_map, hf, Option.map_some, hident]
    have hlt := (List.getElem?_eq_some_iff.mp (hkj.trans hj)).1
    exact absurd ((List.getElem?_inj hlt hn).mp hkj) (Nat.ne_of_gt hk)

theorem transGen_hasParent_of_extends {x y : Ident} (h : TransGen (Extends ds) x y) {d e : TypeDecl}
    {i j : Nat} (hd : ds[i]? = some d) (hx : d.ident = x) (he : ds[j]? = some e) (hy : e.ident = y) :
    TransGen (HasParent (parents ds)) i j := by
  induction h generalizing e j with
  | single h =>
      subst hx hy
      have hb := (extends_iff hn (List.mem_of_getElem? hd)).mp h
      exact .single ((hasParent_parents_iff hn).mpr ⟨d, e, hd, he, hb⟩)
  | tail _ h ih =>
      subst hy
      obtain ⟨m, hm, hmz, hb⟩ := h
      obtain ⟨k, hk⟩ := List.mem_iff_getElem?.mp hm
      exact (ih hk hmz).tail ((hasParent_parents_iff hn).mpr ⟨m, e, hk, he, hb⟩)

theorem extends_of_transGen_hasParent {i j : Nat} (h : TransGen (HasParent (parents ds)) i j)
    {d : TypeDecl} (hd : ds[i]? = some d) :
    ∃ e, ds[j]? = some e ∧ TransGen (Extends ds) d.ident e.ident := by
  induction h with
  | single h =>
      obtain ⟨d', e, hd', he, hb⟩ := (hasParent_parents_iff hn).mp h
      obtain rfl : d = d' := by rw [hd] at hd'; exact Option.some.inj hd'
      exact ⟨e, he, .single ⟨d, List.mem_of_getElem? hd, rfl, hb⟩⟩
  | tail _ h ih =>
      obtain ⟨m, hm, hdm⟩ := ih
      obtain ⟨m', e, hm', he, hb⟩ := (hasParent_parents_iff hn).mp h
      obtain rfl : m = m' := by rw [hm] at hm'; exact Option.some.inj hm'
      exact ⟨e, he, hdm.tail ⟨m, List.mem_of_getElem? hm, rfl, hb⟩⟩

/-- The cyclic types of the schedule are those whose base references come back to them. -/
theorem isCyclic_parents_iff {i : Nat} {d : TypeDecl} (hd : ds[i]? = some d) :
    isCyclic (parents ds) i = true ↔ IsCyclic ds d.ident := by
  rw [isCyclic_iff (inRange_parents ds)]
  constructor
  · intro h
    obtain ⟨e, he, hde⟩ := extends_of_transGen_hasParent hn h hd
    obtain rfl : d = e := by rw [hd] at he; exact Option.some.inj he
    exact hde
  · exact fun h => transGen_hasParent_of_extends hn h hd rfl hd rfl

end Schedule

end AccessorSchema
