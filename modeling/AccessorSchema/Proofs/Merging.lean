import AccessorSchema.Proofs.Complaints

/-! # What merging comes to

Merging takes fragments in one after the other.  Told all at once, the declaration of a type is the union
of its fragments in the order of their keys: `TypeDecl.union?` reads each part of it off the whole list.
The main statement is `TypeDecl.merge_eq_union`.  It says that `byKey` sorts and leaves fragments of one key
in the order they had, that merging makes the union of each type and complains about its bases only, that no
member gets lost or comes twice, and that merging again changes nothing. -/

namespace AccessorSchema

/-- Where a function has a result for every element, none is left out. -/
theorem map_some_filterMap {α β : Type} {f : α → Option β} {l : List α} (h : ∀ a ∈ l, ∃ b, f a = some b) :
    (l.filterMap f).map some = l.map f := by
  induction l with
  | nil => rfl
  | cons a l ih =>
      obtain ⟨b, hb⟩ := h a List.mem_cons_self
      rw [List.filterMap_cons_some hb, List.map_cons, List.map_cons, hb,
        ih fun c hc => h c (List.mem_cons_of_mem _ hc)]

namespace TypeDecl

/-- `sorted` holds the fragments in the order of their keys, those of one key in the order they had. -/
structure SortsByKey (sorted fs : List TypeDecl) : Prop where
  perm : sorted.Perm fs
  ascending : sorted.Pairwise fun a b => a.fragment ≤ b.fragment
  stable : ∀ k, sorted.filter (·.fragment == k) = fs.filter (·.fragment == k)

/-- The declaration that fragments make up together: the first gives it its parameters and its key, the
first that names a base gives it the base, and any that is mutable makes it mutable. -/
def union? (fs : List TypeDecl) : Option TypeDecl :=
  fs.head?.map fun first =>
    { first with
      base := fs.findSome? (·.base)
      mode := .ofBool (fs.any (·.mode.isMutable))
      members := fs.flatMap (·.members) }

/-! ### The order of fragments -/

/-- Fragments of one key are in order already, so sorting leaves them as they are. -/
theorem sortsByKey_byKey (fs : List TypeDecl) : SortsByKey (byKey fs) fs := by
  refine ⟨byKey_perm fs, pairwise_byKey fs, fun k => ?_⟩
  have hkept : (fs.filter (·.fragment == k)).Sublist (byKey fs) := by
    refine List.sublist_mergeSort ?_ ?_ ?_ List.filter_sublist
    · simp only [decide_eq_true_eq]
      omega
    · simp only [Bool.or_eq_true, decide_eq_true_eq]
      omega
    · refine List.pairwise_filter.mpr (List.pairwise_iff_forall_sublist.mpr fun {a b} _ ha hb => ?_)
      rw [eq_of_beq ha, eq_of_beq hb]
      exact decide_eq_true (Nat.le_refl k)
  have hlength := ((byKey_perm fs).filter (·.fragment == k)).length_eq
  have hkept := hkept.filter (·.fragment == k)
  simp only [List.filter_filter, Bool.and_self] at hkept
  exact (hkept.eq_of_length hlength.symm).symm

/-! ### Unions -/

theorem union?_singleton (d : TypeDecl) : union? [d] = some d := by
  obtain ⟨x, generics, base, mode, key, members⟩ := d
  have hmode : Mode.ofBool mode.isMutable = mode := by cases mode <;> rfl
  simp [union?, hmode]

/-- To take in a fragment first changes nothing in the union. -/
theorem union?_absorb (d f : TypeDecl) (rest : List TypeDecl) :
    union? (d.absorb f :: rest) = union? (d :: f :: rest) := by
  have hbase : (d.absorb f :: rest).findSome? (·.base) = (d :: f :: rest).findSome? (·.base) := by
    cases hd : d.base <;> simp [absorb, List.findSome?_cons, hd]
  have hmode : (d.absorb f :: rest).any (·.mode.isMutable) =
      (d :: f :: rest).any (·.mode.isMutable) := by
    cases hf : f.mode <;> cases hd : d.mode <;> simp [absorb, Mode.isMutable, hf, hd]
  have hmembers : (d.absorb f :: rest).flatMap (·.members) =
      (d :: f :: rest).flatMap (·.members) := by
    simp [absorb]
  simp only [union?, List.head?_cons, Option.map_some, hbase, hmode, hmembers]
  rfl

/-- Taking fragments in one after the other makes their union. -/
theorem absorbAll_eq_union (d : TypeDecl) (fs : List TypeDecl) :
    some (d.absorbAll fs).1 = union? (d :: fs) := by
  induction fs generalizing d with
  | nil => rw [absorbAll, union?_singleton]
  | cons f rest ih => rw [absorbAll, ← union?_absorb, ← ih]

theorem mergeGroup_eq_union (fs : List TypeDecl) :
    (mergeGroup fs).map (·.1) = union? (byKey fs) := by
  unfold mergeGroup
  cases byKey fs with
  | nil => rfl
  | cons first later => exact absorbAll_eq_union first later

theorem exists_union {ds : List TypeDecl} {x : Ident} (h : x ∈ names ds) :
    ∃ d, union? (byKey (fragments ds x)) = some d := by
  rw [← mergeGroup_eq_union, ← Option.isSome_iff_exists, Option.isSome_map]
  exact mergeGroup_isSome.mpr h

/-- Merging makes the union of the fragments of each name. -/
theorem map_some_merge (ds : List TypeDecl) :
    (merge ds).1.map some = (names ds).map fun x => union? (byKey (fragments ds x)) := by
  have hmerge : (merge ds).1 = (names ds).filterMap fun x => union? (byKey (fragments ds x)) := by
    rw [merge_eq, List.map_filterMap]
    exact List.filterMap_congr fun x _ => mergeGroup_eq_union _
  rw [hmerge]
  exact map_some_filterMap fun x hx => exists_union hx

/-! ### Members -/

theorem flatMap_fragments_perm (ds : List TypeDecl) {xs : List Ident} (h : xs.Nodup) :
    (xs.flatMap (fragments ds)).Perm (ds.filter (·.ident ∈ xs)) := by
  induction xs with
  | nil => simp
  | cons x xs ih =>
      rw [List.nodup_cons] at h
      have hx : (ds.filter (·.ident ∈ x :: xs)).filter (·.ident == x) = fragments ds x := by
        rw [List.filter_filter, fragments]
        exact List.filter_congr fun d _ => by by_cases hd : d.ident = x <;> simp [hd]
      have hxs : (ds.filter (·.ident ∈ x :: xs)).filter (!·.ident == x) = ds.filter (·.ident ∈ xs) := by
        rw [List.filter_filter]
        refine List.filter_congr fun d _ => ?_
        by_cases hd : d.ident = x
        · simp [hd, h.1]
        · simp [hd]
      have hsplit := List.filter_append_perm (·.ident == x) (ds.filter (·.ident ∈ x :: xs))
      simp only [hx, hxs] at hsplit
      exact ((ih h.2).append_left _).trans hsplit

/-- The fragments of all names are the declarations, each once. -/
theorem fragments_perm (ds : List TypeDecl) : ((names ds).flatMap (fragments ds)).Perm ds := by
  have hall : ds.filter (·.ident ∈ names ds) = ds :=
    List.filter_eq_self.mpr fun d hd => decide_eq_true ((mem_names ds _).mpr ⟨d, hd, rfl⟩)
  exact (flatMap_fragments_perm ds (nodup_names ds)).trans (.of_eq hall)

/-- Merging keeps every member, and each as often as it was declared. -/
theorem members_merge_perm (ds : List TypeDecl) :
    ((merge ds).1.flatMap (·.members)).Perm (ds.flatMap (·.members)) := by
  have hunion : ∀ fs : List TypeDecl, ((union? fs).map (·.members)).getD [] = fs.flatMap (·.members) := by
    intro fs
    cases fs <;> rfl
  have hmerged : (merge ds).1.flatMap (·.members) =
      (names ds).flatMap fun x => (byKey (fragments ds x)).flatMap (·.members) := by
    calc (merge ds).1.flatMap (·.members)
        = ((merge ds).1.map some).flatMap fun d => (d.map (·.members)).getD [] := by
          rw [List.flatMap_map]
          rfl
      _ = _ := by
          rw [map_some_merge, List.flatMap_map]
          exact List.flatMap_congr fun x _ => hunion _
  rw [hmerged]
  calc ((names ds).flatMap fun x => (byKey (fragments ds x)).flatMap (·.members)).Perm
        ((names ds).flatMap fun x => (fragments ds x).flatMap (·.members)) :=
        .flatMap_left _ fun x _ => (byKey_perm _).flatMap_right _
    _ = ((names ds).flatMap (fragments ds)).flatMap (·.members) := List.flatMap_assoc.symm
    (_ : List MemberDecl).Perm (ds.flatMap (·.members)) := (fragments_perm ds).flatMap_right _

/-- Merging declares each name once, in the order of first appearance, as the union of its fragments sorted
by key, and complains of nothing but bases that differ from the first one.  All members stay, and what is
merged stays as it is when merged again. -/
theorem merge_eq_union (ds : List TypeDecl) :
    (∀ x, SortsByKey (byKey (fragments ds x)) (fragments ds x)) ∧
      (merge ds).1.map (·.ident) = names ds ∧
      (merge ds).1.map some = (names ds).map (fun x => union? (byKey (fragments ds x))) ∧
      (merge ds).2 = (names ds).flatMap (fun x => baseConflicts x (byKey (fragments ds x))) ∧
      ((merge ds).1.flatMap (·.members)).Perm (ds.flatMap (·.members)) ∧
      merge (merge ds).1 = ((merge ds).1, []) :=
  ⟨fun _ => sortsByKey_byKey _, names_merge ds, map_some_merge ds, merge_reports ds,
    members_merge_perm ds, merge_of_nodup _ (nodup_merge ds)⟩

end TypeDecl

end AccessorSchema
