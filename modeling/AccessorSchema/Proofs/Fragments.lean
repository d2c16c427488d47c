import AccessorSchema.Compilation.Merge
import Mathlib.Data.List.Induction
import Mathlib.Data.List.Nodup

/-! # Fragments and the types they make up

Grouping gathers, for each declared name in the order of first appearance, exactly the fragments of
that name (`groups_eq`).  Merging can therefore be read name by name: `merge_eq` states it as a map
over the names, `names_merge` says that the merged declarations have those names, each once, and
`mem_merge` that each is made of the fragments of its own name alone.  A list that names no type
twice is its own merge (`merge_of_nodup`). -/

namespace AccessorSchema.TypeDecl

/-- The declared names, each where it appears first. -/
def names (ds : List TypeDecl) : List Ident := (ds.map (·.ident)).eraseDups

/-- The fragments of one type in the order of arrival. -/
def fragments (ds : List TypeDecl) (x : Ident) : List TypeDecl := ds.filter (·.ident == x)

variable (ds : List TypeDecl) (d : TypeDecl) (x : Ident)

/-! ### Names -/

theorem mem_names : x ∈ names ds ↔ ∃ d ∈ ds, d.ident = x := by
  simp [names, List.mem_eraseDups]

theorem names_snoc : names (ds ++ [d]) = names ds ++ if d.ident ∈ names ds then [] else [d.ident] := by
  unfold names
  rw [List.map_append, List.eraseDups_append, List.map_singleton]
  by_cases h : d.ident ∈ ds.map (·.ident)
  · rw [if_pos (List.mem_eraseDups.mpr h)]
    simp [List.cons_removeAll, h]
  · rw [if_neg fun hm => h (List.mem_eraseDups.mp hm)]
    simp [List.cons_removeAll, h, List.eraseDups_cons]

theorem nodup_names : (names ds).Nodup := by
  induction ds using List.reverseRecOn with
  | nil => simp [names]
  | append_singleton ds d ih =>
      rw [names_snoc]
      split
      · simpa using ih
      · rename_i h
        exact List.nodup_append.mpr ⟨ih, List.nodup_singleton _, fun y hy z hz => by
          rw [List.mem_singleton] at hz
          rintro rfl
          exact h (hz ▸ hy)⟩

theorem names_of_nodup (h : (ds.map (·.ident)).Nodup) : names ds = ds.map (·.ident) := by
  induction ds using List.reverseRecOn with
  | nil => rfl
  | append_singleton ds d ih =>
      rw [List.map_append, List.nodup_append] at h
      have hd : d.ident ∉ ds.map (·.ident) := fun hm => h.2.2 _ hm d.ident (by simp) rfl
      rw [names_snoc, ih h.1, if_neg hd, List.map_append, List.map_singleton]

/-! ### Groups -/

theorem fragments_snoc :
    fragments (ds ++ [d]) x = if x = d.ident then fragments ds x ++ [d] else fragments ds x := by
  unfold fragments
  by_cases h : x = d.ident
  · simp [h]
  · have h' : (d.ident == x) = false := beq_eq_false_iff_ne.mpr (Ne.symm h)
    simp [h, h']

theorem ident_of_mem_fragments {ds : List TypeDecl} {x : Ident} {f : TypeDecl}
    (hf : f ∈ fragments ds x) : f.ident = x := by
  simpa using (List.mem_filter.mp hf).2

theorem fragments_ne_nil {ds : List TypeDecl} {x : Ident} (h : x ∈ names ds) :
    fragments ds x ≠ [] := by
  obtain ⟨d, hd, rfl⟩ := (mem_names ds x).mp h
  exact List.ne_nil_of_mem (List.mem_filter.mpr ⟨hd, by simp⟩)

theorem mem_names_of_mem_fragments {ds : List TypeDecl} {x : Ident} {f : TypeDecl}
    (hf : f ∈ fragments ds x) : x ∈ names ds :=
  (mem_names ds x).mpr ⟨f, List.mem_of_mem_filter hf, ident_of_mem_fragments hf⟩

/-- A group is recognized by its first fragment, and all its fragments have one name. -/
theorem head_fragments {ds : List TypeDecl} {x : Ident} (h : x ∈ names ds) (y : Ident) :
    (fragments ds x).head?.any (·.ident == y) = (x == y) := by
  cases hf : fragments ds x with
  | nil => exact absurd hf (fragments_ne_nil h)
  | cons f rest =>
      have : f.ident = x := ident_of_mem_fragments (hf ▸ List.mem_cons_self)
      simp [this]

theorem insertInto_map (F : Ident → List TypeDecl) (xs : List Ident) (hn : xs.Nodup)
    (hF : ∀ x ∈ xs, (F x).head?.any (·.ident == d.ident) = (x == d.ident)) :
    d.insertInto (xs.map F) =
      xs.map (fun x => if x = d.ident then F x ++ [d] else F x) ++
        if d.ident ∈ xs then [] else [[d]] := by
  induction xs with
  | nil => rfl
  | cons x xs ih =>
      have hx := hF x List.mem_cons_self
      rw [List.nodup_cons] at hn
      rw [List.map_cons, insertInto, hx]
      by_cases h : x = d.ident
      · have hrest : xs.map (fun y => if y = d.ident then F y ++ [d] else F y) = xs.map F :=
          List.map_congr_left fun y hy => if_neg fun hyd => hn.1 (by rw [h, ← hyd]; exact hy)
        rw [if_pos (by simpa using h), List.map_cons, hrest, if_pos h, if_pos (by simp [h])]
        simp
      · rw [if_neg (by simpa using h), ih hn.2 fun y hy => hF y (List.mem_cons_of_mem _ hy)]
        simp [h, Ne.symm h]

/-- Grouping puts the fragments of each name together, the names in order of first appearance. -/
theorem groups_eq : groups ds = (names ds).map (fragments ds) := by
  induction ds using List.reverseRecOn with
  | nil => rfl
  | append_singleton ds d ih =>
      have hstep : groups (ds ++ [d]) = d.insertInto (groups ds) := by
        simp [groups, List.foldl_append]
      have hold : (names ds).map (fun x => if x = d.ident then fragments ds x ++ [d] else fragments ds x) =
          (names ds).map (fragments (ds ++ [d])) :=
        List.map_congr_left fun x _ => (fragments_snoc ds d x).symm
      rw [hstep, ih, insertInto_map d _ _ (nodup_names ds) fun x hx => head_fragments hx _, hold,
        names_snoc, List.map_append]
      congr 1
      split
      · rfl
      · rename_i h
        have hnil : fragments ds d.ident = [] := by
          rw [List.eq_nil_iff_forall_not_mem]
          exact fun f hf => h (mem_names_of_mem_fragments hf)
        simp [fragments_snoc, hnil]

/-! ### Merged declarations -/

theorem absorbAll_ident (fs : List TypeDecl) : (d.absorbAll fs).1.ident = d.ident := by
  induction fs generalizing d with
  | nil => rfl
  | cons f rest ih => exact ih (d.absorb f)

theorem absorbAll_members (fs : List TypeDecl) :
    (d.absorbAll fs).1.members = d.members ++ fs.flatMap (·.members) := by
  induction fs generalizing d with
  | nil => simp [absorbAll]
  | cons f rest ih =>
      rw [absorbAll, ih, List.flatMap_cons, ← List.append_assoc]
      rfl

theorem byKey_perm (fs : List TypeDecl) : (byKey fs).Perm fs := List.mergeSort_perm _ _

theorem pairwise_byKey (fs : List TypeDecl) :
    (byKey fs).Pairwise fun a b => a.fragment ≤ b.fragment := by
  have : (byKey fs).Pairwise fun a b => decide (a.fragment ≤ b.fragment) = true := by
    refine List.pairwise_mergeSort ?_ ?_ fs
    · simp only [decide_eq_true_eq]
      omega
    · simp only [Bool.or_eq_true, decide_eq_true_eq]
      omega
  simpa using this

/-- Fragments with different keys are taken in the order of their keys, however they arrive. -/
theorem byKey_of_perm {fs gs : List TypeDecl} (h : fs.Perm gs) (hkeys : (fs.map (·.fragment)).Nodup) :
    byKey fs = byKey gs := by
  have hperm : (byKey fs).Perm (byKey gs) := (byKey_perm fs).trans (h.trans (byKey_perm gs).symm)
  refine hperm.eq_of_pairwise (fun a b ha hb hab hba => ?_) (pairwise_byKey fs) (pairwise_byKey gs)
  have ha' := (byKey_perm fs).mem_iff.mp ha
  have hb' := h.mem_iff.mpr ((byKey_perm gs).mem_iff.mp hb)
  exact List.inj_on_of_nodup_map hkeys ha' hb' (Nat.le_antisymm hab hba)

theorem mergeGroup_perm {fs gs : List TypeDecl} (h : fs.Perm gs)
    (hkeys : (fs.map (·.fragment)).Nodup) : mergeGroup fs = mergeGroup gs := by
  rw [mergeGroup, mergeGroup, byKey_of_perm h hkeys]

theorem mergeGroup_singleton : mergeGroup [d] = some (d, []) := by
  simp [mergeGroup, byKey, absorbAll]

/-- A merged declaration has the name of its fragments. -/
theorem mergeGroup_ident {m : TypeDecl × List Diagnostic}
    (h : mergeGroup (fragments ds x) = some m) : m.1.ident = x := by
  unfold mergeGroup at h
  cases hb : byKey (fragments ds x) with
  | nil => simp [hb] at h
  | cons first later =>
      simp only [hb, Option.some.injEq] at h
      have hf : first ∈ fragments ds x :=
        (byKey_perm _).mem_iff.mp (hb ▸ List.mem_cons_self)
      rw [← h, absorbAll_ident, ident_of_mem_fragments hf]

theorem mergeGroup_isSome {ds : List TypeDecl} {x : Ident} :
    (mergeGroup (fragments ds x)).isSome ↔ x ∈ names ds := by
  unfold mergeGroup
  constructor
  · intro h
    cases hb : byKey (fragments ds x) with
    | nil => simp [hb] at h
    | cons first later =>
        exact mem_names_of_mem_fragments ((byKey_perm _).mem_iff.mp (hb ▸ List.mem_cons_self))
  · intro h
    cases hb : byKey (fragments ds x) with
    | nil => exact absurd ((hb ▸ byKey_perm _).symm.eq_nil) (fragments_ne_nil h)
    | cons first later => rfl

/-- The declarations made of the fragments of each name, with what is wrong with them. -/
theorem merge_eq :
    merge ds =
      (((names ds).filterMap fun x => mergeGroup (fragments ds x)).map (·.1),
        ((names ds).filterMap fun x => mergeGroup (fragments ds x)).flatMap (·.2)) := by
  simp [merge, groups_eq, List.filterMap_map]

theorem map_ident_filterMap {xs : List Ident} (h : ∀ x ∈ xs, x ∈ names ds) :
    (xs.filterMap fun x => mergeGroup (fragments ds x)).map (·.1.ident) = xs := by
  induction xs with
  | nil => rfl
  | cons x xs ih =>
      obtain ⟨m, hm⟩ := Option.isSome_iff_exists.mp (mergeGroup_isSome.mpr (h x List.mem_cons_self))
      have hrest := ih fun y hy => h y (List.mem_cons_of_mem _ hy)
      simp [hm, hrest, mergeGroup_ident ds x hm]

/-- Merging declares each name once. -/
theorem names_merge : (merge ds).1.map (·.ident) = names ds := by
  rw [merge_eq, List.map_map]
  exact map_ident_filterMap ds fun _ hx => hx

theorem nodup_merge : ((merge ds).1.map (·.ident)).Nodup := names_merge ds ▸ nodup_names ds

/-- A merged declaration depends on the fragments of its name alone. -/
theorem mem_merge : d ∈ (merge ds).1 ↔ ∃ reports, mergeGroup (fragments ds d.ident) = some (d, reports) := by
  rw [merge_eq]
  simp only [List.mem_map, List.mem_filterMap]
  constructor
  · rintro ⟨m, ⟨x, -, hm⟩, rfl⟩
    exact ⟨m.2, mergeGroup_ident ds x hm ▸ hm⟩
  · rintro ⟨reports, h⟩
    exact ⟨(d, reports), ⟨d.ident, mergeGroup_isSome.mp (by simp [h]), h⟩, rfl⟩

/-- The members of a merged declaration are those of its fragments. -/
theorem mem_members_of_mem_merge (hd : d ∈ (merge ds).1) {m : MemberDecl} :
    m ∈ d.members ↔ ∃ f ∈ fragments ds d.ident, m ∈ f.members := by
  obtain ⟨reports, h⟩ := (mem_merge ds d).mp hd
  unfold mergeGroup at h
  cases hb : byKey (fragments ds d.ident) with
  | nil => simp [hb] at h
  | cons first later =>
      simp only [hb, Option.some.injEq] at h
      have hmembers : d.members = (first :: later).flatMap (·.members) := by
        rw [List.flatMap_cons, ← absorbAll_members, h]
      have hmem : ∀ f, f ∈ first :: later ↔ f ∈ fragments ds d.ident := fun f =>
        hb ▸ (byKey_perm _).mem_iff
      rw [hmembers, List.mem_flatMap]
      exact exists_congr fun f => and_congr_left fun _ => hmem f

theorem fragments_of_nodup (h : (ds.map (·.ident)).Nodup) (hd : d ∈ ds) :
    fragments ds d.ident = [d] := by
  induction ds with
  | nil => simp at hd
  | cons e ds ih =>
      rw [List.map_cons, List.nodup_cons] at h
      rcases List.mem_cons.mp hd with rfl | hd
      · have : fragments ds d.ident = [] := by
          rw [List.eq_nil_iff_forall_not_mem]
          intro f hf
          exact h.1 (List.mem_map.mpr ⟨f, List.mem_of_mem_filter hf, ident_of_mem_fragments hf⟩)
        simpa [fragments] using this
      · have hne : (e.ident == d.ident) = false :=
          beq_eq_false_iff_ne.mpr fun he => h.1 (he ▸ List.mem_map_of_mem hd)
        simpa [fragments, hne] using ih h.2 hd

/-- Declarations of different types are merged already. -/
theorem merge_of_nodup (h : (ds.map (·.ident)).Nodup) : merge ds = (ds, []) := by
  have hmap : (names ds).filterMap (fun x => mergeGroup (fragments ds x)) = ds.map (·, []) := by
    rw [names_of_nodup ds h, List.filterMap_map, ← List.filterMap_eq_map]
    exact List.filterMap_congr fun d hd => by
      simp [fragments_of_nodup ds d h hd, mergeGroup_singleton]
  rw [merge_eq, hmap]
  simp [Function.comp_def]

end AccessorSchema.TypeDecl
