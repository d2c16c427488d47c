import AccessorSchema.Proofs.PathKeys
import AccessorSchema.Schema.Lift
import Mathlib.Data.Finset.Card

/-! # What a table of symbols says

Symbols are registered one after the other, and each registration adds a key to one of three lists unless it is
there (`keys_register`).  So the lists hold the keys of what was registered (`mem_keys_registered`), each once
(`nodup_keys`), and how often and in which order it was registered leaves no trace: the number of converters that
end like a path is the number of elements of a set (`endingLike_eq`).  `resolve_registered` says what the table
answers in terms of the three sets alone. -/

namespace AccessorSchema

/-- What a path is registered as. -/
inductive Use where
  | decoration
  | converter
  | type
deriving DecidableEq

structure Registration where
  use : Use
  path : Path

/-- The keys of the paths that are registered for a use. -/
def keysOf (rs : List Registration) (u : Use) : Finset PathKey :=
  ((rs.filter (·.use = u)).map (·.path.key)).toFinset

theorem mem_keysOf {rs : List Registration} {u : Use} {k : PathKey} :
    k ∈ keysOf rs u ↔ ∃ r ∈ rs, r.use = u ∧ r.path.key = k := by
  rw [keysOf, List.mem_toFinset, List.mem_map]
  simp only [List.mem_filter, decide_eq_true_eq, and_assoc]

namespace Symbols

variable {rs : List Registration} {u : Use} {k : PathKey}

/-! ### Registrations -/

def keys (s : Symbols) : Use → List PathKey
  | .decoration => s.decorations
  | .converter => s.converters
  | .type => s.types

def register (s : Symbols) (r : Registration) : Symbols :=
  match r.use with
  | .decoration => s.addDecoration r.path
  | .converter => s.addConverter r.path
  | .type => s.addType r.path

/-- The table after some registrations. -/
def registered (rs : List Registration) : Symbols := rs.foldl register .empty

theorem mem_add {known : List PathKey} {new : PathKey} : k ∈ add new known ↔ k ∈ known ∨ k = new := by
  unfold add
  split
  next h => exact ⟨.inl, fun hk => hk.elim id fun hnew => hnew ▸ List.contains_iff_mem.mp h⟩
  next => rw [List.mem_append, List.mem_singleton]

theorem nodup_add {known : List PathKey} (h : known.Nodup) (new : PathKey) : (add new known).Nodup := by
  unfold add
  split
  next => exact h
  next hnew =>
    refine List.nodup_append.mpr ⟨h, List.nodup_singleton new, fun a ha b hb => ?_⟩
    rintro rfl
    exact hnew (List.contains_iff_mem.mpr (List.mem_singleton.mp hb ▸ ha))

/-- A registration adds its key to the list for its use and leaves the others alone. -/
theorem keys_register (s : Symbols) (r : Registration) (u : Use) :
    (s.register r).keys u = if r.use = u then add r.path.key (s.keys u) else s.keys u := by
  obtain ⟨use, path⟩ := r
  cases use <;> cases u <;> rfl

theorem nodup_keys_foldl {s : Symbols} (h : (s.keys u).Nodup) : ((rs.foldl register s).keys u).Nodup := by
  induction rs generalizing s with
  | nil => exact h
  | cons r rs ih =>
      refine ih ?_
      rw [keys_register]
      split
      · exact nodup_add h _
      · exact h

theorem nodup_keys (rs : List Registration) (u : Use) : ((registered rs).keys u).Nodup := by
  refine nodup_keys_foldl ?_
  cases u <;> exact List.nodup_nil

theorem mem_keys_foldl {s : Symbols} :
    k ∈ (rs.foldl register s).keys u ↔ k ∈ s.keys u ∨ ∃ r ∈ rs, r.use = u ∧ r.path.key = k := by
  induction rs generalizing s with
  | nil => simp
  | cons r rs ih =>
      have hstep : k ∈ (s.register r).keys u ↔ k ∈ s.keys u ∨ r.use = u ∧ r.path.key = k := by
        rw [keys_register]
        split
        next huse => rw [mem_add, eq_comm (a := k), and_iff_right huse]
        next huse => exact ⟨.inl, fun h => h.elim id fun hr => absurd hr.1 huse⟩
      rw [List.foldl_cons, ih, hstep, or_assoc]
      simp only [List.mem_cons, exists_eq_or_imp]

theorem mem_keys_registered : k ∈ (registered rs).keys u ↔ k ∈ keysOf rs u := by
  have hempty : k ∉ empty.keys u := by cases u <;> exact List.not_mem_nil
  rw [registered, mem_keys_foldl, mem_keysOf, or_iff_right hempty]

theorem mem_decorations : k ∈ (registered rs).decorations ↔ k ∈ keysOf rs .decoration :=
  mem_keys_registered (u := .decoration)

theorem mem_converters : k ∈ (registered rs).converters ↔ k ∈ keysOf rs .converter :=
  mem_keys_registered (u := .converter)

theorem mem_types : k ∈ (registered rs).types ↔ k ∈ keysOf rs .type := mem_keys_registered (u := .type)

/-! ### Converters that end like a path -/

/-- The registered converters that end like a path. -/
def candidates (rs : List Registration) (k : PathKey) : Finset PathKey :=
  (keysOf rs .converter).filter (k.EndsLike ·)

theorem mem_candidates {t : PathKey} : t ∈ candidates rs k ↔ t ∈ keysOf rs .converter ∧ k.EndsLike t :=
  Finset.mem_filter

theorem endingLike_eq (rs : List Registration) (k : PathKey) :
    endingLike k (registered rs).converters = (candidates rs k).card := by
  have hnodup : ((registered rs).converters.filter (sameLast k)).Nodup := (nodup_keys rs .converter).filter _
  have hset : ((registered rs).converters.filter (sameLast k)).toFinset = candidates rs k := by
    ext t
    rw [List.mem_toFinset, List.mem_filter, PathKey.sameLast_iff, mem_candidates, mem_converters]
  rw [endingLike, ← hset, List.toFinset_card_of_nodup hnodup]

theorem card_candidates_eq_zero : (candidates rs k).card = 0 ↔ ∀ t ∈ keysOf rs .converter, ¬k.EndsLike t := by
  rw [Finset.card_eq_zero, candidates, Finset.filter_eq_empty_iff]

theorem card_candidates_eq_one :
    (candidates rs k).card = 1 ↔ ∃! t, t ∈ keysOf rs .converter ∧ k.EndsLike t := by
  rw [Finset.card_eq_one, Finset.singleton_iff_unique_mem]
  simp only [mem_candidates]

theorem one_lt_card_candidates : 1 < (candidates rs k).card ↔
    ∃ t ∈ keysOf rs .converter, ∃ t' ∈ keysOf rs .converter, t ≠ t' ∧ k.EndsLike t ∧ k.EndsLike t' := by
  rw [Finset.one_lt_card]
  simp only [mem_candidates]
  constructor
  · rintro ⟨t, ⟨ht, hends⟩, t', ⟨ht', hends'⟩, hne⟩
    exact ⟨t, ht, t', ht', hne, hends, hends'⟩
  · rintro ⟨t, ht, t', ht', hne, hends, hends'⟩
    exact ⟨t, ⟨ht, hends⟩, t', ⟨ht', hends'⟩, hne⟩

/-! ### Verdicts -/

/-- A key for another use than as a converter ends like a path. -/
def IsTaken (rs : List Registration) (k : PathKey) : Prop :=
  ∃ t ∈ keysOf rs .type ∪ keysOf rs .decoration, k.EndsLike t

theorem any_sameLast_iff :
    ((registered rs).types ++ (registered rs).decorations).any (sameLast k) = true ↔ IsTaken rs k := by
  rw [List.any_eq_true, IsTaken]
  simp only [List.mem_append, PathKey.sameLast_iff, Finset.mem_union, mem_types, mem_decorations]

/-- How a converter is judged: by its key, then by the number of candidates. -/
theorem converter_cases (rs : List Registration) (k : PathKey) :
    (k ∈ keysOf rs .converter ∨ (candidates rs k).card = 1) ∧ (registered rs).converter k = .resolved ∨
      k ∉ keysOf rs .converter ∧ 1 < (candidates rs k).card ∧ (registered rs).converter k = .ambiguous ∨
      k ∉ keysOf rs .converter ∧ (candidates rs k).card = 0 ∧
        (IsTaken rs k ∧ (registered rs).converter k = .wrongShape ∨
          ¬IsTaken rs k ∧ (registered rs).converter k = .missing) := by
  unfold converter
  rw [endingLike_eq]
  by_cases hk : k ∈ keysOf rs .converter
  · rw [if_pos (List.contains_iff_mem.mpr (mem_converters.mpr hk))]
    exact .inl ⟨.inl hk, rfl⟩
  · rw [if_neg fun h => hk (mem_converters.mp (List.contains_iff_mem.mp h))]
    match hcard : (candidates rs k).card with
    | 0 =>
        refine .inr (.inr ⟨hk, rfl, ?_⟩)
        by_cases htaken : IsTaken rs k
        · exact .inl ⟨htaken, by rw [any_sameLast_iff.mpr htaken]; rfl⟩
        · refine .inr ⟨htaken, ?_⟩
          rw [Bool.eq_false_iff.mpr fun h => htaken (any_sameLast_iff.mp h)]
          rfl
    | 1 => exact .inl ⟨.inr rfl, rfl⟩
    | n + 2 => exact .inr (.inl ⟨hk, by omega, rfl⟩)

/-- A registered converter ends like itself, if it ends in a name at all. -/
theorem mem_candidates_self {t : PathKey} (hk : k ∈ keysOf rs .converter) (ht : k.EndsLike t) :
    k ∈ candidates rs k := by
  obtain ⟨x, hx, -⟩ := ht
  exact mem_candidates.mpr ⟨hk, x, hx, hx⟩

theorem converter_eq_resolved_iff : (registered rs).converter k = .resolved ↔
    k ∈ keysOf rs .converter ∨ (candidates rs k).card = 1 := by
  rcases converter_cases rs k with ⟨h, hv⟩ | ⟨hk, hcard, hv⟩ | ⟨hk, hcard, hv⟩
  · exact iff_of_true hv h
  · rw [hv]
    exact iff_of_false nofun fun h => h.elim hk fun hone => by omega
  · refine iff_of_false (fun h => ?_) fun h => h.elim hk fun hone => by omega
    rcases hv with ⟨-, hv⟩ | ⟨-, hv⟩ <;> rw [hv] at h <;> cases h

theorem converter_eq_ambiguous_iff : (registered rs).converter k = .ambiguous ↔
    k ∉ keysOf rs .converter ∧ 1 < (candidates rs k).card := by
  rcases converter_cases rs k with ⟨h, hv⟩ | ⟨hk, hcard, hv⟩ | ⟨hk, hcard, hv⟩
  · rw [hv]
    exact iff_of_false nofun fun ⟨hk, hcard⟩ => h.elim hk fun hone => by omega
  · exact iff_of_true hv ⟨hk, hcard⟩
  · refine iff_of_false (fun h => ?_) fun ⟨_, hmany⟩ => by omega
    rcases hv with ⟨-, hv⟩ | ⟨-, hv⟩ <;> rw [hv] at h <;> cases h

theorem converter_eq_wrongShape_iff : (registered rs).converter k = .wrongShape ↔
    (candidates rs k).card = 0 ∧ IsTaken rs k := by
  rcases converter_cases rs k with ⟨h, hv⟩ | ⟨hk, hcard, hv⟩ | ⟨hk, hcard, ⟨htaken, hv⟩ | ⟨htaken, hv⟩⟩
  · rw [hv]
    refine iff_of_false nofun fun ⟨hcard, t, _, ht⟩ => ?_
    rcases h with hk | hone
    · exact Finset.card_ne_zero_of_mem (mem_candidates_self hk ht) hcard
    · omega
  · rw [hv]
    exact iff_of_false nofun fun ⟨hnone, _⟩ => by omega
  · exact iff_of_true hv ⟨hcard, htaken⟩
  · rw [hv]
    exact iff_of_false nofun fun h => htaken h.2

theorem converter_eq_missing_iff : (registered rs).converter k = .missing ↔
    k ∉ keysOf rs .converter ∧ (candidates rs k).card = 0 ∧ ¬IsTaken rs k := by
  rcases converter_cases rs k with ⟨h, hv⟩ | ⟨hk, hcard, hv⟩ | ⟨hk, hcard, ⟨htaken, hv⟩ | ⟨htaken, hv⟩⟩
  · rw [hv]
    exact iff_of_false nofun fun ⟨hk, hnone, _⟩ => h.elim hk fun hone => by omega
  · rw [hv]
    exact iff_of_false nofun fun ⟨_, hnone, _⟩ => by omega
  · rw [hv]
    exact iff_of_false nofun fun h => h.2.2 htaken
  · exact iff_of_true hv ⟨hk, hcard, htaken⟩

/-- A decoration is judged by its key, and by what is registered for other uses under its name. -/
theorem decoration_eq (rs : List Registration) (k : PathKey) :
    (registered rs).decoration k =
      if isBuiltin k = true ∨ k ∈ keysOf rs .decoration then .resolved
      else unusable (∃ t ∈ keysOf rs .converter ∪ keysOf rs .type, t = k ∨ k.EndsLike t) := by
  have htaken : ((registered rs).converters ++ (registered rs).types).any (fun t => t == k || sameLast k t) =
      decide (∃ t ∈ keysOf rs .converter ∪ keysOf rs .type, t = k ∨ k.EndsLike t) := by
    rw [Bool.eq_iff_iff, List.any_eq_true, decide_eq_true_iff]
    simp only [List.mem_append, mem_converters, mem_types, Finset.mem_union, Bool.or_eq_true, beq_iff_eq,
      PathKey.sameLast_iff]
  have hfound : (isBuiltin k || (registered rs).decorations.contains k) = true ↔
      isBuiltin k = true ∨ k ∈ keysOf rs .decoration := by
    rw [Bool.or_eq_true, List.contains_iff_mem, mem_decorations]
  rw [decoration, htaken]
  exact if_congr hfound rfl rfl

/-! ### Tables of the same keys -/

variable {rs' : List Registration}

theorem candidates_congr (h : keysOf rs' .converter = keysOf rs .converter) : candidates rs' k = candidates rs k := by
  rw [candidates, candidates, h]

/-- Where converters are found, nothing else counts. -/
theorem converter_of_converters (h : keysOf rs' .converter = keysOf rs .converter)
    (hv : (registered rs).converter k = .resolved ∨ (registered rs).converter k = .ambiguous) :
    (registered rs').converter k = (registered rs).converter k := by
  rcases hv with hv | hv
  · rw [hv, converter_eq_resolved_iff, h, candidates_congr h]
    exact converter_eq_resolved_iff.mp hv
  · rw [hv, converter_eq_ambiguous_iff, h, candidates_congr h]
    exact converter_eq_ambiguous_iff.mp hv

theorem converter_congr (h : keysOf rs' = keysOf rs) : (registered rs').converter k = (registered rs).converter k := by
  have hconverters : keysOf rs' .converter = keysOf rs .converter := by rw [h]
  have htaken : IsTaken rs' k ↔ IsTaken rs k := by rw [IsTaken, IsTaken, h]
  cases hv : (registered rs).converter k with
  | resolved => rw [converter_of_converters hconverters (.inl hv), hv]
  | ambiguous => rw [converter_of_converters hconverters (.inr hv), hv]
  | wrongShape =>
      rw [converter_eq_wrongShape_iff, candidates_congr hconverters, htaken]
      exact converter_eq_wrongShape_iff.mp hv
  | missing =>
      rw [converter_eq_missing_iff, h, candidates_congr hconverters, htaken]
      exact converter_eq_missing_iff.mp hv

theorem resolve_congr (h : keysOf rs' = keysOf rs) {p p' : Path} (hp : p'.key = p.key) (role : Role) :
    (registered rs').resolve p' role = (registered rs).resolve p role := by
  cases role with
  | decoration =>
      show (registered rs').decoration p'.key = (registered rs).decoration p.key
      rw [hp, decoration_eq, decoration_eq, h]
  | converter =>
      show (registered rs').converter p'.key = (registered rs).converter p.key
      rw [hp, converter_congr h]

/-- The texts of the keys are as good as the keys. -/
theorem resolve_of_texts (h : ∀ u, (keysOf rs' u).image PathKey.text = (keysOf rs u).image PathKey.text)
    {p p' : Path} (htext : p'.key.text = p.key.text) (role : Role) :
    (registered rs').resolve p' role = (registered rs).resolve p role := by
  have hinj : Function.Injective PathKey.text := fun _ _ => PathKey.text_inj
  have hkeys : keysOf rs' = keysOf rs := funext fun u => Finset.image_injective hinj (h u)
  exact resolve_congr hkeys (PathKey.text_inj htext) role

theorem keysOf_of_perm (h : rs'.Perm rs) : keysOf rs' = keysOf rs := by
  funext u
  ext k
  simp only [mem_keysOf, h.mem_iff]

theorem keysOf_append {more : List Registration} (h : ∀ r ∈ more, r.use ≠ u) : keysOf (rs ++ more) u = keysOf rs u := by
  ext k
  simp only [mem_keysOf, List.mem_append]
  constructor
  · rintro ⟨r, hr | hr, huse, hkey⟩
    · exact ⟨r, hr, huse, hkey⟩
    · exact absurd huse (h r hr)
  · rintro ⟨r, hr, hr'⟩
    exact ⟨r, .inl hr, hr'⟩

end Symbols

/-! ### The table of a module -/

/-- What an item registers. -/
def Item.registration? : Item → Option Registration
  | struct s => some ⟨.type, .ofIdent s.ident.value⟩
  | naming x _ => some ⟨.type, .ofIdent x⟩
  | implementation trait (.path p) _ =>
    if trait.last?.any (·.ident.isWord "Converter") then some ⟨.converter, p⟩ else none
  | _ => none

theorem Item.addTo_eq (s : Symbols) (i : Item) : addTo s i = i.registration?.elim s s.register := by
  cases i with
  | struct | naming | other => rfl
  | implementation trait self code =>
      cases self with
      | path p =>
          dsimp only [addTo, registration?]
          by_cases h : trait.last?.any (·.ident.isWord "Converter") = true
          · rw [if_pos h, if_pos h]
            rfl
          · rw [if_neg h, if_neg h]
            rfl
      | group | paren | array | slice | other => rfl

namespace Schema

/-- What a module registers: its items, then the symbols in its options. -/
def registrations (s : Schema) : List Registration :=
  s.items.filterMap (·.registration?) ++ s.options.converters.map (⟨.converter, ·⟩) ++
    s.options.decorations.map (⟨.decoration, ·⟩)

theorem symbols_eq_registered (s : Schema) : s.symbols = Symbols.registered s.registrations := by
  have hitems : s.items.foldl Item.addTo .empty =
      (s.items.filterMap (·.registration?)).foldl Symbols.register .empty := by
    rw [List.foldl_filterMap]
    refine congrArg (fun f => s.items.foldl f Symbols.empty) (funext₂ fun known i => ?_)
    rw [Item.addTo_eq]
    cases i.registration? <;> rfl
  rw [symbols, hitems, Symbols.registered, registrations, List.foldl_append, List.foldl_append, List.foldl_map,
    List.foldl_map]
  rfl

theorem registrations_perm {s s' : Schema} (hitems : s'.items.Perm s.items) (hoptions : s'.options = s.options) :
    s'.registrations.Perm s.registrations := by
  unfold registrations
  rw [hoptions]
  exact ((hitems.filterMap _).append_right _).append_right _

end Schema

namespace Symbols

/-- What is said of a path depends on its key and on which keys are registered for which use.  A converter is
resolved by its key or by being the only one that ends like it, and ambiguous if more than one does; what is
registered for other uses only counts where none does.  A module says the same in every order of its items. -/
theorem resolve_registered (rs : List Registration) (p : Path) :
    let known := keysOf rs
    let verdict := (registered rs).resolve p .converter
    (∀ rs' p' role, keysOf rs' = known → p'.key = p.key →
        (registered rs').resolve p' role = (registered rs).resolve p role) ∧
      (verdict = .resolved ↔
        p.key ∈ known .converter ∨ ∃! t, t ∈ known .converter ∧ p.key.EndsLike t) ∧
      (verdict = .ambiguous ↔ p.key ∉ known .converter ∧
        ∃ t ∈ known .converter, ∃ t' ∈ known .converter, t ≠ t' ∧ p.key.EndsLike t ∧ p.key.EndsLike t') ∧
      (verdict = .wrongShape ↔ (∀ t ∈ known .converter, ¬p.key.EndsLike t) ∧
        ∃ t ∈ known .type ∪ known .decoration, p.key.EndsLike t) ∧
      (verdict = .missing ↔ p.key ∉ known .converter ∧ (∀ t ∈ known .converter, ¬p.key.EndsLike t) ∧
        ¬∃ t ∈ known .type ∪ known .decoration, p.key.EndsLike t) ∧
      (∀ more : List Registration, (∀ r ∈ more, r.use ≠ .converter) → verdict = .resolved ∨ verdict = .ambiguous →
        (registered (rs ++ more)).resolve p .converter = verdict) ∧
      ∀ (s s' : Schema) role, s'.items.Perm s.items → s'.options = s.options →
        s'.symbols.resolve p role = s.symbols.resolve p role := by
  intro known verdict
  have hverdict : verdict = (registered rs).converter p.key := rfl
  refine ⟨fun rs' p' role h hp => resolve_congr h hp role, ?_, ?_, ?_, ?_, fun more hmore hv => ?_,
    fun s s' role hitems hoptions => ?_⟩
  · rw [hverdict, converter_eq_resolved_iff, card_candidates_eq_one]
  · rw [hverdict, converter_eq_ambiguous_iff, one_lt_card_candidates]
  · rw [hverdict, converter_eq_wrongShape_iff, card_candidates_eq_zero, IsTaken]
  · rw [hverdict, converter_eq_missing_iff, card_candidates_eq_zero, IsTaken]
  · exact converter_of_converters (keysOf_append hmore) hv
  · rw [s.symbols_eq_registered, s'.symbols_eq_registered]
    exact resolve_congr (keysOf_of_perm (Schema.registrations_perm hitems hoptions)) rfl role

/-- With two converters called `Wrap` the name is ambiguous.  A type `Wrap` does not change this, nor do the
arguments of a path or the order, and a module may have it in front of the converter or behind it. -/
theorem resolve_registered_wrap :
    let wrap := Path.ofIdent (.plain "Wrap")
    let inside := Path.mk false [.bare (.plain "near"), .bare (.plain "Wrap")]
    let generic := Path.mk false [.bare (.plain "near"), .mk (.plain "Wrap") (.angle false [] false)]
    let outside := Path.mk true [.bare (.plain "far"), .bare (.plain "Wrap")]
    let rs : List Registration := [⟨.converter, generic⟩, ⟨.converter, outside⟩]
    let items : List Item :=
      [.naming (.plain "Wrap") [], .implementation (.ofIdent (.plain "Converter")) (.path inside) []]
    (registered rs).resolve wrap .converter = .ambiguous ∧
      (registered (rs ++ [⟨.type, wrap⟩])).resolve wrap .converter = .ambiguous ∧
      (registered [⟨.converter, outside⟩, ⟨.converter, inside⟩, ⟨.converter, generic⟩]).resolve wrap .converter =
        .ambiguous ∧
      (Schema.symbols ⟨.default, [], items.reverse⟩).resolve wrap .converter =
        (Schema.symbols ⟨.default, [], items⟩).resolve wrap .converter := by
  intro wrap inside generic outside rs items
  obtain ⟨hcongr, -, hambiguous, -, -, hmore, hperm⟩ := resolve_registered rs wrap
  have hverdict : (registered rs).resolve wrap .converter = .ambiguous :=
    hambiguous.mpr ⟨by decide, generic.key, by decide, outside.key, by decide, by decide, by decide, by decide⟩
  have hsame : keysOf [⟨.converter, outside⟩, ⟨.converter, inside⟩, ⟨.converter, generic⟩] = keysOf rs := by
    funext u
    cases u <;> decide
  refine ⟨hverdict, ?_, ?_, hperm ⟨.default, [], items⟩ ⟨.default, [], items.reverse⟩ _ (List.reverse_perm items) rfl⟩
  · rw [hmore [⟨.type, wrap⟩] (by decide) (.inr hverdict), hverdict]
  · rw [hcongr _ wrap .converter hsame rfl, hverdict]

end Symbols

end AccessorSchema
