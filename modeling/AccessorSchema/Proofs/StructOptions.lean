import AccessorSchema.Proofs.FieldNames
import AccessorSchema.Proofs.MemberAttributes
import Mathlib.Data.List.Nodup

/-! # The options of a data struct

A list of options is read one after the other.  As long as nothing is wrong, each of them is known, none stands
there twice, and what is read so far is what they say (`OptionState.Records`).  A struct may have several
attributes for its options, but only the first one is looked at.  Its declaration still shows all options written
on it (`Struct.Reflects`) if the others say nothing that matters, and only then (`Struct.reflects_iff`). -/

namespace AccessorSchema

/-! ### Single options -/

namespace OptionItem

/-- The name an option goes by; a literal has none. -/
def name? : OptionItem → Option String
  | literal _ => none
  | named p _ _ => some p.key.text

/-- The option makes a struct mutable. -/
def makesMutable : OptionItem → Bool
  | literal _ => false
  | named p args span =>
    p.key.text == "mutable" && (DataOptions.mutableFlag args span).toOption == some true

/-- The base that the option gives to a struct. -/
def base? : OptionItem → Option (Located Ty)
  | literal _ => none
  | named p args span =>
    if p.key.text == "base" then (DataOptions.baseType args span).toOption else none

variable {i : OptionItem}

theorem name?_of_makesMutable (h : i.makesMutable = true) : i.name? = some "mutable" := by
  cases i with
  | literal span => cases h
  | named p args span => exact congrArg some (eq_of_beq (Bool.and_eq_true_iff.mp h).1)

theorem name?_of_base? {t : Located Ty} (h : i.base? = some t) : i.name? = some "base" := by
  cases i with
  | literal span => cases h
  | named p args span =>
      change (if p.key.text == "base" then (DataOptions.baseType args span).toOption else none) = some t at h
      split at h
      next hname => exact congrArg some (eq_of_beq hname)
      next => cases h

theorem name?_of_isSome_base? (h : i.base?.isSome = true) : i.name? = some "base" :=
  name?_of_base? (Option.some_get h).symm

/-- What only options of one name do, no option does in a list without that name. -/
theorem any_eq_false {p : OptionItem → Bool} {x : String} (hp : ∀ i, p i = true → i.name? = some x)
    {items : List OptionItem} (h : x ∉ items.filterMap (·.name?)) : items.any p = false := by
  rw [List.any_eq_false]
  exact fun i hi hpi => h (List.mem_filterMap.mpr ⟨i, hi, hp i hpi⟩)

/-- Where no name stands twice, what a first part of the list does is not done behind it. -/
theorem any_eq_false_of_nodup {p : OptionItem → Bool} {x : String} (hp : ∀ i, p i = true → i.name? = some x)
    {first more : List OptionItem} (hnodup : ((first ++ more).filterMap (·.name?)).Nodup)
    (h : (first ++ more).any p = first.any p) : more.any p = false := by
  rw [List.filterMap_append] at hnodup
  rw [List.any_append] at h
  cases hfirst : first.any p with
  | false => simpa [hfirst] using h
  | true =>
      obtain ⟨i, hi, hpi⟩ := List.any_eq_true.mp hfirst
      have hx : x ∈ first.filterMap (·.name?) := List.mem_filterMap.mpr ⟨i, hi, hp i hpi⟩
      exact any_eq_false hp fun hmore => List.disjoint_of_nodup_append hnodup hx hmore

theorem isSome_findSome?_base? (items : List OptionItem) :
    (items.findSome? (·.base?)).isSome = items.any (·.base?.isSome) := by
  induction items with
  | nil => rfl
  | cons i items ih => cases h : i.base? <;> simp [h, ih]

end OptionItem

/-! ### Lists of options -/

theorem exists_ok_of_bind {ε α β : Type} {x : Except ε α} {f : α → β} {y : β}
    (h : (x >>= fun a => pure (f a)) = .ok y) : ∃ a, x = .ok a ∧ f a = y := by
  cases x with
  | error e => cases h
  | ok a => exact ⟨a, rfl, Except.ok.inj h⟩

namespace OptionState

section step

variable {σ : Type} {handlers : List (String × OptionHandler σ)} {s : OptionState σ} {i : OptionItem}

theorem errors_step (handlers : List (String × OptionHandler σ)) (s : OptionState σ) (i : OptionItem) :
    ∃ es, (step handlers s i).errors = s.errors ++ es := by
  cases i with
  | literal span => exact ⟨_, rfl⟩
  | named p args span =>
      unfold step
      dsimp only
      split
      next => exact ⟨_, rfl⟩
      next =>
        split
        next => exact ⟨_, rfl⟩
        next =>
          split
          next => exact ⟨[], (List.append_nil _).symm⟩
          next => exact ⟨_, rfl⟩

theorem errors_of_foldl {items : List OptionItem} (h : (items.foldl (step handlers) s).errors = []) :
    s.errors = [] := by
  induction items generalizing s with
  | nil => exact h
  | cons i items ih =>
      obtain ⟨es, hes⟩ := errors_step handlers s i
      exact (List.append_eq_nil_iff.mp (hes ▸ ih h)).1

/-- An option that is no error is known and new, and its value is right. -/
theorem exists_of_step (h : (step handlers s i).errors = []) : ∃ p args span handle o,
    i = .named p args span ∧ handlers.lookup p.key.text = some handle ∧ p.key.text ∉ s.met ∧
      handle s.options args span = .ok o ∧ step handlers s i = ⟨o, p.key.text :: s.met, []⟩ := by
  cases i with
  | literal span => simp [step, report] at h
  | named p args span =>
      unfold step at h ⊢
      dsimp only at h ⊢
      split at h
      next => simp [report] at h
      next handle hhandle =>
        split at h
        next => simp [report] at h
        next hnew =>
          split at h
          next o ho =>
            dsimp only at h ho
            refine ⟨p, args, span, handle, o, rfl, hhandle, by simpa using hnew, ho, ?_⟩
            rw [if_neg hnew, h]
          next => simp [report] at h

end step

/-- What is read of a struct's options, when those in `seen` were looked at and nothing was wrong. -/
structure Records (s : OptionState DataOptions) (seen : List OptionItem) : Prop where
  isMutable : s.options.isMutable = seen.any (·.makesMutable)
  base : s.options.base = seen.findSome? (·.base?)
  met : s.met = (seen.filterMap (·.name?)).reverse
  nodup : s.met.Nodup

variable {s : OptionState DataOptions} {seen : List OptionItem} {i : OptionItem}

/-- An option of a struct that is no error says whether it is mutable, or gives its base. -/
theorem step_cases (h : (step DataOptions.handlers s i).errors = []) : ∃ p args span,
    i = .named p args span ∧ p.key.text ∉ s.met ∧
      ((∃ b, p.key.text = "mutable" ∧ DataOptions.mutableFlag args span = .ok b ∧
        step DataOptions.handlers s i = ⟨{ s.options with isMutable := b }, "mutable" :: s.met, []⟩) ∨
      ∃ t, p.key.text = "base" ∧ DataOptions.baseType args span = .ok t ∧
        step DataOptions.handlers s i = ⟨{ s.options with base := some t }, "base" :: s.met, []⟩) := by
  obtain ⟨p, args, span, handle, o, rfl, hhandle, hnew, ho, hstep⟩ := exists_of_step h
  refine ⟨p, args, span, rfl, hnew, ?_⟩
  obtain ⟨before, after, hhandlers, -⟩ := List.lookup_eq_some_iff.mp hhandle
  have hmem : (p.key.text, handle) ∈ DataOptions.handlers := hhandlers ▸ List.mem_append_right _ List.mem_cons_self
  rcases List.mem_pair.mp hmem with hentry | hentry
  · obtain ⟨hname, rfl⟩ := Prod.mk.inj hentry
    obtain ⟨b, hb, rfl⟩ := exists_ok_of_bind ho
    exact .inl ⟨b, hname, hb, hname ▸ hstep⟩
  · obtain ⟨hname, rfl⟩ := Prod.mk.inj hentry
    obtain ⟨t, ht, rfl⟩ := exists_ok_of_bind ho
    exact .inr ⟨t, hname, ht, hname ▸ hstep⟩

theorem Records.notMem (hs : Records s seen) {x : String} (hnew : x ∉ s.met) :
    x ∉ seen.filterMap (·.name?) := by
  rwa [hs.met, List.mem_reverse] at hnew

/-- One more option without an error is recorded. -/
theorem Records.step (hs : Records s seen) (h : (step DataOptions.handlers s i).errors = []) :
    Records (OptionState.step DataOptions.handlers s i) (seen ++ [i]) := by
  obtain ⟨p, args, span, rfl, hnew, ⟨b, hname, hb, hstep⟩ | ⟨t, hname, ht, hstep⟩⟩ := step_cases h
  · rw [hname] at hnew
    rw [hstep]
    refine ⟨?_, ?_, ?_, List.nodup_cons.mpr ⟨hnew, hs.nodup⟩⟩
    -- the name is new, so no option before this one made the struct mutable
    · rw [List.any_append, OptionItem.any_eq_false (fun _ => OptionItem.name?_of_makesMutable) (hs.notMem hnew)]
      cases b <;> simp [OptionItem.makesMutable, hname, hb, Except.toOption]
    · simp [hs.base, OptionItem.base?, hname]
    · simp [hs.met, OptionItem.name?, hname]
  · rw [hname] at hnew
    rw [hstep]
    refine ⟨?_, ?_, ?_, List.nodup_cons.mpr ⟨hnew, hs.nodup⟩⟩
    · simp [hs.isMutable, OptionItem.makesMutable, hname]
    · have hnone : seen.findSome? (·.base?) = none := by
        rw [← Option.not_isSome_iff_eq_none, OptionItem.isSome_findSome?_base?, Bool.not_eq_true]
        exact OptionItem.any_eq_false (fun _ => OptionItem.name?_of_isSome_base?) (hs.notMem hnew)
      rw [List.findSome?_append, hnone]
      simp [OptionItem.base?, hname, ht, Except.toOption]
    · simp [hs.met, OptionItem.name?, hname]

/-- So are all options of a list. -/
theorem Records.foldl {items : List OptionItem} (hs : Records s seen)
    (h : (items.foldl (OptionState.step DataOptions.handlers) s).errors = []) :
    Records (items.foldl (OptionState.step DataOptions.handlers) s) (seen ++ items) := by
  induction items generalizing s seen with
  | nil => simpa using hs
  | cons i items ih =>
      have hi := hs.step (errors_of_foldl h)
      simpa using ih hi h

end OptionState

/-! ### What a list comes to -/

namespace OptionItem

variable {σ : Type} {handlers : List (String × OptionHandler σ)} {defaults : σ}

/-- What a list of options comes to, or all that is wrong with them. -/
def collect (handlers : List (String × OptionHandler σ)) (defaults : σ) (items : List OptionItem) :
    Except (List AttributeError) σ :=
  let s := items.foldl (OptionState.step handlers) ⟨defaults, [], []⟩
  if s.errors.isEmpty then .ok s.options else .error s.errors

theorem errors_ne_nil_of_collect {items : List OptionItem} {es : List AttributeError}
    (h : collect handlers defaults items = .error es) : es ≠ [] := by
  unfold collect at h
  dsimp only at h
  split at h
  next => cases h
  next hsome => exact Except.error.inj h ▸ fun hnone => hsome (List.isEmpty_iff.mpr hnone)

theorem readOptions_eq {trees : List TokenTree} {items : List OptionItem} (h : readList trees = .ok items) :
    readOptions handlers defaults trees = collect handlers defaults items := by
  rw [readOptions, h]
  rfl

theorem errors_ne_nil_of_readOptions {trees : List TokenTree} {es : List AttributeError}
    (h : readOptions handlers defaults trees = .error es) : es ≠ [] := by
  cases hread : readList trees with
  | error e =>
      rw [readOptions, hread] at h
      exact Except.error.inj h ▸ List.cons_ne_nil _ _
  | ok items => exact errors_ne_nil_of_collect ((readOptions_eq hread).symm.trans h)

end OptionItem

namespace DataOptions

/-- The options of a struct that lists them. -/
def ofItems (items : List OptionItem) : Except (List AttributeError) DataOptions :=
  OptionItem.collect handlers default items

/-- Options without an error are what the list says, and each of them stands there once. -/
theorem ofItems_eq_ok {items : List OptionItem} {o : DataOptions} (h : ofItems items = .ok o) :
    o.isMutable = items.any (·.makesMutable) ∧ o.base = items.findSome? (·.base?) ∧
      (items.filterMap (·.name?)).Nodup := by
  unfold ofItems OptionItem.collect at h
  dsimp only at h
  split at h
  next hnone =>
    have hstart : OptionState.Records ⟨default, [], []⟩ [] := ⟨rfl, rfl, rfl, List.nodup_nil⟩
    have hend := hstart.foldl (List.isEmpty_iff.mp hnone)
    obtain rfl := Except.ok.inj h
    exact ⟨hend.isMutable, hend.base, List.nodup_reverse.mp (hend.met ▸ hend.nodup)⟩
  next => cases h

end DataOptions

/-! ### The attributes of a struct -/

namespace Attr

/-- The options that an attribute of a struct lists, none if they cannot be read. -/
def options? (a : Attr) : Option (List OptionItem) :=
  match a.content.args with
  | .none => some []
  | .list _ body _ => (OptionItem.readList body).toOption
  | .value _ => none

/-- One of the listed options makes the struct mutable. -/
def makesMutable (a : Attr) : Bool := (a.options?.getD []).any (·.makesMutable)

/-- One of the listed options gives the struct a base. -/
def givesBase (a : Attr) : Bool := (a.options?.getD []).any (·.base?.isSome)

variable {a : Attr}

theorem ofAttr_eq {items : List OptionItem} (h : a.options? = some items) :
    DataOptions.ofAttr a = DataOptions.ofItems items := by
  unfold options? at h
  unfold DataOptions.ofAttr
  cases hargs : a.content.args with
  | none =>
      obtain rfl : [] = items := by simpa [hargs] using h
      rfl
  | list delim body closing =>
      have hlist : (OptionItem.readList body).toOption = some items := by simpa [hargs] using h
      refine OptionItem.readOptions_eq ?_
      cases hread : OptionItem.readList body with
      | error e => simp [hread, Except.toOption] at hlist
      | ok read => simpa [hread, Except.toOption] using hlist
  | value e => simp [hargs] at h

theorem exists_options_of_ofAttr {o : DataOptions} (h : DataOptions.ofAttr a = .ok o) :
    ∃ items, a.options? = some items := by
  unfold DataOptions.ofAttr readOptions at h
  unfold options?
  cases hargs : a.content.args with
  | none => exact ⟨[], rfl⟩
  | list delim body closing =>
      cases hread : OptionItem.readList body with
      | error e => simp [hargs, hread] at h
      | ok items => exact ⟨items, by simp [hread, Except.toOption]⟩
  | value e => simp [hargs] at h

theorem errors_ne_nil_of_ofAttr {es : List AttributeError} (h : DataOptions.ofAttr a = .error es) : es ≠ [] := by
  unfold DataOptions.ofAttr at h
  split at h
  next => cases h
  next => exact OptionItem.errors_ne_nil_of_readOptions h
  next => exact Except.error.inj h ▸ List.cons_ne_nil _ _

/-- Something is written in some attributes exactly if it is in all their options together. -/
theorem any_flatten {as : List Attr} {lists : List (List OptionItem)} (p : OptionItem → Bool)
    (h : as.mapM Attr.options? = some lists) :
    lists.flatten.any p = as.any fun a => (a.options?.getD []).any p := by
  induction as generalizing lists with
  | nil =>
      cases h
      rfl
  | cons a as ih =>
      obtain ⟨first, rest, hfirst, hrest, rfl⟩ : ∃ first rest, a.options? = some first ∧
          as.mapM Attr.options? = some rest ∧ first :: rest = lists := by
        simpa [List.mapM_cons, Option.bind_eq_some_iff] using h
      simp [hfirst, ih hrest]

end Attr

/-! ### The declaration of a struct -/

namespace Struct

/-- All attributes that are for the options of a struct. -/
def dataAttrs (s : Struct) : List Attr := s.attrs.filter (·.isData)

/-- The options written in all these attributes, none if one of them cannot be read. -/
def writtenOptions? (s : Struct) : Option (List OptionItem) :=
  (s.dataAttrs.mapM Attr.options?).map List.flatten

/-- The declaration of a struct with these options, and its errors. -/
def declOf (s : Struct) (items : List OptionItem) : TypeDecl × List AttributeError :=
  match DataOptions.ofItems items with
  | .ok o => (s.declWith o, baseErrors o ++ s.fieldErrors)
  | .error es => (s.declWith .default, es ++ s.fieldErrors)

/-- A declaration shows all options written on its struct, and is the one of the struct that has them in one
attribute. -/
structure Reflects (s : Struct) (d : TypeDecl) : Prop where
  mode : d.mode = .mutable ↔ ∃ a ∈ s.dataAttrs, a.makesMutable = true
  base : d.base.isSome = true ↔ ∃ a ∈ s.dataAttrs, a.givesBase = true
  together : ∃ items, s.writtenOptions? = some items ∧ s.declOf items = (d, [])

variable {s : Struct} {d : TypeDecl} {a : Attr} {o : DataOptions} {items : List OptionItem}

theorem dataAttr?_eq (s : Struct) : s.dataAttr? = s.dataAttrs.head? := List.head?_filter.symm

/-- The options of the first attribute are those that count. -/
theorem decl?_eq_declOf (ha : s.dataAttr? = some a) (hitems : a.options? = some items) :
    s.decl? = some (s.declOf items) := by
  rw [decl?, ha, Option.map_some, dataOptions, declOf, Attr.ofAttr_eq hitems]
  cases DataOptions.ofItems items <;> rfl

theorem exists_of_declOf (h : s.declOf items = (d, [])) : ∃ o, DataOptions.ofItems items = .ok o ∧
    baseErrors o = [] ∧ d = s.declWith o := by
  unfold declOf at h
  cases ho : DataOptions.ofItems items with
  | error es =>
      rw [ho] at h
      exact absurd (List.append_eq_nil_iff.mp (Prod.mk.inj h).2).1 (OptionItem.errors_ne_nil_of_collect ho)
  | ok o =>
      rw [ho] at h
      obtain ⟨hd, herrors⟩ := Prod.mk.inj h
      exact ⟨o, rfl, (List.append_eq_nil_iff.mp herrors).1, hd.symm⟩

theorem exists_of_decl? (h : s.decl? = some (d, [])) : ∃ a items, s.dataAttr? = some a ∧
    a.options? = some items ∧ s.declOf items = (d, []) := by
  obtain ⟨a, ha, hdecl⟩ := Option.map_eq_some_iff.mp h
  cases ho : DataOptions.ofAttr a with
  | error es =>
      rw [dataOptions, ho] at hdecl
      exact absurd (List.append_eq_nil_iff.mp (Prod.mk.inj hdecl).2).1 (Attr.errors_ne_nil_of_ofAttr ho)
  | ok o =>
      obtain ⟨items, hitems⟩ := Attr.exists_options_of_ofAttr ho
      exact ⟨a, items, ha, hitems, Option.some.inj ((decl?_eq_declOf ha hitems).symm.trans h)⟩

theorem mode_declWith (s : Struct) (o : DataOptions) : (s.declWith o).mode = .mutable ↔ o.isMutable = true := by
  cases h : o.isMutable <;> simp [declWith, Mode.ofBool, h]

theorem isSome_base_declWith (s : Struct) (h : baseErrors o = []) :
    (s.declWith o).base.isSome = o.base.isSome := by
  unfold baseErrors at h
  unfold declWith
  cases hbase : o.base with
  | none => rfl
  | some t =>
      have husable : BaseRef.ofType? t.value ≠ none := by simpa [hbase] using h
      simpa [Option.isSome_iff_ne_none] using husable

/-- The options in all attributes are those of the first one, and those behind it do what the other attributes
do. -/
theorem writtenOptions?_eq {first : List OptionItem} {rest : List Attr} (hattrs : s.dataAttrs = a :: rest)
    (ha : a.options? = some first) (h : s.writtenOptions? = some items) : ∃ more, items = first ++ more ∧
      ∀ p : OptionItem → Bool, more.any p = false ↔ ∀ b ∈ rest, (b.options?.getD []).any p = false := by
  obtain ⟨lists, hlists, rfl⟩ := Option.map_eq_some_iff.mp h
  obtain ⟨more, hmore, rfl⟩ : ∃ more, rest.mapM Attr.options? = some more ∧ first :: more = lists := by
    simpa [hattrs, ha, List.mapM_cons, Option.bind_eq_some_iff] using hlists
  refine ⟨more.flatten, List.flatten_cons, fun p => ?_⟩
  simp only [Attr.any_flatten p hmore, List.any_eq_false, Bool.not_eq_true]

/-- Options that could stand in one attribute, and do so without an error, are shown. -/
theorem reflects_of_declOf (hitems : s.writtenOptions? = some items) (h : s.declOf items = (d, [])) :
    s.Reflects d := by
  obtain ⟨o, ho, hbase, rfl⟩ := exists_of_declOf h
  obtain ⟨hmutable, hbase?, -⟩ := DataOptions.ofItems_eq_ok ho
  obtain ⟨lists, hlists, rfl⟩ := Option.map_eq_some_iff.mp hitems
  refine ⟨?_, ?_, _, hitems, h⟩
  · rw [mode_declWith, hmutable, Attr.any_flatten _ hlists, List.any_eq_true]
    rfl
  · rw [isSome_base_declWith s hbase, hbase?, OptionItem.isSome_findSome?_base?, Attr.any_flatten _ hlists,
      List.any_eq_true]
    rfl

/-- Of options that lead to the same declaration as the first of them, the others change nothing. -/
theorem any_eq_false_of_declOf {first more : List OptionItem} (hfirst : s.declOf first = (d, []))
    (hall : s.declOf (first ++ more) = (d, [])) :
    more.any (·.makesMutable) = false ∧ more.any (·.base?.isSome) = false := by
  obtain ⟨o₁, ho₁, hbase₁, rfl⟩ := exists_of_declOf hfirst
  obtain ⟨o, ho, hbase, hsame⟩ := exists_of_declOf hall
  obtain ⟨hmutable₁, hbase?₁, -⟩ := DataOptions.ofItems_eq_ok ho₁
  obtain ⟨hmutable, hbase?, hnodup⟩ := DataOptions.ofItems_eq_ok ho
  have hmode : (first ++ more).any (·.makesMutable) = first.any (·.makesMutable) := by
    rw [← hmutable, ← hmutable₁, Bool.eq_iff_iff, ← mode_declWith s, ← mode_declWith s, hsame]
  have hbases : (first ++ more).any (·.base?.isSome) = first.any (·.base?.isSome) := by
    rw [← OptionItem.isSome_findSome?_base?, ← OptionItem.isSome_findSome?_base?, ← hbase?, ← hbase?₁,
      ← isSome_base_declWith s hbase, ← isSome_base_declWith s hbase₁, hsame]
  exact ⟨OptionItem.any_eq_false_of_nodup (fun _ => OptionItem.name?_of_makesMutable) hnodup hmode,
    OptionItem.any_eq_false_of_nodup (fun _ => OptionItem.name?_of_isSome_base?) hnodup hbases⟩

/-- Options behind others that change nothing lead to the same declaration. -/
theorem declOf_append {first more : List OptionItem} {o₁ : DataOptions}
    (hfirst : DataOptions.ofItems first = .ok o₁) (hall : DataOptions.ofItems (first ++ more) = .ok o)
    (hmutable : more.any (·.makesMutable) = false) (hbase : more.any (·.base?.isSome) = false) :
    s.declOf (first ++ more) = s.declOf first := by
  obtain ⟨hmutable₁, hbase₁, -⟩ := DataOptions.ofItems_eq_ok hfirst
  obtain ⟨hmutableAll, hbaseAll, -⟩ := DataOptions.ofItems_eq_ok hall
  rw [← OptionItem.isSome_findSome?_base?, Option.isSome_eq_false_iff, Option.isNone_iff_eq_none] at hbase
  rw [List.any_append, hmutable, Bool.or_false, ← hmutable₁] at hmutableAll
  rw [List.findSome?_append, hbase, Option.or_none, ← hbase₁] at hbaseAll
  have hsame : o = o₁ := by
    cases o
    cases o₁
    exact congrArg₂ DataOptions.mk hmutableAll hbaseAll
  rw [declOf, declOf, hfirst, hall, hsame]

/-- A struct's declaration shows all options written on it exactly if they could stand in one attribute and those
behind the first attribute change nothing.  The members show all attributes of their fields in any case. -/
theorem reflects_iff (h : s.decl? = some (d, [])) :
    (s.Reflects d ↔
      (∃ items o, s.writtenOptions? = some items ∧ DataOptions.ofItems items = .ok o) ∧
        ∀ a ∈ s.dataAttrs.tail, a.makesMutable = false ∧ a.givesBase = false) ∧
      List.Forall₂ Field.DeclaredAs ((namedFields s.fields).filter (!·.isLeftOut)) d.members := by
  obtain ⟨a, first, ha, hfirst, hdecl⟩ := exists_of_decl? h
  obtain ⟨o₁, ho₁, -, hd⟩ := exists_of_declOf hdecl
  obtain ⟨rest, hattrs⟩ : ∃ rest, s.dataAttrs = a :: rest := List.head?_eq_some_iff.mp (s.dataAttr?_eq ▸ ha)
  rw [hattrs, List.tail_cons]
  refine ⟨⟨fun hreflects => ?_, ?_⟩, hd ▸ Field.forall₂_members _⟩
  -- together the options name nothing twice, so what the first attribute does no other one does
  · obtain ⟨items, hitems, htogether⟩ := hreflects.together
    obtain ⟨o, ho, -⟩ := exists_of_declOf htogether
    obtain ⟨more, rfl, hmore⟩ := writtenOptions?_eq hattrs hfirst hitems
    obtain ⟨hmutable, hbase⟩ := any_eq_false_of_declOf hdecl htogether
    exact ⟨⟨_, o, hitems, ho⟩, fun b hb => ⟨(hmore _).mp hmutable b hb, (hmore _).mp hbase b hb⟩⟩
  -- the options behind the first attribute may still say what holds anyway, as in an explicit `mutable = false`
  · rintro ⟨⟨items, o, hitems, ho⟩, hrest⟩
    obtain ⟨more, rfl, hmore⟩ := writtenOptions?_eq hattrs hfirst hitems
    have hmutable := (hmore _).mpr fun b hb => (hrest b hb).1
    have hbase := (hmore _).mpr fun b hb => (hrest b hb).2
    exact reflects_of_declOf hitems ((declOf_append ho₁ ho hmutable hbase).trans hdecl)

open Example

set_option maxRecDepth 10000 in
/-- A vault whose second attribute is empty. -/
theorem reflects_iff_treasury :
    ∃ m s st d, Schema.ofModule [] m = .ok s ∧ .struct st ∈ s.items ∧ st.decl? = some (d, []) ∧
      st.dataAttrs.length = 2 ∧ d.mode = .mutable ∧ st.Reflects d ∧
        List.Forall₂ Field.DeclaredAs ((namedFields st.fields).filter (!·.isLeftOut)) d.members := by
  have h : (schemaOf? (treasury "#[data(mutable)] #[data]")).any fun s =>
      (s.items.filterMap (·.struct?)).any fun st => st.decl?.any fun p => decide (
        p.2 = [] ∧ st.dataAttrs.length = 2 ∧ p.1.mode = .mutable ∧
        (∀ a ∈ st.dataAttrs.tail, a.makesMutable = false ∧ a.givesBase = false) ∧
          st.writtenOptions?.any fun items => (DataOptions.ofItems items).isOk) := by decide +kernel
  obtain ⟨m, s, -, hs, hf⟩ := Schema.exists_of_schemaOf? h
  obtain ⟨st, hst, hst'⟩ := List.any_eq_true.mp hf
  obtain ⟨⟨d, es⟩, hdecl, hd⟩ := (Option.any_eq_true _ _).mp hst'
  obtain ⟨rfl, hlength, hmode, hrest, hitems⟩ := of_decide_eq_true hd
  obtain ⟨items, hitems, hok⟩ := (Option.any_eq_true _ _).mp hitems
  obtain ⟨hiff, hmembers⟩ := reflects_iff hdecl
  cases ho : DataOptions.ofItems items with
  | error es => simp [ho, Except.isOk, Except.toBool] at hok
  | ok o =>
      have hreflects := hiff.mpr ⟨⟨items, o, hitems, ho⟩, hrest⟩
      exact ⟨m, s, st, d, hs, Item.struct_of_mem hst, hdecl, hlength, hmode, hreflects, hmembers⟩

set_option maxRecDepth 10000 in
/-- A vault that is not mutable, though its second attribute says so, and would be with both in one. -/
theorem exists_ignored_option :
    ∃ m s st d, schemaOf? (treasury "#[data] #[data(mutable)]") = some s ∧ Schema.ofModule [] m = .ok s ∧
      .struct st ∈ s.items ∧ st.decl? = some (d, []) ∧ d.mode = .immutable ∧
        (∃ a ∈ st.dataAttrs, a.makesMutable = true) ∧
          (∃ items, st.writtenOptions? = some items ∧ (st.declOf items).1.mode = .mutable) ∧ ¬st.Reflects d := by
  have h : (schemaOf? (treasury "#[data] #[data(mutable)]")).any fun s =>
      (s.items.filterMap (·.struct?)).any fun st => st.decl?.any fun p => decide (
        p.2 = [] ∧ p.1.mode = .immutable ∧ (∃ a ∈ st.dataAttrs, a.makesMutable = true) ∧
          st.writtenOptions?.any fun items => decide ((st.declOf items).1.mode = .mutable)) := by decide +kernel
  obtain ⟨m, s, hread, hs, hf⟩ := Schema.exists_of_schemaOf? h
  obtain ⟨st, hst, hst'⟩ := List.any_eq_true.mp hf
  obtain ⟨⟨d, es⟩, hdecl, hd⟩ := (Option.any_eq_true _ _).mp hst'
  obtain ⟨rfl, hmode, hmutable, hitems⟩ := of_decide_eq_true hd
  obtain ⟨items, hitems, hboth⟩ := (Option.any_eq_true _ _).mp hitems
  refine ⟨m, s, st, d, hread, hs, Item.struct_of_mem hst, hdecl, hmode, hmutable,
    ⟨items, hitems, of_decide_eq_true hboth⟩, fun hreflects => ?_⟩
  have hshown := hreflects.mode.mpr hmutable
  exact absurd (hmode.symm.trans hshown) (by decide)

end Struct

end AccessorSchema
