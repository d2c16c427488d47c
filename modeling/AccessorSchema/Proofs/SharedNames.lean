import AccessorSchema.Example.Small
import AccessorSchema.Proofs.Steps
import AccessorSchema.Proofs.Words

/-! # Methods that two names share

Two fields may be given one setter or one getter.  In ASCII the setter tells the exposed name, since both
come from the words of the stem (`pascal_of_method`).  The getter does so as well, except where it is not
made of the stem: `self`, `super` and `crate` name no method, so a getter keeps the marker in front of them,
and this may be what the words of another name look like.  `exposed_of_shared_iff` says that nothing else
goes wrong. -/

namespace AccessorSchema.AccessorName

open Text

variable {name : List Char}

/-! ### Stems -/

theorem dropMarker_cases (name : List Char) :
    dropMarker name = name ∨ name = 'm' :: '_' :: dropMarker name := by
  unfold dropMarker
  split
  · exact .inr rfl
  · exact .inl rfl

theorem exists_replicate_dropWhile (c : Char) (l : List Char) :
    ∃ k, l = List.replicate k c ++ l.dropWhile (· == c) := by
  induction l with
  | nil => exact ⟨0, rfl⟩
  | cons d rest ih =>
      rw [List.dropWhile_cons]
      split
      · rename_i hd
        obtain ⟨k, hk⟩ := ih
        refine ⟨k + 1, ?_⟩
        rw [List.replicate_succ, List.cons_append, ← hk, eq_of_beq hd]
      · exact ⟨0, rfl⟩

theorem dropWhile_underscores (k : Nat) {c : Char} (hc : c ≠ '_') (rest : List Char) :
    (List.replicate k '_' ++ c :: rest).dropWhile (· == '_') = c :: rest := by
  rw [List.dropWhile_append_of_pos fun d hd => beq_iff_eq.mpr (List.eq_of_mem_replicate hd)]
  exact List.dropWhile_cons_of_neg fun hd => hc (eq_of_beq hd)

/-- A stem is the whole name, or what stands behind a marker and its underscores. -/
theorem stem_cases (name : List Char) :
    stem name = name ∨ (stem name).head? ≠ some '_' ∧
      ∃ k, name = List.replicate k '_' ++ stem name ∨
        name = 'm' :: '_' :: (List.replicate k '_' ++ stem name) := by
  unfold stem
  dsimp only
  split
  · refine .inr ⟨fun h => ?_, ?_⟩
    · have := List.head?_dropWhile_not (· == '_') (dropMarker name)
      rw [h] at this
      cases this
    · obtain ⟨k, hk⟩ := exists_replicate_dropWhile '_' (dropMarker name)
      exact ⟨k, hk ▸ (dropMarker_cases name).imp Eq.symm id⟩
  · exact .inl rfl

theorem stem_suffix (name : List Char) : stem name <:+ name := by
  rcases stem_cases name with h | ⟨-, k, h | h⟩
  · rw [h]
  · exact ⟨_, h.symm⟩
  · exact ⟨'m' :: '_' :: List.replicate k '_', h.symm⟩

theorem all_isAscii_stem (h : name.all isAscii = true) : (stem name).all isAscii = true :=
  List.all_eq_true.mpr fun c hc => List.all_eq_true.mp h c ((stem_suffix name).subset hc)

/-- Nothing is taken off a name without a marker. -/
theorem stem_of_head? (hm : name.head? ≠ some 'm') (h : name.head? ≠ some '_') : stem name = name := by
  have hmarker : dropMarker name = name := by
    rcases dropMarker_cases name with hd | hd
    · exact hd
    · exact absurd (hd ▸ rfl) hm
  have hunderscores : name.dropWhile (· == '_') = name := by
    cases name with
    | nil => rfl
    | cons c rest => exact List.dropWhile_cons_of_neg fun hc => h (congrArg some (eq_of_beq hc))
  unfold stem
  rw [hmarker, hunderscores]
  exact ite_self name

/-! ### Methods -/

theorem method_of_alpha (h : (snake name).head?.any Char.isAlpha = true) : method name = snake name :=
  if_pos h

theorem method_of_not_alpha (h : ¬(snake name).head?.any Char.isAlpha = true) : method name = name :=
  if_neg h

/-- What starts with a letter has a method of its words. -/
theorem alpha_snake (h : name.all isAscii = true) (hname : name.head?.any Char.isAlpha = true) :
    (snake name).head?.any Char.isAlpha = true := by
  cases name with
  | nil => cases hname
  | cons c rest =>
      rw [head?_snake h (isDelimiter_of_isAlpha hname), Option.any_some, Char.isAlpha_toLower_eq_isAlpha]
      exact hname

/-- A name whose method starts with a letter has the method of its words. -/
theorem alpha_snake_of_method (h : name.all isAscii = true)
    (hname : (method name).head?.any Char.isAlpha = true) : (snake name).head?.any Char.isAlpha = true := by
  by_contra hsnake
  rw [method_of_not_alpha hsnake] at hname
  exact hsnake (alpha_snake h hname)

/-- The method of a stem tells its form in capitals. -/
theorem pascal_of_method {other : List Char} (h : name.all isAscii = true) (ho : other.all isAscii = true)
    (heq : method name = method other) : pascal name = pascal other := by
  by_cases hname : (snake name).head?.any Char.isAlpha = true
  · have hother : (snake other).head?.any Char.isAlpha = true :=
      alpha_snake_of_method ho (heq ▸ method_of_alpha hname ▸ hname)
    rw [method_of_alpha hname, method_of_alpha hother] at heq
    rw [pascal_of_snake h, pascal_of_snake ho, heq]
  · by_cases hother : (snake other).head?.any Char.isAlpha = true
    · exact absurd (alpha_snake_of_method h (heq ▸ method_of_alpha hother ▸ hother)) hname
    · rw [method_of_not_alpha hname, method_of_not_alpha hother] at heq
      rw [heq]

/-- A stem of which no method can be made of its words has no marker left. -/
theorem stem_stem_of_not_alpha (h : name.all isAscii = true)
    (hsnake : ¬(snake (stem name)).head?.any Char.isAlpha = true) : stem (stem name) = stem name := by
  rcases stem_cases name with hstem | ⟨hhead, -⟩
  · exact congrArg stem hstem
  · refine stem_of_head? (fun hm => hsnake (alpha_snake (all_isAscii_stem h) ?_)) hhead
    rw [hm]
    decide

/-- A path word is one word, so what is written in small letters and has it as method is the word. -/
theorem method_eq_of_mem_pathWords (h : name.all isAscii = true) (hlower : ∀ c ∈ name, c.toLower = c)
    (hmem : String.ofList (method name) ∈ pathWords) : method name = name := by
  have hplain : ∀ w ∈ pathWords, '_' ∉ w.toList := by decide
  unfold method at hmem ⊢
  dsimp only at hmem ⊢
  split
  · rename_i hsnake
    rw [if_pos hsnake] at hmem
    have hsplit : (snake name).splitOn '_' = [snake name] :=
      List.splitOn_eq_singleton (by simpa only [String.toList_ofList] using hplain _ hmem)
    rw [splitOn_snake h] at hsplit
    obtain ⟨w, hw, hwl⟩ := List.map_eq_singleton_iff.mp hsplit
    rw [← hwl, eq_of_words_singleton hw, lower_ascii h]
    exact (List.map_congr_left hlower).trans (List.map_id' name)
  · rfl

/-! ### Setters -/

theorem exposed_of_method {a b : Label} (ha : a.name.toList.all isAscii = true)
    (hb : b.name.toList.all isAscii = true)
    (h : method (stem a.name.toList) = method (stem b.name.toList)) : (derive a).exposed = (derive b).exposed :=
  congrArg String.ofList (pascal_of_method (all_isAscii_stem ha) (all_isAscii_stem hb) h)

theorem exposed_of_setter {a b : Label} (ha : a.name.toList.all isAscii = true)
    (hb : b.name.toList.all isAscii = true) (h : (derive a).setter = (derive b).setter) :
    (derive a).exposed = (derive b).exposed := by
  have hname : "set_" ++ String.ofList (method (stem a.name.toList)) =
      "set_" ++ String.ofList (method (stem b.name.toList)) := congrArg Label.name h
  exact exposed_of_method ha hb (String.ofList_injective ((String.append_right_inj _).mp hname))

/-! ### Getters -/

/-- A word behind a marker with `k` further underscores. -/
def marked (k : Nat) (word : String) : List Char := 'm' :: '_' :: (List.replicate k '_' ++ word.toList)

/-- The path words that a form in small letters may have in it. -/
def smallPathWords : List String := ["self", "super", "crate"]

theorem mem_smallPathWords {word : String} (h : word ∈ pathWords) (hlower : ∀ c ∈ word.toList, c.toLower = c) :
    word ∈ smallPathWords := by
  have hsplit : pathWords = smallPathWords ++ ["Self"] := rfl
  rcases List.mem_append.mp (hsplit ▸ h) with hword | hword
  · exact hword
  · rw [List.mem_singleton.mp hword] at hlower
    exact absurd (hlower 'S' (by decide)) (by decide)

/-- The first name has to keep its marker, and with it is the method of the second. -/
def MeetsMarked (a b : Label) : Prop :=
  ∃ k, ∃ word ∈ smallPathWords,
    a.name.toList = marked k word ∧ method (stem b.name.toList) = marked k word

theorem stem_marked (k : Nat) {word : String}
    (h : word.toList.head?.any (fun c => c != '_' && !isDigit c) = true) : stem (marked k word) = word.toList := by
  obtain ⟨c, hhead, hc⟩ := (Option.any_eq_true _ _).mp h
  obtain ⟨rest, hword⟩ := List.head?_eq_some_iff.mp hhead
  rw [Bool.and_eq_true, bne_iff_ne] at hc
  have hstripped : (dropMarker (marked k word)).dropWhile (· == '_') = c :: rest := by
    show (List.replicate k '_' ++ word.toList).dropWhile (· == '_') = c :: rest
    rw [hword]
    exact dropWhile_underscores k hc.1 rest
  unfold stem
  rw [hstripped, hword]
  exact if_pos hc.2

theorem stem_of_alpha (h : name.head?.any Char.isAlpha = true) :
    stem name = name ∨ ∃ k, name = marked k (String.ofList (stem name)) := by
  rcases stem_cases name with hstem | ⟨-, k, hk | hk⟩
  · exact .inl hstem
  · cases k with
    | zero => exact .inl hk.symm
    | succ k =>
        rw [hk] at h
        cases h
  · exact .inr ⟨k, by rw [marked, String.toList_ofList]; exact hk⟩

/-- A getter that keeps its marker is shared only with a method made of words that spell all of it. -/
theorem meetsMarked_of_getter {a b : Label} (ha : a.name.toList.all isAscii = true)
    (hb : b.name.toList.all isAscii = true)
    (hmem : String.ofList (method (stem a.name.toList)) ∈ pathWords)
    (hnot : String.ofList (method (stem b.name.toList)) ∉ pathWords)
    (h : a.name.toList = method (stem b.name.toList)) : MeetsMarked a b := by
  -- the method of `b` is made of the words of its stem, or it is the stem as it stands
  by_cases hsnake : (snake (stem b.name.toList)).head?.any Char.isAlpha = true
  · have hwords : a.name.toList = snake (stem b.name.toList) := h.trans (method_of_alpha hsnake)
    have hlower : ∀ c ∈ stem a.name.toList, c.toLower = c := fun c hc =>
      toLower_of_mem_snake (all_isAscii_stem hb) (hwords ▸ (stem_suffix _).subset hc)
    have hmethod := method_eq_of_mem_pathWords (all_isAscii_stem ha) hlower hmem
    rw [hmethod] at hmem
    rcases stem_of_alpha (hwords ▸ hsnake) with hstem | ⟨k, hk⟩
    · exact absurd (h ▸ hstem ▸ hmem) hnot
    · exact ⟨k, _, mem_smallPathWords hmem (by simpa only [String.toList_ofList] using hlower), hk, h ▸ hk⟩
  · have hstem : stem a.name.toList = stem b.name.toList := by
      rw [h, method_of_not_alpha hsnake]
      exact stem_stem_of_not_alpha hb hsnake
    exact absurd (hstem ▸ hmem) hnot

theorem getter_derive (backing : Label) :
    (derive backing).getter = getterOf backing (String.ofList (method (stem backing.name.toList))) := by
  unfold derive
  dsimp only

theorem getterOf_of_mem {backing : Label} {m : String} (h : m ∈ pathWords) :
    getterOf backing m = .plain backing.name :=
  if_pos (List.contains_iff_mem.mpr h)

theorem getterOf_of_notMem {backing : Label} {m : String} (h : m ∉ pathWords) :
    getterOf backing m = ⟨m, keywords.contains m⟩ :=
  if_neg fun hm => h (List.contains_iff_mem.mp hm)

/-- Where two fields share a getter, both get it the same way, or one keeps its marker. -/
theorem shared_getter_cases {a b : Label} (ha : a.name.toList.all isAscii = true)
    (hb : b.name.toList.all isAscii = true) (h : (derive a).getter = (derive b).getter) :
    (derive a).exposed = (derive b).exposed ∨ MeetsMarked a b ∨ MeetsMarked b a := by
  rw [getter_derive, getter_derive] at h
  by_cases hma : String.ofList (method (stem a.name.toList)) ∈ pathWords <;>
    by_cases hmb : String.ofList (method (stem b.name.toList)) ∈ pathWords
  · rw [getterOf_of_mem hma, getterOf_of_mem hmb] at h
    have hname := congrArg Label.name h
    exact .inl (exposed_of_method ha hb (congrArg (fun x : String => method (stem x.toList)) hname))
  · rw [getterOf_of_mem hma, getterOf_of_notMem hmb] at h
    have hname := congrArg (fun x : Label => x.name.toList) h
    exact .inr (.inl (meetsMarked_of_getter ha hb hma hmb (hname.trans String.toList_ofList)))
  · rw [getterOf_of_notMem hma, getterOf_of_mem hmb] at h
    have hname := congrArg (fun x : Label => x.name.toList) h.symm
    exact .inr (.inr (meetsMarked_of_getter hb ha hmb hma (hname.trans String.toList_ofList)))
  · rw [getterOf_of_notMem hma, getterOf_of_notMem hmb] at h
    have hmethod := String.ofList_injective (congrArg Label.name h)
    exact .inl (exposed_of_method ha hb hmethod)

namespace MeetsMarked

variable {a b : Label}

theorem stem_eq {k : Nat} {word : String} (hword : word ∈ smallPathWords) (h : a.name.toList = marked k word) :
    stem a.name.toList = word.toList := by
  have hplain : ∀ w ∈ smallPathWords, w.toList.head?.any (fun c => c != '_' && !isDigit c) = true := by decide
  rw [h, stem_marked k (hplain word hword)]

theorem getter_eq (h : MeetsMarked a b) : (derive a).getter = (derive b).getter := by
  obtain ⟨k, word, hword, ha, hb⟩ := h
  have hkept : (derive a).getter = .plain a.name := by
    have hpath : ∀ w ∈ smallPathWords, String.ofList (method w.toList) ∈ pathWords := by decide
    rw [getter_derive, stem_eq hword ha, getterOf_of_mem (hpath word hword)]
  have hmade : (derive b).getter = .plain a.name := by
    -- no reserved word starts with a marker
    have hfree : ∀ w ∈ pathWords ++ keywords, w.toList[1]? ≠ some '_' := by decide
    have hsecond : a.name.toList[1]? = some '_' := ha ▸ rfl
    have hpath : a.name ∉ pathWords := fun hm => hfree _ (List.mem_append_left _ hm) hsecond
    have hkeyword : a.name ∉ keywords := fun hm => hfree _ (List.mem_append_right _ hm) hsecond
    rw [getter_derive, hb, ← ha, String.ofList_toList, getterOf_of_notMem hpath, Label.plain,
      Bool.eq_false_iff.mpr fun hm => hkeyword (List.contains_iff_mem.mp hm)]
  rw [hkept, hmade]

/-- Exposed, the marked name has lost its marker, and the other still starts with an `M`. -/
theorem exposed_ne (hb : b.name.toList.all isAscii = true) (h : MeetsMarked a b) :
    (derive a).exposed ≠ (derive b).exposed := by
  obtain ⟨k, word, hword, ha, hmeets⟩ := h
  have hlost : (pascal (stem a.name.toList)).head? ≠ some 'M' := by
    have hwords : ∀ w ∈ smallPathWords, (pascal w.toList).head? ≠ some 'M' := by decide
    rw [stem_eq hword ha]
    exact hwords word hword
  have hkept : (pascal (stem b.name.toList)).head? = some 'M' := by
    have hascii := all_isAscii_stem hb
    have hsnake : snake (stem b.name.toList) = marked k word :=
      (method_of_alpha (alpha_snake_of_method hascii (hmeets ▸ rfl))).symm.trans hmeets
    rw [pascal_of_snake hascii, hsnake]
    show ((List.splitOn '_' (['m'] ++ '_' :: _)).map capitalize).flatten.head? = _
    rw [List.splitOn_append_cons_self]
    rfl
  intro h
  exact hlost (String.ofList_injective h ▸ hkept)

end MeetsMarked

/-! ### Shared names -/

/-- Fields of one setter are exposed under one name, and so are fields of one getter, except where one of the
names has to keep its marker and meets the other with it. -/
theorem exposed_of_shared_iff {a b : Label} (ha : a.name.toList.all isAscii = true)
    (hb : b.name.toList.all isAscii = true) :
    ((derive a).setter = (derive b).setter → (derive a).exposed = (derive b).exposed) ∧
      (((derive a).getter = (derive b).getter → (derive a).exposed = (derive b).exposed) ↔
        ¬MeetsMarked a b ∧ ¬MeetsMarked b a) := by
  refine ⟨exposed_of_setter ha hb, fun h => ⟨fun hm => ?_, fun hm => ?_⟩, fun ⟨hab, hba⟩ hgetter => ?_⟩
  · exact hm.exposed_ne hb (h hm.getter_eq)
  · exact hm.exposed_ne ha (h hm.getter_eq.symm).symm
  · rcases shared_getter_cases ha hb hgetter with h | h | h
    · exact h
    · exact absurd h hab
    · exact absurd h hba

/-- A marker and underscores are taken off alike, so the two names are exposed as one. -/
theorem exposed_of_shared_marker :
    let a := Label.plain "m_self"
    let b := Label.plain "__self"
    (a.name.toList ++ b.name.toList).all isAscii = true ∧ (derive a).setter = (derive b).setter ∧
      (derive a).exposed = (derive b).exposed ∧ ¬MeetsMarked a b ∧ ¬MeetsMarked b a := by
  intro a b
  obtain ⟨hset, hget⟩ := exposed_of_shared_iff (a := a) (b := b) (by decide) (by decide)
  have hsetter : (derive a).setter = (derive b).setter := by decide
  exact ⟨by decide, hsetter, hset hsetter, hget.mp fun _ => hset hsetter⟩

open Example in
/-- Fields `m_self` and `mSelf` are exposed as `Self` and `MSelf`, but share the getter `m_self`, and nothing
is reported. -/
theorem exists_shared_getter :
    let a := Label.plain "m_self"
    let b := Label.plain "mSelf"
    (a.name.toList ++ b.name.toList).all isAscii = true ∧ (derive a).getter = (derive b).getter ∧
      (derive a).exposed ≠ (derive b).exposed ∧
        let r := Run.ofDecls (fun _ _ => .resolved)
          [declare "Shade" none .immutable [field a.name "i32", field b.name "i32"]]
        r.diagnostics = [] ∧ ∃ g ∈ r.generated .skip, ¬(g.members.map (·.method)).Nodup := by
  intro a b
  refine ⟨by decide, by decide, by decide, ?_⟩
  rw [Run.ofDecls_singleton _ rfl]
  exact ⟨by decide +kernel, _, List.mem_singleton_self _, by decide +kernel⟩

end AccessorSchema.AccessorName
