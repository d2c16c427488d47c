import AccessorSchema.Proofs.Identifiers
import AccessorSchema.Proofs.SharedNames
import AccessorSchema.Proofs.Subject

/-! # Names that can be derived

A name is derived from every identifier, but its methods are identifiers only if the stem starts like one
(`isIdentText_method_iff`): all other characters of the name may stay where they are, in small letters too.  The
stem of an identifier starts like one unless the marker is taken off a character that cannot stand in front,
other than a digit of ASCII (`head?_stem`).  `derive?_eq_ok_iff` says that nothing else keeps a name from being
derived, and that no getter becomes a word of the language. -/

namespace AccessorSchema

/-! ### Identifiers -/

theorem Text.isIdentText_iff {cs : List Char} :
    isIdentText cs = true ↔ cs.head?.any isIdentStart = true ∧ ∀ c ∈ cs, isIdentContinue c = true := by
  cases cs with
  | nil => simp [isIdentText]
  | cons c rest =>
      rw [isIdentText, Bool.and_eq_true, List.all_eq_true, List.head?_cons, Option.any_some, List.forall_mem_cons]
      constructor
      · rintro ⟨hc, hrest⟩
        exact ⟨hc, isIdentContinue_of_isIdentStart hc, hrest⟩
      · rintro ⟨hc, -, hrest⟩
        exact ⟨hc, hrest⟩

theorem Text.isIdentStart_of_isAlpha {c : Char} (h : c.isAlpha = true) : isIdentStart c = true := by
  rw [isIdentStart, if_pos (isAscii_of_isAlpha h), h, Bool.true_or]

theorem Text.isDigit_of_isIdentStart {c : Char} (h : isIdentStart c = true) : isDigit c = false := by
  by_cases hc : isAscii c = true
  · exact forall_ascii (fun c => isIdentStart c = true → isDigit c = false) (by decide +kernel) hc h
  · rw [isDigit, Bool.and_eq_false_iff]
    refine .inr (decide_eq_false fun hle => hc (decide_eq_true ?_))
    exact Nat.lt_of_le_of_lt (UInt32.le_iff_toNat_le.mp hle) (by decide)

namespace Label

variable {x : Label}

theorem fault?_eq_none (h : Text.isIdentText x.name.toList = true) (hraw : x.raw = true → x.name ∉ neverRaw) :
    x.fault? = none := by
  obtain ⟨hhead, -⟩ := Text.isIdentText_iff.mp h
  obtain ⟨c, hc, hstart⟩ := (Option.any_eq_true _ _).mp hhead
  obtain ⟨rest, hname⟩ := List.head?_eq_some_iff.mp hc
  have hnever : (x.raw && neverRaw.contains x.name) = false := by
    rw [Bool.eq_false_iff]
    intro hboth
    rw [Bool.and_eq_true] at hboth
    exact hraw hboth.1 (List.contains_iff_mem.mp hboth.2)
  unfold fault?
  rw [h, hname, hnever, List.isEmpty_cons, List.all_cons, Text.isDigit_of_isIdentStart hstart]
  rfl

theorem isIdent_of_fault?_eq_none (h : x.fault? = none) : x.isIdent = true := by
  unfold fault? at h
  split_ifs at h with _ _ hmalformed hnever
  rw [Bool.not_eq_true, Bool.not_eq_false'] at hmalformed
  rw [isIdent, hmalformed, Bool.eq_false_iff.mpr hnever]
  rfl

theorem fault?_plain {s : String} (h : Text.isIdentText s.toList = true) : (plain s).fault? = none :=
  fault?_eq_none (x := plain s) h fun hraw => nomatch hraw

/-- A text that starts with no digit and is no identifier is malformed, raw or not. -/
theorem fault?_of_not_isIdentText (hhead : x.name.toList.head?.any (fun c => !Text.isDigit c) = true)
    (h : ¬Text.isIdentText x.name.toList = true) : x.fault? = some (.malformed x.name) := by
  obtain ⟨c, hc, hdigit⟩ := (Option.any_eq_true _ _).mp hhead
  obtain ⟨rest, hname⟩ := List.head?_eq_some_iff.mp hc
  rw [Bool.not_eq_true'] at hdigit
  unfold fault?
  rw [Bool.eq_false_iff.mpr h, hname, List.isEmpty_cons, List.all_cons, hdigit]
  rfl

/-- The words of the language with the one that its latest edition adds. -/
def reserved : List String := "gen" :: keywords

/-- A word of the language that is not written raw. -/
def isReserved (x : Label) : Bool := !x.raw && reserved.contains x.name

theorem isReserved_eq_false_iff : x.isReserved = false ↔ (x.raw = false → x.name ∉ reserved) := by
  simp [isReserved]

end Label

theorem Ident.notMem_neverRaw (x : Ident) (hraw : x.raw = true) : x.name ∉ Label.neverRaw := by
  have hnever := (Bool.and_eq_true_iff.mp x.valid).2
  rw [hraw, Bool.true_and, Bool.not_eq_true', Bool.eq_false_iff] at hnever
  exact fun hmem => hnever (List.contains_iff_mem.mpr hmem)

namespace AccessorName

open Text

variable {name : List Char}

/-! ### Stems -/

/-- What stands behind the marker. -/
def unmarked (name : List Char) : List Char := (dropMarker name).dropWhile (· == '_')

theorem stem_eq (name : List Char) :
    stem name = if (unmarked name).head?.any (fun c => !isDigit c) then unmarked name else name :=
  rfl

/-- Behind the marker stands a character that continues an identifier and cannot start one, other than a digit
of ASCII. -/
def losesStart (name : List Char) : Bool := (unmarked name).head?.any fun c => !isDigit c && !isIdentStart c

theorem isIdentContinue_stem (h : isIdentText name = true) : ∀ c ∈ stem name, isIdentContinue c = true :=
  fun c hc => (isIdentText_iff.mp h).2 c ((stem_suffix name).subset hc)

theorem head?_stem (h : isIdentText name = true) : (stem name).head?.any isIdentStart = !losesStart name := by
  rw [stem_eq, losesStart]
  split
  next hnew =>
    obtain ⟨c, hc, hdigit⟩ := (Option.any_eq_true _ _).mp hnew
    rw [hc, Option.any_some, Option.any_some, hdigit, Bool.true_and, Bool.not_not]
  next hold =>
    rw [(isIdentText_iff.mp h).1]
    cases hc : (unmarked name).head? with
    | none => rfl
    | some c =>
        rw [hc, Option.any_some, Bool.not_eq_true] at hold
        rw [Option.any_some, hold, Bool.false_and, Bool.not_false]

theorem head?_stem_of_losesStart (h : losesStart name = true) :
    (stem name).head?.any (fun c => !isDigit c) = true := by
  obtain ⟨c, hc, hboth⟩ := (Option.any_eq_true _ _).mp h
  rw [Bool.and_eq_true] at hboth
  have hnew : (unmarked name).head?.any (fun c => !isDigit c) = true := by
    rw [hc, Option.any_some]
    exact hboth.1
  rw [stem_eq, if_pos hnew]
  exact hnew

/-! ### Methods -/

theorem isIdentContinue_method {s : List Char} (h : ∀ c ∈ s, isIdentContinue c = true) :
    ∀ c ∈ method s, isIdentContinue c = true := by
  intro c hc
  unfold method at hc
  dsimp only at hc
  split at hc
  · exact isIdentContinue_of_mem_snake h hc
  · exact h c hc

theorem isIdentText_method_iff {s : List Char} (h : ∀ c ∈ s, isIdentContinue c = true) :
    isIdentText (method s) = true ↔ s.head?.any isIdentStart = true := by
  rw [isIdentText_iff, and_iff_left (isIdentContinue_method h)]
  by_cases hsnake : (snake s).head?.any Char.isAlpha = true
  · obtain ⟨c, hc, halpha⟩ := (Option.any_eq_true _ _).mp hsnake
    rw [method_of_alpha hsnake, hc, Option.any_some, iff_true_left (isIdentStart_of_isAlpha halpha)]
    cases s with
    | nil => cases hsnake
    | cons d rest => exact isIdentStart_of_snake hsnake
  · rw [method_of_not_alpha hsnake]

theorem isIdentText_setter {m : List Char} (h : ∀ c ∈ m, isIdentContinue c = true) :
    isIdentText ("set_" ++ String.ofList m).toList = true := by
  have hset : isIdentText "set_".toList = true := by decide
  obtain ⟨hhead, hall⟩ := isIdentText_iff.mp hset
  rw [isIdentText_iff, String.toList_append]
  refine ⟨hhead, fun c hc => ?_⟩
  rw [List.mem_append, String.toList_ofList (l := m)] at hc
  rcases hc with hc | hc
  · exact hall c hc
  · exact h c hc

/-! ### Names -/

theorem checked_eq_ok {n : AccessorName} (hgetter : n.getter.fault? = none) (hsetter : n.setter.fault? = none) :
    n.checked = .ok n := by
  rw [checked, fault?, hgetter, hsetter]
  rfl

theorem checked_eq_error {n : AccessorName} {e : IdentFault} (hgetter : n.getter.fault? = some e) :
    n.checked = .error e := by
  rw [checked, fault?, hgetter]
  rfl

theorem exposed_derive (backing : Label) :
    (derive backing).exposed = String.ofList (pascal (stem backing.name.toList)) := by
  unfold derive
  dsimp only

theorem setter_derive (backing : Label) :
    (derive backing).setter = .plain ("set_" ++ String.ofList (method (stem backing.name.toList))) := by
  unfold derive
  dsimp only

theorem pathWords_isIdentText : ∀ w ∈ pathWords, isIdentText w.toList = true := by decide

/-- No keyword is one of the words that have no raw form. -/
theorem fault?_getterOf {x : Label} {m : String} (hx : isIdentText x.name.toList = true)
    (hm : isIdentText m.toList = true) : (getterOf x m).fault? = none := by
  have hraw : ∀ w ∈ keywords, w ∉ Label.neverRaw := by decide
  by_cases hmem : m ∈ pathWords
  · rw [getterOf_of_mem hmem]
    exact Label.fault?_plain hx
  · rw [getterOf_of_notMem hmem]
    exact Label.fault?_eq_none hm fun hkeyword => hraw m (List.contains_iff_mem.mp hkeyword)

/-- A getter whose method is no identifier fails with it. -/
theorem fault?_getter_of_losesStart {x : Label} (hx : isIdentText x.name.toList = true)
    (h : losesStart x.name.toList = true) :
    (derive x).getter.fault? = some (.malformed (String.ofList (stem x.name.toList))) := by
  have hcontinue := isIdentContinue_stem hx
  have hstart : ¬(stem x.name.toList).head?.any isIdentStart = true := by
    rw [head?_stem hx, h]
    exact Bool.false_ne_true
  -- the method cannot start with a letter, so it is the stem
  have hsnake : ¬(snake (stem x.name.toList)).head?.any Char.isAlpha = true := fun hsnake =>
    hstart ((isIdentText_method_iff hcontinue).mp (by
      rw [method_of_alpha hsnake, isIdentText_iff]
      obtain ⟨c, hc, halpha⟩ := (Option.any_eq_true _ _).mp hsnake
      exact ⟨by rw [hc]; exact isIdentStart_of_isAlpha halpha, fun d => isIdentContinue_of_mem_snake hcontinue⟩))
  have hnot : ¬isIdentText (stem x.name.toList) = true := fun hident => hstart (isIdentText_iff.mp hident).1
  have hmem : String.ofList (stem x.name.toList) ∉ pathWords := fun hmem =>
    hnot (by simpa only [String.toList_ofList] using pathWords_isIdentText _ hmem)
  rw [getter_derive, method_of_not_alpha hsnake, getterOf_of_notMem hmem]
  refine Label.fault?_of_not_isIdentText ?_ ?_
  · rw [String.toList_ofList]
    exact head?_stem_of_losesStart h
  · rwa [String.toList_ofList]

/-- Of the words of the language, all but the path words are written raw as methods. -/
theorem contains_keywords {m : String} (h : m ∉ pathWords) : keywords.contains m = Label.reserved.contains m := by
  have hreserved : ∀ word ∈ Label.reserved, word ∉ pathWords → word ∈ keywords := by decide
  have hkeywords : ∀ word ∈ keywords, word ∈ Label.reserved := by decide
  rw [Bool.eq_iff_iff, List.contains_iff_mem, List.contains_iff_mem]
  exact ⟨hkeywords m, fun hmem => hreserved m hmem h⟩

theorem isReserved_getterOf {x : Label} {m : String} (hmem : m ∉ pathWords) :
    (getterOf x m).isReserved = false := by
  rw [getterOf_of_notMem hmem, Label.isReserved_eq_false_iff]
  intro hplain hword
  have hkeyword : keywords.contains m = true := (contains_keywords hmem).trans (List.contains_iff_mem.mpr hword)
  exact Bool.false_ne_true (hplain.symm.trans hkeyword)

/-- No getter is a word of the language unless the field is. -/
theorem isReserved_getter {x : Ident} (h : x.isReserved = false) : (derive x).getter.isReserved = false := by
  rw [getter_derive]
  by_cases hmem : String.ofList (method (stem x.name.toList)) ∈ pathWords
  · -- a raw field has no name that only a marker could turn into a method
    have hnever : ∀ w ∈ Label.reserved, String.ofList (method (stem w.toList)) ∈ pathWords → w ∈ Label.neverRaw := by
      decide +kernel
    rw [getterOf_of_mem hmem]
    rw [Label.isReserved_eq_false_iff] at h ⊢
    intro _ hword
    cases hraw : x.raw with
    | false => exact h hraw hword
    | true => exact x.notMem_neverRaw hraw (hnever x.name hword hmem)
  · exact isReserved_getterOf hmem

theorem derive?_of_losesStart {x : Ident} (h : losesStart x.name.toList = true) :
    derive? x = .error (.malformed (String.ofList (stem x.name.toList))) :=
  checked_eq_error (fault?_getter_of_losesStart x.isIdentText h)

theorem derive?_of_keepsStart {x : Ident} (h : losesStart x.name.toList = false) :
    derive? x = .ok (derive x) := by
  have hcontinue := isIdentContinue_stem x.isIdentText
  have hmethod : isIdentText (method (stem x.name.toList)) = true := by
    rw [isIdentText_method_iff hcontinue, head?_stem x.isIdentText, h, Bool.not_false]
  refine checked_eq_ok ?_ ?_
  · rw [getter_derive]
    refine fault?_getterOf x.isIdentText ?_
    rwa [String.toList_ofList]
  · rw [setter_derive]
    exact Label.fault?_plain (isIdentText_setter (isIdentContinue_method hcontinue))

/-- Names are derived exactly from the identifiers that do not lose their start.  What fails otherwise is the
stem, and no getter is a word of the language unless the field is. -/
theorem derive?_eq_ok_iff (x : Ident) :
    (derive? x = .ok (derive x) ↔ losesStart x.name.toList = false) ∧
      (losesStart x.name.toList = true →
        derive? x = .error (.malformed (String.ofList (stem x.name.toList)))) ∧
      (x.isReserved = false → (derive x).getter.isReserved = false) := by
  refine ⟨⟨fun hok => ?_, derive?_of_keepsStart⟩, derive?_of_losesStart, isReserved_getter⟩
  by_contra hloses
  rw [derive?_of_losesStart (Bool.not_eq_false _ ▸ hloses)] at hok
  cases hok

/-- Derived names are identifiers. -/
theorem isIdent_of_derive? {x : Ident} {n : AccessorName} (h : derive? x = .ok n) :
    n.getter.isIdent = true ∧ n.setter.isIdent = true := by
  have hnone : (derive x).fault? = none := by
    cases hfault : (derive x).fault? with
    | none => rfl
    | some e => simp [derive?, checked, hfault] at h
  have hn : n = derive x := by
    rw [derive?, checked, hnone] at h
    exact (Except.ok.inj h).symm
  rw [fault?, Option.orElse_eq_orElse, Option.orElse_eq_or, Option.or_eq_none_iff] at hnone
  exact hn ▸ ⟨Label.isIdent_of_fault?_eq_none hnone.1, Label.isIdent_of_fault?_eq_none hnone.2⟩

/-- The field `_1` keeps its marker, so its name is derived. -/
theorem derive?_digit :
    let x := Ident.plain "_1"
    derive? x = .ok (derive x) ∧ (derive x).getter = x ∧ (derive x).getter.isReserved = false := by
  intro x
  obtain ⟨hok, -, hreserved⟩ := derive?_eq_ok_iff x
  exact ⟨hok.mpr (by decide), by decide, hreserved (by decide)⟩

/-- A digit that is not of ASCII loses its marker and with it all that could start a method: no accessor can be
named for the field `_१`. -/
theorem exists_lost_start :
    ∃ x : Ident, x.text = "_१" ∧ x.isReserved = false ∧ derive? x = .error (.malformed "१") ∧
      ∀ n, derive? x ≠ .ok n := by
  have hfails : derive? (.plain "_१" (by decide +kernel)) = .error (.malformed "१") :=
    checked_eq_error (by decide +kernel)
  refine ⟨.plain "_१" (by decide +kernel), rfl, by decide, hfails, fun n hok => ?_⟩
  rw [hfails] at hok
  cases hok

end AccessorName

end AccessorSchema
