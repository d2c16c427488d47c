import AccessorSchema.Diagnostic.Template
import Mathlib.Data.List.Infix

/-! # What a filled template says

A template is read once, from left to right, by the rules of `Fills`: text stays as it is, a place is replaced by
its argument, and an opening brace that begins no place stays too, with the scan going on right behind it.  The
rules leave one result for each template, the one that is computed (`fills_iff`).  None of them looks at an
argument, so what an argument contains is never taken for a place.  `fill_meanings` says what this means for a
template put together from parts, and for one without places. -/

namespace AccessorSchema.Template

/-! ### Places -/

/-- The text spells the number: decimal digits, possibly behind a plus sign, in a machine word. -/
def Spells (text : List Char) (n : Nat) : Prop :=
  ∃ digits, (text = digits ∨ text = '+' :: digits) ∧ digits ≠ [] ∧ (∀ c ∈ digits, c.isDigit = true) ∧
    Nat.ofDigitChars 10 digits 0 = n ∧ n < UInt64.size

/-- What stands behind an opening brace makes it a place with the argument `arg`, and `rest` follows the place. -/
def IsPlace (args : List String) (tail : List Char) (arg : String) (rest : List Char) : Prop :=
  ∃ number n, tail = number ++ '\x7d' :: rest ∧ '\x7d' ∉ number ∧ Spells number n ∧ args[n]? = some arg

/-- The result of filling, rule by rule. -/
inductive Fills (args : List String) : List Char → List Char → Prop
  | nil : Fills args [] []
  | text {c : Char} {tail out : List Char} (hc : c ≠ '\x7b') (h : Fills args tail out) :
      Fills args (c :: tail) (c :: out)
  | place {tail rest out : List Char} {arg : String} (hplace : IsPlace args tail arg rest)
      (h : Fills args rest out) : Fills args ('\x7b' :: tail) (arg.toList ++ out)
  | brace {tail out : List Char} (hbrace : ∀ arg rest, ¬IsPlace args tail arg rest)
      (h : Fills args tail out) : Fills args ('\x7b' :: tail) ('\x7b' :: out)

/-- A part of a template: text without an opening brace, or a place that has an argument.  A place in memory,
and so the number of an argument, is a machine word. -/
inductive Part (args : List String) where
  | text (t : String) (plain : '\x7b' ∉ t.toList)
  | place (n : UInt64) (given : n.toNat < args.length)

namespace Part

variable {args : List String}

def written : Part args → String
  | text t _ => t
  | place n _ => "\x7b" ++ toString n.toNat ++ "\x7d"

def meaning : Part args → String
  | text t _ => t
  | place n _ => args[n.toNat]

end Part

/-- No opening brace has the number of an argument between itself and the next closing brace. -/
def HasNoPlace (args : List String) (template : String) : Prop :=
  ∀ before inside rest n, template.toList = before ++ '\x7b' :: (inside ++ '\x7d' :: rest) → '\x7d' ∉ inside →
    Spells inside n → args.length ≤ n

variable {args : List String} {tail rest out : List Char} {arg : String}

/-! ### Numbers -/

theorem digitsValue_eq (digits : List Char) : digitsValue digits = Nat.ofDigitChars 10 digits 0 := by
  rw [digitsValue, Nat.ofDigitChars_eq_foldl]
  simp only [Nat.mul_comm]

/-- Digits alone have their value, if it fits into a machine word. -/
theorem digitsValue_eq_some_iff (digits : List Char) (n : Nat) :
    (if !digits.isEmpty && digits.all Char.isDigit && digitsValue digits < UInt64.size then
      some (digitsValue digits) else none) = some n ↔
      digits ≠ [] ∧ (∀ c ∈ digits, c.isDigit = true) ∧ Nat.ofDigitChars 10 digits 0 = n ∧
        n < UInt64.size := by
  have hcond : (!digits.isEmpty && digits.all Char.isDigit && decide (digitsValue digits < UInt64.size)) = true ↔
      digits ≠ [] ∧ (∀ c ∈ digits, c.isDigit = true) ∧ digitsValue digits < UInt64.size := by
    simp [and_assoc]
  rw [← digitsValue_eq]
  split
  next h =>
    obtain ⟨hne, hdigits, hsize⟩ := hcond.mp h
    constructor
    · intro hvalue
      obtain rfl := Option.some.inj hvalue
      exact ⟨hne, hdigits, rfl, hsize⟩
    · rintro ⟨-, -, hvalue, -⟩
      rw [hvalue]
  next h =>
    refine iff_of_false (fun hnone => nomatch hnone) ?_
    rintro ⟨hne, hdigits, hvalue, hsize⟩
    exact h (hcond.mpr ⟨hne, hdigits, hvalue ▸ hsize⟩)

theorem number?_eq_some_iff (text : List Char) (n : Nat) : number? text = some n ↔ Spells text n := by
  unfold number? Spells
  dsimp only
  rw [digitsValue_eq_some_iff]
  split
  next digits =>
    constructor
    · intro h
      exact ⟨digits, .inr rfl, h⟩
    · rintro ⟨other, rfl | hother, h⟩
      · exact absurd (h.2.1 '+' List.mem_cons_self) (by decide)
      · exact (List.cons.inj hother).2 ▸ h
  next hplain =>
    constructor
    · intro h
      exact ⟨text, .inl rfl, h⟩
    · rintro ⟨digits, rfl | rfl, h⟩
      · exact h
      · exact absurd rfl (hplain digits)

/-- A number is spelled by its decimal digits, and there is no brace among them. -/
theorem spells_toDigits {n : Nat} (hn : n < UInt64.size) : Spells (Nat.toDigits 10 n) n :=
  ⟨_, .inl rfl, Nat.toDigits_ne_nil, fun _ hc => Nat.isDigit_of_mem_toDigits (by decide) (by decide) hc,
    Nat.ofDigitChars_ten_toDigits, hn⟩

theorem brace_notMem_toDigits (n : Nat) : '\x7d' ∉ Nat.toDigits 10 n := fun h =>
  nomatch Nat.isDigit_of_mem_toDigits (by decide) (by decide) h

/-! ### Places -/

theorem isClosing_eq_false {number : List Char} (h : '\x7d' ∉ number) : ∀ c ∈ number, (!isClosing c) = true := by
  intro c hc
  have hne : c ≠ '\x7d' := fun hbrace => h (hbrace ▸ hc)
  simpa [isClosing] using hne

/-- The first closing brace ends the number and begins the rest. -/
theorem cut_at_brace {number : List Char} (h : '\x7d' ∉ number) (rest : List Char) :
    (number ++ '\x7d' :: rest).takeWhile (!isClosing ·) = number ∧
      behindPlace (number ++ '\x7d' :: rest) = rest := by
  have hopen := isClosing_eq_false h
  constructor
  · rw [List.takeWhile_append_of_pos hopen]
    exact List.append_nil number
  · rw [behindPlace, List.dropWhile_append_of_pos hopen]
    rfl

theorem exists_cut (h : tail.any isClosing = true) :
    ∃ number, tail = number ++ '\x7d' :: behindPlace tail ∧ '\x7d' ∉ number := by
  induction tail with
  | nil => cases h
  | cons c tail ih =>
      by_cases hc : c = '\x7d'
      · subst hc
        exact ⟨[], rfl, List.not_mem_nil⟩
      · have hclosing : isClosing c = false := by simpa [isClosing] using hc
        rw [List.any_cons, hclosing, Bool.false_or] at h
        obtain ⟨number, htail, hnumber⟩ := ih h
        have hbehind : behindPlace (c :: tail) = behindPlace tail := by
          simp [behindPlace, hclosing]
        refine ⟨c :: number, ?_, ?_⟩
        · rw [hbehind, List.cons_append, ← htail]
        · exact List.not_mem_cons_of_ne_of_not_mem (Ne.symm hc) hnumber

/-- A place is what has an argument, and it ends with the first closing brace. -/
theorem argument?_eq_some_iff :
    argument? args tail = some arg ↔ IsPlace args tail arg (behindPlace tail) := by
  unfold argument?
  constructor
  · intro h
    split at h
    next hclosing =>
      obtain ⟨number, htail, hnumber⟩ := exists_cut hclosing
      have htake := (cut_at_brace hnumber (behindPlace tail)).1
      rw [← htail] at htake
      obtain ⟨n, hn, harg⟩ := Option.bind_eq_some_iff.mp h
      rw [htake] at hn
      exact ⟨number, n, htail, hnumber, (number?_eq_some_iff _ _).mp hn, harg⟩
    next => cases h
  · rintro ⟨number, n, htail, hnumber, hn, harg⟩
    have hclosing : tail.any isClosing = true := by
      rw [htail]
      simp [isClosing]
    have htake := (cut_at_brace hnumber (behindPlace tail)).1
    rw [← htail] at htake
    rw [if_pos hclosing, htake, (number?_eq_some_iff _ _).mpr hn]
    exact harg

theorem IsPlace.behind (h : IsPlace args tail arg rest) : behindPlace tail = rest := by
  obtain ⟨number, -, rfl, hnumber, -⟩ := h
  exact (cut_at_brace hnumber rest).2

theorem IsPlace.argument? (h : IsPlace args tail arg rest) : argument? args tail = some arg :=
  argument?_eq_some_iff.mpr (h.behind ▸ h)

theorem argument?_eq_none_iff :
    Template.argument? args tail = none ↔ ∀ arg rest, ¬IsPlace args tail arg rest := by
  rw [Option.eq_none_iff_forall_ne_some]
  constructor
  · intro h arg rest hplace
    exact h arg hplace.argument?
  · intro h arg harg
    exact h arg _ (argument?_eq_some_iff.mp harg)

/-! ### The scan -/

/-- What is computed follows the rules. -/
theorem fills_fillChars (args : List String) (t : List Char) : Fills args t (fillChars args t) := by
  fun_induction fillChars args t with
  | case1 => exact .nil
  | case2 c tail hc arg harg ih =>
      obtain rfl := eq_of_beq hc
      exact .place (argument?_eq_some_iff.mp harg) ih
  | case3 c tail hc hnone ih =>
      obtain rfl := eq_of_beq hc
      exact .brace (argument?_eq_none_iff.mp hnone) ih
  | case4 c tail hc ih => exact .text (fun hbrace => hc (beq_iff_eq.mpr hbrace)) ih

theorem Fills.eq {t : List Char} (h : Fills args t out) : fillChars args t = out := by
  induction h with
  | nil => simp [fillChars]
  | text hc h ih => simp [fillChars, hc, ih]
  | place hplace h ih => simp [fillChars, hplace.argument?, hplace.behind, ih]
  | brace hbrace h ih => simp [fillChars, argument?_eq_none_iff.mpr hbrace, ih]

theorem fills_iff {t : List Char} : Fills args t out ↔ fillChars args t = out :=
  ⟨Fills.eq, fun h => h ▸ fills_fillChars args t⟩

theorem fill_eq_of_fills {template result : String} (h : Fills args template.toList result.toList) :
    fill template args = result := by
  rw [fill, h.eq, String.ofList_toList]

/-! ### Parts -/

/-- Text in front stays as it is. -/
theorem Fills.append {t : List Char} (h : Fills args tail out) (ht : '\x7b' ∉ t) :
    Fills args (t ++ tail) (t ++ out) := by
  induction t with
  | nil => exact h
  | cons c t ih =>
      obtain ⟨hc, ht⟩ := not_or.mp (List.mem_cons.not.mp ht)
      exact .text (Ne.symm hc) (ih ht)

theorem isPlace_written {n : UInt64} (given : n.toNat < args.length) (rest : List Char) :
    IsPlace args (Nat.toDigits 10 n.toNat ++ '\x7d' :: rest) args[n.toNat] rest :=
  ⟨_, _, rfl, brace_notMem_toDigits _, spells_toDigits n.toNat_lt, List.getElem?_eq_getElem given⟩

/-- Each part is filled by itself. -/
theorem fills_parts (parts : List (Part args)) :
    Fills args (parts.flatMap (·.written.toList)) (parts.flatMap (·.meaning.toList)) := by
  induction parts with
  | nil => exact .nil
  | cons p parts ih =>
      rw [List.flatMap_cons, List.flatMap_cons]
      cases p with
      | text t plain => exact ih.append plain
      | place n given =>
          have hwritten : (Part.place n given).written.toList ++ parts.flatMap (·.written.toList) =
              '\x7b' :: (Nat.toDigits 10 n.toNat ++ '\x7d' :: parts.flatMap (·.written.toList)) := by
            simp [Part.written]
          rw [hwritten]
          exact .place (isPlace_written given _) ih

/-! ### No places -/

theorem fills_self {t : List Char}
    (h : ∀ before tail arg rest, t = before ++ '\x7b' :: tail → ¬IsPlace args tail arg rest) :
    Fills args t t := by
  induction t with
  | nil => exact .nil
  | cons c tail ih =>
      have htail : Fills args tail tail := ih fun before tail' arg rest heq =>
        h (c :: before) tail' arg rest (congrArg (c :: ·) heq)
      by_cases hc : c = '\x7b'
      · subst hc
        exact .brace (fun arg rest => h [] tail arg rest rfl) htail
      · exact .text hc htail

theorem HasNoPlace.not_isPlace {template : String} (h : HasNoPlace args template) {before : List Char}
    (heq : template.toList = before ++ '\x7b' :: tail) : ¬IsPlace args tail arg rest := by
  rintro ⟨number, n, rfl, hnumber, hspells, harg⟩
  obtain ⟨hn, -⟩ := List.getElem?_eq_some_iff.mp harg
  exact absurd hn (Nat.not_lt.mpr (h before number rest n heq hnumber hspells))

/-- Enough to look behind each opening brace. -/
theorem hasNoPlace_iff {template : String} : HasNoPlace args template ↔
    ∀ l ∈ template.toList.tails, l.head? = some '\x7b' → argument? args l.tail = none := by
  constructor
  · intro h l hl hbrace
    obtain ⟨before, heq⟩ := (List.mem_tails _ _).mp hl
    obtain ⟨tail, rfl⟩ := List.head?_eq_some_iff.mp hbrace
    exact argument?_eq_none_iff.mpr fun _ _ => h.not_isPlace heq.symm
  · intro h before inside rest n heq hinside hspells
    by_contra hn
    have hplace : IsPlace args (inside ++ '\x7d' :: rest) args[n] rest :=
      ⟨inside, n, rfl, hinside, hspells, List.getElem?_eq_getElem (Nat.lt_of_not_le hn)⟩
    have hnone := h ('\x7b' :: (inside ++ '\x7d' :: rest)) ((List.mem_tails _ _).mpr ⟨before, heq.symm⟩) rfl
    exact argument?_eq_none_iff.mp hnone _ _ hplace

instance (args : List String) (template : String) : Decidable (HasNoPlace args template) :=
  decidable_of_iff _ hasNoPlace_iff.symm

/-- A template made of parts is filled part by part, whatever is put in, and a template without places is not
changed, whatever braces it has. -/
theorem fill_meanings (args : List String) :
    (∀ parts : List (Part args),
      fill (String.join (parts.map (·.written))) args = String.join (parts.map (·.meaning))) ∧
    ∀ template, HasNoPlace args template → fill template args = template := by
  constructor
  · intro parts
    refine fill_eq_of_fills ?_
    rw [String.toList_join, String.toList_join, List.flatMap_map, List.flatMap_map]
    exact fills_parts parts
  · intro template h
    exact fill_eq_of_fills (fills_self fun _ _ _ _ heq => h.not_isPlace heq)

/-- An argument that looks like a place is put in as it is, and braces around no argument stay. -/
theorem fill_meanings_braces :
    (fill "\x7b0\x7d\x7d\x7b1\x7d" ["\x7b1\x7d", "b"] = "\x7b1\x7d\x7db") ∧
      HasNoPlace ["a"] "\x7b3\x7d \x7b\x7bx\x7d \x7b0" ∧
        fill "\x7b3\x7d \x7b\x7bx\x7d \x7b0" ["a"] = "\x7b3\x7d \x7b\x7bx\x7d \x7b0" := by
  have hnone : HasNoPlace ["a"] "\x7b3\x7d \x7b\x7bx\x7d \x7b0" := by decide +kernel
  refine ⟨?_, hnone, (fill_meanings ["a"]).2 _ hnone⟩
  exact (fill_meanings ["\x7b1\x7d", "b"]).1
    [.place 0 (by decide), .text "\x7d" (by decide), .place 1 (by decide)]

end AccessorSchema.Template
