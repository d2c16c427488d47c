import AccessorSchema.Proofs.Derivation

/-! # Spellings of a name

A name made of words may be spelled in several ways: the words joined by `_`, or run together with capitals
between them, and either of them behind a storage marker.  Cutting a spelling into words gives the words back,
with the capitals that they were given (`words_snakeCase`, `words_camelCase`), so what is derived from it
depends on the words alone.  `derive_write` says what that is.  The one exception is a getter that has to keep
its marker. -/

namespace AccessorSchema

namespace Text

/-! ### Small letters and capitals -/

variable {c d : Char} {w : List Char}

theorem isAscii_of_isLower (hc : c.isLower = true) : isAscii c = true :=
  isAscii_of_isAlpha (by rw [Char.isAlpha, hc, Bool.or_true])

/-- What a small letter is to the words, and what its capital is. -/
theorem classes_of_isLower (hc : c.isLower = true) :
    (isLower [c] = true ∧ isUpper [c] = false ∧ isNumeral [c] = false ∧ isDelimiter [c] = false) ∧
      isUpper [c.toUpper] = true ∧ isLower [c.toUpper] = false ∧ isNumeral [c.toUpper] = false ∧
        isDelimiter [c.toUpper] = false :=
  forall_ascii (fun c => c.isLower = true →
    (isLower [c] = true ∧ isUpper [c] = false ∧ isNumeral [c] = false ∧ isDelimiter [c] = false) ∧
      isUpper [c.toUpper] = true ∧ isLower [c.toUpper] = false ∧ isNumeral [c.toUpper] = false ∧
        isDelimiter [c.toUpper] = false) (by decide +kernel) (isAscii_of_isLower hc) hc

theorem toLower_of_isLower (hc : c.isLower = true) : c.toLower = c :=
  Char.toLower_eq_of_not_isUpper (Char.not_isUpper_of_isLower hc)

theorem isAscii_toUpper (hc : isAscii c = true) : isAscii c.toUpper = true :=
  forall_ascii (fun c => isAscii c.toUpper = true) (by decide +kernel) hc

/-- A small letter ends a word only in front of a capital or a digit. -/
theorem endsWord_of_isLower (hc : c.isLower = true) (ls : List (List Char)) :
    endsWord [c] ls = ls.head?.any fun l => isUpper l || isNumeral l := by
  obtain ⟨⟨hlower, hupper, hnumeral, -⟩, -⟩ := classes_of_isLower hc
  have hchanges : ∀ l, changes [c] l = (isUpper l || isNumeral l) := fun l => by
    rw [changes, hlower, hupper, hnumeral, Bool.true_and, Bool.false_and, Bool.false_and, Bool.or_false,
      Bool.or_false]
  match ls with
  | [] => rfl
  | [l] => exact hchanges l
  | l :: m :: _ =>
      rw [endsWord, hchanges, hupper, Bool.false_and, Bool.false_and, Bool.or_false, List.head?_cons,
        Option.any_some]

/-- A small letter is of one word with the small letter behind it. -/
theorem endsWord_small (hc : c.isLower = true) (hd : d.isLower = true) (ls : List (List Char)) :
    endsWord [c] ([d] :: ls) = false := by
  obtain ⟨⟨-, hupper, hnumeral, -⟩, -⟩ := classes_of_isLower hd
  rw [endsWord_of_isLower hc, List.head?_cons, Option.any_some, hupper, hnumeral, Bool.false_or]

/-- So is a capital. -/
theorem endsWord_toUpper (hc : c.isLower = true) (hd : d.isLower = true) (ls : List (List Char)) :
    endsWord [c.toUpper] ([d] :: ls) = false := by
  obtain ⟨-, hupper, hlower, hnumeral, -⟩ := classes_of_isLower hc
  obtain ⟨⟨-, hupper', hnumeral', -⟩, -⟩ := classes_of_isLower hd
  have hchanges : changes [c.toUpper] [d] = false := by
    rw [changes, hlower, hnumeral, hnumeral', Bool.false_and, Bool.and_false, Bool.false_and, Bool.or_false,
      Bool.or_false]
  cases ls with
  | nil => exact hchanges
  | cons m ls => rw [endsWord, hchanges, hupper', Bool.and_false, Bool.false_and, Bool.or_false]

/-! ### Words gathered -/

/-- A letter that ends no word goes to the word behind it. -/
theorem gather_cons {l v : List Char} {ls vs : List (List Char)} (hdelim : isDelimiter l = false)
    (hends : endsWord l ls = false) (h : gather ls = v :: vs) : gather (l :: ls) = (l ++ v) :: vs := by
  rw [gather, if_neg (Bool.eq_false_iff.mp hdelim), if_neg (Bool.eq_false_iff.mp hends), h]

/-- Small letters go to the word behind them unless it starts with a capital or a digit. -/
theorem gather_small {ls vs : List (List Char)} {v : List Char} (hw : ∀ c ∈ w, c.isLower = true)
    (hls : (ls.head?.any fun l => isUpper l || isNumeral l) = false) (h : gather ls = v :: vs) :
    gather (w.map ([·]) ++ ls) = (w ++ v) :: vs := by
  induction w with
  | nil => exact h
  | cons c w ih =>
      rw [List.forall_mem_cons] at hw
      obtain ⟨⟨-, -, -, hdelim⟩, -⟩ := classes_of_isLower hw.1
      refine gather_cons hdelim ?_ (ih hw.2)
      cases w with
      | nil => exact (endsWord_of_isLower hw.1 ls).trans hls
      | cons d w => exact endsWord_small hw.1 (hw.2 d List.mem_cons_self) _

/-- Small letters in front of a capital are a word. -/
theorem gather_small_upper {l : List Char} {ls : List (List Char)} (hw : ∀ c ∈ w, c.isLower = true)
    (hne : w ≠ []) (hl : isUpper l = true) : gather (w.map ([·]) ++ l :: ls) = w :: gather (l :: ls) := by
  induction w with
  | nil => exact absurd rfl hne
  | cons c w ih =>
      rw [List.forall_mem_cons] at hw
      obtain ⟨⟨-, -, -, hdelim⟩, -⟩ := classes_of_isLower hw.1
      cases w with
      | nil =>
          have hends : endsWord [c] (l :: ls) = true := by
            rw [endsWord_of_isLower hw.1, List.head?_cons, Option.any_some, hl, Bool.true_or]
          rw [List.map_singleton, List.singleton_append, gather, if_neg (Bool.eq_false_iff.mp hdelim), if_pos hends]
      | cons d w =>
          exact gather_cons hdelim (endsWord_small hw.1 (hw.2 d List.mem_cons_self) _)
            (ih hw.2 (List.cons_ne_nil d w))

end Text

open Text AccessorName

/-! ### Words and their spellings -/

/-- A word of two small letters at least. -/
structure Word where
  letters : List Char
  two_le : 2 ≤ letters.length
  small : ∀ c ∈ letters, c.isLower = true

namespace Word

variable (w : Word)

def capitalized : List Char :=
  match w.letters with
  | [] => []
  | c :: rest => c.toUpper :: rest

theorem exists_letters : ∃ c d rest, w.letters = c :: d :: rest := by
  match h : w.letters, w.two_le with
  | c :: d :: rest, _ => exact ⟨c, d, rest, rfl⟩

theorem letters_ne_nil : w.letters ≠ [] := by
  obtain ⟨c, d, rest, h⟩ := w.exists_letters
  rw [h]
  exact List.cons_ne_nil _ _

theorem all_isAscii : w.letters.all isAscii = true :=
  List.all_eq_true.mpr fun c hc => isAscii_of_isLower (w.small c hc)

theorem underscore_notMem : '_' ∉ w.letters := fun h => nomatch w.small '_' h

theorem lower_letters : lower w.letters = w.letters := by
  rw [lower_ascii w.all_isAscii]
  exact (List.map_congr_left fun c hc => toLower_of_isLower (w.small c hc)).trans (List.map_id' _)

theorem all_isAscii_capitalized : w.capitalized.all isAscii = true := by
  have hall := w.all_isAscii
  obtain ⟨c, d, rest, h⟩ := w.exists_letters
  rw [h, List.all_cons, Bool.and_eq_true] at hall
  rw [capitalized, h, List.all_cons, isAscii_toUpper hall.1, hall.2, Bool.and_true]

theorem lower_capitalized : lower w.capitalized = w.letters := by
  have hsmall := w.small
  have hlower := w.lower_letters
  rw [lower_ascii w.all_isAscii_capitalized]
  rw [lower_ascii w.all_isAscii] at hlower
  obtain ⟨c, d, rest, h⟩ := w.exists_letters
  rw [h, List.map_cons] at hlower
  rw [h, List.forall_mem_cons] at hsmall
  rw [capitalized, h, List.map_cons, Char.toLower_toUpper_eq_toLower, toLower_of_isLower hsmall.1, (List.cons.inj hlower).2]

theorem capitalize_letters : capitalize w.letters = w.capitalized := by
  have hall := w.all_isAscii
  have hlower := w.lower_letters
  rw [lower_ascii hall] at hlower
  obtain ⟨c, d, rest, h⟩ := w.exists_letters
  rw [h, List.map_cons] at hlower
  rw [h, List.all_cons, Bool.and_eq_true] at hall
  rw [capitalized, h, capitalize, upperChars_ascii hall.1, lower_ascii hall.2, (List.cons.inj hlower).2,
    List.singleton_append]

end Word

/-- The words joined by `_`. -/
def snakeCase (ws : List Word) : List Char := ['_'].intercalate (ws.map Word.letters)

/-- The words run together, each with a capital. -/
def pascalCase (ws : List Word) : List Char := (ws.map Word.capitalized).flatten

/-- The words run together, all but the first with a capital. -/
def camelCase : List Word → List Char
  | [] => []
  | w :: ws => w.letters ++ pascalCase ws

/-- What marks a name as storage. -/
inductive Marker where
  /-- A run of underscores, or none. -/
  | underscores (count : Nat)
  /-- `m_`, and more underscores behind it. -/
  | member (count : Nat)

def Marker.text : Marker → List Char
  | underscores k => List.replicate k '_'
  | member k => 'm' :: '_' :: List.replicate k '_'

inductive Convention where
  | snake
  | camel

structure Spelling where
  marker : Marker
  convention : Convention

namespace Spelling

def body (s : Spelling) (ws : List Word) : List Char :=
  match s.convention with
  | .snake => snakeCase ws
  | .camel => camelCase ws

def write (s : Spelling) (ws : List Word) : String := String.ofList (s.marker.text ++ s.body ws)

end Spelling

/-! ### Spellings cut into words -/

theorem all_isAscii_snakeCase (ws : List Word) : (snakeCase ws).all isAscii = true := by
  refine List.all_eq_true.mpr fun c hc => ?_
  rcases of_mem_intercalate hc with rfl | ⟨l, hl, hcl⟩
  · rfl
  · obtain ⟨w, -, rfl⟩ := List.mem_map.mp hl
    exact List.all_eq_true.mp w.all_isAscii c hcl

theorem all_isAscii_pascalCase (ws : List Word) : (pascalCase ws).all isAscii = true := by
  refine List.all_eq_true.mpr fun c hc => ?_
  obtain ⟨l, hl, hcl⟩ := List.mem_flatten.mp hc
  obtain ⟨w, -, rfl⟩ := List.mem_map.mp hl
  exact List.all_eq_true.mp w.all_isAscii_capitalized c hcl

theorem all_isAscii_camelCase (ws : List Word) : (camelCase ws).all isAscii = true := by
  cases ws with
  | nil => rfl
  | cons w ws => rw [camelCase, List.all_append, w.all_isAscii, all_isAscii_pascalCase, Bool.and_true]

theorem words_snakeCase (w : Word) (ws : List Word) : words (snakeCase (w :: ws)) = (w :: ws).map Word.letters := by
  rw [words, letters_of_ascii _ (all_isAscii_snakeCase _)]
  induction ws generalizing w with
  | nil =>
      have hlast : gather (w.letters.map ([·]) ++ []) = [w.letters ++ []] := gather_small w.small rfl rfl
      rw [List.append_nil, List.append_nil] at hlast
      rwa [snakeCase, List.map_singleton, List.intercalate_singleton]
  | cons u us ih =>
      have hfirst : gather ((snakeCase (w :: u :: us)).map ([·])) =
          (w.letters ++ []) :: gather ((snakeCase (u :: us)).map ([·])) := by
        rw [snakeCase, List.map_cons, List.map_cons, List.intercalate_cons_cons, List.append_assoc, List.map_append]
        exact gather_small w.small rfl rfl
      rw [hfirst, ih u, List.append_nil, ← List.map_cons]

/-- Each capital starts a word, and no other letter does. -/
theorem gather_pascalCase {small : List Char} (hsmall : ∀ c ∈ small, c.isLower = true) (hne : small ≠ [])
    (ws : List Word) :
    gather ((small ++ pascalCase ws).map ([·])) = small :: ws.map Word.capitalized := by
  induction ws generalizing small with
  | nil =>
      have hlast : gather (small.map ([·]) ++ []) = [small ++ []] := gather_small hsmall rfl rfl
      rw [List.append_nil, List.append_nil] at hlast
      rwa [pascalCase, List.map_nil, List.flatten_nil, List.append_nil]
  | cons u us ih =>
      have hletters := u.small
      obtain ⟨c, d, rest, hu⟩ := u.exists_letters
      rw [hu, List.forall_mem_cons] at hletters
      obtain ⟨-, hupper, -, -, hdelim⟩ := classes_of_isLower hletters.1
      have hcapital : u.capitalized = c.toUpper :: d :: rest := by rw [Word.capitalized, hu]
      -- what stands behind the capital is a word already, and it takes the capital in
      have hrest := ih hletters.2 (List.cons_ne_nil d rest)
      have hword : gather ([c.toUpper] :: ((d :: rest) ++ pascalCase us).map ([·])) =
          u.capitalized :: us.map Word.capitalized := by
        rw [hcapital]
        exact gather_cons hdelim (endsWord_toUpper hletters.1 (hletters.2 d List.mem_cons_self) _) hrest
      have hsplit : (small ++ pascalCase (u :: us)).map ([·]) =
          small.map ([·]) ++ [c.toUpper] :: ((d :: rest) ++ pascalCase us).map ([·]) := by
        rw [pascalCase, List.map_cons, List.flatten_cons, hcapital, List.map_append, List.cons_append, List.map_cons]
        rfl
      rw [hsplit, gather_small_upper hsmall hne hupper, hword, List.map_cons]

theorem words_camelCase (w : Word) (ws : List Word) :
    words (camelCase (w :: ws)) = w.letters :: ws.map Word.capitalized := by
  rw [words, letters_of_ascii _ (all_isAscii_camelCase _)]
  exact gather_pascalCase w.small w.letters_ne_nil ws

namespace Spelling

variable (s : Spelling) (w : Word) (ws : List Word)

theorem all_isAscii_body : (s.body ws).all isAscii = true := by
  unfold body
  cases s.convention with
  | snake => exact all_isAscii_snakeCase ws
  | camel => exact all_isAscii_camelCase ws

theorem snake_body : snake (s.body (w :: ws)) = snakeCase (w :: ws) := by
  have hlower : (ws.map Word.capitalized).map lower = ws.map Word.letters := by
    rw [List.map_map]
    exact List.map_congr_left fun u _ => u.lower_capitalized
  have hsmall : (ws.map Word.letters).map lower = ws.map Word.letters := by
    rw [List.map_map]
    exact List.map_congr_left fun u _ => u.lower_letters
  unfold body
  cases s.convention with
  | snake =>
      rw [snake, words_snakeCase, List.map_cons, List.map_cons, w.lower_letters, hsmall, ← List.map_cons, snakeCase]
  | camel => rw [snake, words_camelCase, List.map_cons, w.lower_letters, hlower, ← List.map_cons, snakeCase]

theorem pascal_body : pascal (s.body (w :: ws)) = pascalCase (w :: ws) := by
  have hsplit : (snakeCase (w :: ws)).splitOn '_' = (w :: ws).map Word.letters := by
    refine List.splitOn_intercalate '_' ?_ (List.cons_ne_nil _ _)
    intro l hl
    obtain ⟨u, -, rfl⟩ := List.mem_map.mp hl
    exact u.underscore_notMem
  rw [pascal_of_snake (s.all_isAscii_body _), snake_body, hsplit, List.map_map, pascalCase]
  exact congrArg List.flatten (List.map_congr_left fun u _ => u.capitalize_letters)

theorem exists_body : ∃ c d rest, s.body (w :: ws) = c :: d :: rest ∧ c.isLower = true ∧ d.isLower = true := by
  have hprefix : ∃ rest, s.body (w :: ws) = w.letters ++ rest := by
    unfold body
    cases s.convention with
    | snake =>
        cases ws with
        | nil => exact ⟨[], by rw [snakeCase, List.map_singleton, List.intercalate_singleton, List.append_nil]⟩
        | cons u us =>
            rw [snakeCase, List.map_cons, List.map_cons, List.intercalate_cons_cons, List.append_assoc]
            exact ⟨_, rfl⟩
    | camel => exact ⟨_, rfl⟩
  have hsmall := w.small
  obtain ⟨rest, hrest⟩ := hprefix
  obtain ⟨c, d, more, hw⟩ := w.exists_letters
  rw [hw, List.forall_mem_cons, List.forall_mem_cons] at hsmall
  exact ⟨c, d, more ++ rest, by rw [hrest, hw, List.cons_append, List.cons_append], hsmall.1, hsmall.2.1⟩

/-- The marker is taken off, and nothing else is. -/
theorem stem_text_append : stem (s.marker.text ++ s.body (w :: ws)) = s.body (w :: ws) := by
  obtain ⟨c, d, rest, hbody, hc, hd⟩ := s.exists_body w ws
  have hplain : ∀ e : Char, e.isLower = true → e ≠ '_' := by
    rintro e he rfl
    exact nomatch he
  have hunmarked : unmarked (s.marker.text ++ c :: d :: rest) = c :: d :: rest := by
    unfold unmarked
    cases s.marker with
    | underscores k =>
        cases k with
        | zero =>
            have hkept : dropMarker (c :: d :: rest) = c :: d :: rest := by
              rcases dropMarker_cases (c :: d :: rest) with h | h
              · exact h
              · exact absurd (List.cons.inj (List.cons.inj h).2).1 (hplain d hd)
            show (dropMarker (c :: d :: rest)).dropWhile (· == '_') = _
            rw [hkept]
            exact dropWhile_underscores 0 (hplain c hc) (d :: rest)
        | succ k => exact dropWhile_underscores (k + 1) (hplain c hc) (d :: rest)
    | member k => exact dropWhile_underscores k (hplain c hc) (d :: rest)
  have hdigit : isDigit c = false := isDigit_of_isIdentStart (isIdentStart_of_isAlpha (by
    rw [Char.isAlpha, hc, Bool.or_true]))
  rw [stem_eq, hbody, hunmarked, List.head?_cons, Option.any_some, hdigit, Bool.not_false, if_pos rfl]

theorem method_body : method (s.body (w :: ws)) = snakeCase (w :: ws) := by
  obtain ⟨c, d, rest, hbody, hc, -⟩ := s.exists_body w ws
  have halpha : (s.body (w :: ws)).head?.any Char.isAlpha = true := by
    rw [hbody, List.head?_cons, Option.any_some, Char.isAlpha, hc, Bool.or_true]
  rw [method_of_alpha (alpha_snake (s.all_isAscii_body _) halpha), snake_body]

end Spelling

/-! ### Names derived from spellings -/

/-- A single word that names no method. -/
def isPathWord : List Word → Bool
  | [w] => smallPathWords.contains (String.ofList w.letters)
  | _ => false

theorem snakeCase_mem_pathWords_iff (w : Word) (ws : List Word) :
    String.ofList (snakeCase (w :: ws)) ∈ pathWords ↔ isPathWord (w :: ws) = true := by
  cases ws with
  | nil =>
      rw [snakeCase, List.map_singleton, List.intercalate_singleton, isPathWord, List.contains_iff_mem]
      refine ⟨fun hmem => mem_smallPathWords hmem fun c hc => ?_, fun hmem => ?_⟩
      · rw [String.toList_ofList] at hc
        exact toLower_of_isLower (w.small c hc)
      · have hsub : ∀ word ∈ smallPathWords, word ∈ pathWords := by decide
        exact hsub _ hmem
  | cons u us =>
      have hplain : ∀ word ∈ pathWords, '_' ∉ word.toList := by decide
      refine iff_of_false (fun hmem => hplain _ hmem ?_) Bool.false_ne_true
      rw [String.toList_ofList, snakeCase, List.map_cons, List.map_cons, List.intercalate_cons_cons]
      exact List.mem_append_left _ (List.mem_append_right _ (List.mem_singleton_self '_'))

/-- All spellings of the same words are given the same names, which are the words in the one form or the other.
A getter is raw if it would be a word of the language; where it cannot be raw, it keeps the name of the field. -/
theorem derive_write (s : Spelling) (w : Word) (ws : List Word) (raw : Bool) :
    let x : Label := ⟨s.write (w :: ws), raw⟩
    let m := String.ofList (snakeCase (w :: ws))
    (derive x).exposed = String.ofList (pascalCase (w :: ws)) ∧ (derive x).setter = .plain ("set_" ++ m) ∧
      (derive x).getter = if isPathWord (w :: ws) then .plain x.name else ⟨m, Label.reserved.contains m⟩ := by
  intro x m
  have hstem : stem x.name.toList = s.body (w :: ws) := by
    show stem (s.write (w :: ws)).toList = _
    rw [Spelling.write, String.toList_ofList, s.stem_text_append]
  have hmethod : String.ofList (method (stem x.name.toList)) = m := by rw [hstem, s.method_body]
  refine ⟨?_, ?_, ?_⟩
  · rw [exposed_derive, hstem, s.pascal_body]
  · rw [setter_derive, hmethod]
  · rw [getter_derive, hmethod]
    by_cases hpath : isPathWord (w :: ws) = true
    · rw [if_pos hpath, getterOf_of_mem ((snakeCase_mem_pathWords_iff w ws).mpr hpath)]
    · have hmem : m ∉ pathWords := fun hmem => hpath ((snakeCase_mem_pathWords_iff w ws).mp hmem)
      rw [if_neg hpath, getterOf_of_notMem hmem, contains_keywords hmem]

example : derive (.plain "m_maxHp") = ⟨"MaxHp", .plain "max_hp", .plain "set_max_hp"⟩ := by decide

end AccessorSchema
