import AccessorSchema.Text.Words
import Mathlib

/-! # Words of ASCII names

In ASCII the words of a name can be read off its form in small letters again, because no word has a `_` in
it (`splitOn_snake`).  So the form in capitals follows from that in small letters (`pascal_of_snake`).
Where a name starts with a letter, so does its form in small letters (`head?_snake`), and a name of one word
is that word (`eq_of_words_singleton`). -/

namespace AccessorSchema.Text

/-! ### Characters -/

/-- What holds of the first 128 characters holds of all in ASCII. -/
theorem forall_ascii (P : Char → Prop) (h : ∀ n < 128, P (Char.ofNat n)) {c : Char} (hc : isAscii c = true) :
    P c := by
  have hn : c.toNat < 128 := of_decide_eq_true hc
  have := h c.toNat hn
  rwa [Char.ofNat_toNat] at this

theorem isAscii_toLower {c : Char} (hc : isAscii c = true) : isAscii c.toLower = true :=
  forall_ascii (fun c => isAscii c.toLower = true) (by decide +kernel) hc

theorem toLower_eq_underscore {c : Char} (hc : isAscii c = true) (h : c.toLower = '_') : c = '_' :=
  forall_ascii (fun c => c.toLower = '_' → c = '_') (by decide +kernel) hc h

theorem isDelimiter_of_isAlpha {c : Char} (h : c.isAlpha = true) : isDelimiter [c] = false := by
  rw [Bool.eq_false_iff]
  intro hdelim
  simp only [isDelimiter, Bool.or_eq_true, beq_iff_eq, List.cons.injEq, and_true] at hdelim
  rcases hdelim with (rfl | rfl) | rfl <;> revert h <;> decide

/-! ### Small and capital letters -/

variable {name : List Char}

theorem lower_ascii (h : name.all isAscii = true) : lower name = name.map Char.toLower := by
  have hfrom : ∀ before, lowerFrom before name = name.map Char.toLower := by
    induction name with
    | nil => exact fun _ => rfl
    | cons c rest ih =>
        rw [List.all_cons, Bool.and_eq_true] at h
        intro before
        rw [lowerFrom_ascii h.1, ih h.2, List.map_cons]
  exact hfrom []

theorem all_isAscii_lower (h : name.all isAscii = true) : (lower name).all isAscii = true := by
  rw [lower_ascii h, List.all_map]
  exact List.all_eq_true.mpr fun c hc => isAscii_toLower (List.all_eq_true.mp h c hc)

/-- Capitals do not depend on what was a capital before. -/
theorem capitalize_lower (h : name.all isAscii = true) : capitalize (lower name) = capitalize name := by
  cases name with
  | nil => rfl
  | cons c rest =>
      have hall := h
      rw [List.all_cons, Bool.and_eq_true] at h
      have hlower : lower (lower rest) = lower rest := by
        rw [lower_ascii (all_isAscii_lower h.2), lower_ascii h.2, List.map_map]
        exact List.map_congr_left fun d _ => d.toLower_toLower_eq_toLower
      rw [lower_ascii hall, List.map_cons, capitalize, ← lower_ascii h.2, hlower,
        upperChars_ascii (isAscii_toLower h.1), Char.toUpper_toLower_eq_toUpper, capitalize, upperChars_ascii h.1]

/-! ### Words -/

theorem words_ne_nil (name : List Char) : words name ≠ [] := gather_ne_nil _

/-- A word is made of characters of the name. -/
theorem mem_of_mem_words {w : List Char} (hw : w ∈ words name) {c : Char} (hc : c ∈ w) : c ∈ name := by
  have hflat : c ∈ (words name).flatten := List.mem_flatten.mpr ⟨w, hw, hc⟩
  rw [words_flatten] at hflat
  obtain ⟨l, hl, hcl⟩ := List.mem_flatten.mp hflat
  rw [← letters_flatten name]
  exact List.mem_flatten.mpr ⟨l, List.mem_of_mem_filter hl, hcl⟩

/-- In ASCII none of them is a delimiter. -/
theorem isDelimiter_of_mem_words (h : name.all isAscii = true) {w : List Char} (hw : w ∈ words name) {c : Char}
    (hc : c ∈ w) : isDelimiter [c] = false := by
  have hflat : c ∈ (words name).flatten := List.mem_flatten.mpr ⟨w, hw, hc⟩
  rw [words_flatten, letters_of_ascii name h] at hflat
  obtain ⟨l, hl, hcl⟩ := List.mem_flatten.mp hflat
  obtain ⟨hmem, hdelim⟩ := List.mem_filter.mp hl
  obtain ⟨d, -, rfl⟩ := List.mem_map.mp hmem
  rw [List.mem_singleton.mp hcl]
  simpa using hdelim

theorem all_isAscii_of_mem_words (h : name.all isAscii = true) {w : List Char} (hw : w ∈ words name) :
    w.all isAscii = true :=
  List.all_eq_true.mpr fun _ hc => List.all_eq_true.mp h _ (mem_of_mem_words hw hc)

/-- The words of a name are found again in its form in small letters. -/
theorem splitOn_snake (h : name.all isAscii = true) :
    (snake name).splitOn '_' = (words name).map lower := by
  refine List.splitOn_intercalate '_' ?_ (by simp [words_ne_nil])
  intro l hl hmem
  obtain ⟨w, hw, rfl⟩ := List.mem_map.mp hl
  rw [lower_ascii (all_isAscii_of_mem_words h hw)] at hmem
  obtain ⟨c, hc, hlower⟩ := List.mem_map.mp hmem
  have hdelim := isDelimiter_of_mem_words h hw hc
  rw [toLower_eq_underscore (List.all_eq_true.mp h c (mem_of_mem_words hw hc)) hlower] at hdelim
  cases hdelim

/-- Names with one form in small letters have one form in capitals. -/
theorem pascal_of_snake (h : name.all isAscii = true) :
    pascal name = (((snake name).splitOn '_').map capitalize).flatten := by
  rw [splitOn_snake h, List.map_map, pascal]
  refine congrArg List.flatten (List.map_congr_left fun w hw => ?_)
  exact (capitalize_lower (all_isAscii_of_mem_words h hw)).symm

theorem of_mem_intercalate {α : Type} {x c : α} {ls : List (List α)} (h : c ∈ [x].intercalate ls) :
    c = x ∨ ∃ l ∈ ls, c ∈ l := by
  induction ls with
  | nil => cases h
  | cons l rest ih =>
      cases rest with
      | nil => exact .inr ⟨l, List.mem_singleton_self l, by simpa using h⟩
      | cons m rest =>
          rw [List.intercalate_cons_cons, List.mem_append, List.mem_append, List.mem_singleton] at h
          rcases h with (hl | hx) | hrest
          · exact .inr ⟨l, List.mem_cons_self, hl⟩
          · exact .inl hx
          · exact (ih hrest).imp id fun ⟨k, hk, hc⟩ => ⟨k, List.mem_cons_of_mem l hk, hc⟩

/-- The form in small letters holds no capitals. -/
theorem toLower_of_mem_snake (h : name.all isAscii = true) {c : Char} (hc : c ∈ snake name) :
    c.toLower = c := by
  rcases of_mem_intercalate hc with rfl | ⟨l, hl, hcl⟩
  · rfl
  · obtain ⟨w, hw, rfl⟩ := List.mem_map.mp hl
    have hascii := all_isAscii_of_mem_words h hw
    rw [lower_ascii hascii] at hcl
    obtain ⟨d, -, rfl⟩ := List.mem_map.mp hcl
    exact d.toLower_toLower_eq_toLower

theorem exists_letters_cons (c : Char) (rest : List Char) : ∃ l ls, letters (c :: rest) = (c :: l) :: ls := by
  rw [letters]
  split
  · exact ⟨[], [], rfl⟩
  · split
    · exact ⟨_, _, rfl⟩
    · exact ⟨[], _, rfl⟩

/-- The first word is empty, behind a delimiter, or starts like the name. -/
theorem exists_words_cons (c : Char) (rest : List Char) :
    ∃ w ws, words (c :: rest) = w :: ws ∧ (w = [] ∧ isDelimiter [c] = true ∨ ∃ v, w = c :: v) := by
  have hdelim : ∀ l, isDelimiter (c :: l) = true → isDelimiter [c] = true := by
    intro l h
    simp only [isDelimiter, Bool.or_eq_true, beq_iff_eq, List.cons.injEq] at h ⊢
    tauto
  obtain ⟨l, ls, hletters⟩ := exists_letters_cons c rest
  rw [words, hletters, gather]
  split
  next h => exact ⟨[], _, rfl, .inl ⟨rfl, hdelim l h⟩⟩
  · split
    · exact ⟨c :: l, _, rfl, .inr ⟨l, rfl⟩⟩
    · split
      · exact ⟨c :: l, [], rfl, .inr ⟨l, rfl⟩⟩
      next v vs _ => exact ⟨c :: l ++ v, vs, rfl, .inr ⟨l ++ v, rfl⟩⟩

theorem head?_intercalate {x : Char} {l : List Char} (hl : l ≠ []) (ls : List (List Char)) :
    ([x].intercalate (l :: ls)).head? = l.head? := by
  cases ls with
  | nil => rw [List.intercalate_singleton]
  | cons m ls => rw [List.intercalate_cons_cons, List.append_assoc, List.head?_append_of_ne_nil l hl]

/-- A name that starts with a letter has a form in small letters that starts with this one. -/
theorem head?_snake {c : Char} {rest : List Char} (h : (c :: rest).all isAscii = true)
    (hc : isDelimiter [c] = false) : (snake (c :: rest)).head? = some c.toLower := by
  obtain ⟨w, ws, hw, ⟨-, hdelim⟩ | ⟨v, rfl⟩⟩ := exists_words_cons c rest
  · exact absurd hdelim (Bool.eq_false_iff.mp hc)
  · have hascii := all_isAscii_of_mem_words h (hw ▸ List.mem_cons_self)
    rw [snake, hw, List.map_cons, lower_ascii hascii, List.map_cons, head?_intercalate (List.cons_ne_nil _ _)]
    rfl

/-- A delimiter leaves two words at least. -/
theorem gather_singleton {ls : List (List Char)} {w : List Char} (h : gather ls = [w]) : ls.flatten = w := by
  induction ls generalizing w with
  | nil => exact List.singleton_inj.mp h
  | cons l rest ih =>
      rw [gather] at h
      split at h
      · exact absurd (List.cons.inj h).2 (gather_ne_nil rest)
      · split at h
        · exact absurd (List.cons.inj h).2 (gather_ne_nil rest)
        · split at h
          · rename_i hnil
            exact absurd hnil (gather_ne_nil rest)
          · rename_i v vs hrest
            obtain ⟨rfl, rfl⟩ := List.cons.inj h
            rw [List.flatten_cons, ih hrest]

theorem eq_of_words_singleton {w : List Char} (hw : words name = [w]) : w = name := by
  rw [← gather_singleton hw, letters_flatten]

end AccessorSchema.Text
