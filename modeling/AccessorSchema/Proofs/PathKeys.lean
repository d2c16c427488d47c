import AccessorSchema.Proofs.Subject
import AccessorSchema.Symbols
import Mathlib.Data.List.DropRight

/-! # Keys of paths

Symbols are known by the keys of their paths, and a key is shown as a text: its names with colons between them.
No identifier holds a colon, so the text tells the key (`text_inj`), and what stands behind its last colon is
the name that the path ends in (`lastPiece_of_last?`).  Keys can be compared by their texts for this reason, as a
whole or by their ends (`endsLike_iff_text`). -/

namespace AccessorSchema

namespace PathKey

variable {k known : PathKey}

/-- Two paths end in one name. -/
def EndsLike (k known : PathKey) : Prop := ∃ x, k.last? = some x ∧ known.last? = some x

theorem sameLast_iff : Symbols.sameLast k known = true ↔ k.EndsLike known := by
  rw [Symbols.sameLast, Option.any_eq_true]
  exact ⟨fun ⟨x, hx, h⟩ => ⟨x, hx, eq_of_beq h⟩, fun ⟨x, hx, h⟩ => ⟨x, hx, beq_iff_eq.mpr h⟩⟩

instance : Decidable (k.EndsLike known) := decidable_of_iff _ sameLast_iff

/-- The text behind the last colon. -/
def lastPiece (text : String) : List Char := text.toList.rtakeWhile (· != ':')

theorem colon_notMem (x : Ident) : ':' ∉ x.text.toList := x.notMem_text (by decide) (by decide)

/-- The names with colons between them. -/
def joinedNames (names : List Ident) : List Char := [':', ':'].intercalate (names.map (·.text.toList))

theorem toList_text (k : PathKey) : k.text.toList = (if k.rooted then [':', ':'] else []) ++ joinedNames k.names := by
  rw [text, String.toList_append, String.toList_intercalate, List.map_map, joinedNames]
  cases k.rooted <;> rfl

theorem joinedNames_cons_cons (x y : Ident) (names : List Ident) :
    joinedNames (x :: y :: names) = x.text.toList ++ ':' :: ':' :: joinedNames (y :: names) := by
  rw [joinedNames, List.map_cons, List.map_cons, List.intercalate_cons_cons, List.append_assoc]
  rfl

theorem joinedNames_singleton (x : Ident) : joinedNames [x] = x.text.toList := by
  rw [joinedNames, List.map_singleton, List.intercalate_singleton]

theorem exists_text_cons (x : Ident) : ∃ c cs, x.text.toList = c :: cs ∧ c ≠ ':' := by
  cases htext : x.text.toList with
  | nil =>
      have hnone : Ident.ofText? "" = none := by decide
      have hread := x.ofText?_text
      rw [String.toList_eq_nil_iff.mp htext, hnone] at hread
      cases hread
  | cons c cs => exact ⟨c, cs, rfl, fun hc => colon_notMem x (htext ▸ hc ▸ List.mem_cons_self)⟩

theorem head?_joinedNames (names : List Ident) : (joinedNames names).head? ≠ some ':' := by
  cases names with
  | nil => exact nofun
  | cons x names =>
      obtain ⟨c, cs, htext, hc⟩ := exists_text_cons x
      cases names with
      | nil => rw [joinedNames_singleton, htext]; exact fun h => hc (Option.some.inj h)
      | cons y names => rw [joinedNames_cons_cons, htext]; exact fun h => hc (Option.some.inj h)

/-- A text without the separator is told apart from what the separator parts from it. -/
theorem append_inj_of_notMem {c : Char} {front front' rest rest' : List Char} (h : c ∉ front) (h' : c ∉ front')
    (hrest : rest.head?.all (· == c)) (hrest' : rest'.head?.all (· == c)) (heq : front ++ rest = front' ++ rest') :
    front = front' ∧ rest = rest' := by
  have hall : ∀ l : List Char, c ∉ l → ∀ d ∈ l, (d != c) = true := fun l hl d hd =>
    bne_iff_ne.mpr fun hdc => hl (hdc ▸ hd)
  have hnone : ∀ l : List Char, l.head?.all (· == c) → l.takeWhile (· != c) = [] := by
    intro l hl
    cases l with
    | nil => rfl
    | cons d l =>
        rw [List.takeWhile_cons_of_neg]
        rw [bne_iff_ne, not_not]
        exact eq_of_beq hl
  have hfront := congrArg (List.takeWhile (· != c)) heq
  rw [List.takeWhile_append_of_pos (hall _ h), List.takeWhile_append_of_pos (hall _ h'), hnone _ hrest, hnone _ hrest',
    List.append_nil, List.append_nil] at hfront
  subst hfront
  exact ⟨rfl, List.append_cancel_left heq⟩

theorem joinedNames_inj {names names' : List Ident} (heq : joinedNames names = joinedNames names') : names = names' := by
  have hne : ∀ (x : Ident) (xs : List Ident), joinedNames (x :: xs) ≠ [] := by
    intro x xs hnil
    obtain ⟨c, cs, htext, -⟩ := exists_text_cons x
    cases xs with
    | nil => rw [joinedNames_singleton, htext] at hnil; cases hnil
    | cons y ys => rw [joinedNames_cons_cons, htext] at hnil; cases hnil
  -- a name is followed by nothing, or by colons
  have hsplit : ∀ (x : Ident) (xs : List Ident), ∃ rest : List Char, joinedNames (x :: xs) = x.text.toList ++ rest ∧
      rest.head?.all (· == ':') ∧ (rest = [] ∧ xs = [] ∨ rest = ':' :: ':' :: joinedNames xs ∧ xs ≠ []) := by
    intro x xs
    cases xs with
    | nil => exact ⟨[], by rw [joinedNames_singleton, List.append_nil], rfl, .inl ⟨rfl, rfl⟩⟩
    | cons y ys => exact ⟨_, joinedNames_cons_cons x y ys, rfl, .inr ⟨rfl, List.cons_ne_nil y ys⟩⟩
  induction names generalizing names' with
  | nil =>
      cases names' with
      | nil => rfl
      | cons y ys => exact absurd heq.symm (hne y ys)
  | cons x xs ih =>
      cases names' with
      | nil => exact absurd heq (hne x xs)
      | cons y ys =>
          obtain ⟨rest, hrest, hhead, hcases⟩ := hsplit x xs
          obtain ⟨rest', hrest', hhead', hcases'⟩ := hsplit y ys
          rw [hrest, hrest'] at heq
          obtain ⟨htext, rfl⟩ := append_inj_of_notMem (colon_notMem x) (colon_notMem y) hhead hhead' heq
          have hxy : x = y := Ident.text_inj (String.toList_inj.mp htext)
          rcases hcases with ⟨rfl, rfl⟩ | ⟨rfl, hxs⟩
          · rcases hcases' with ⟨-, rfl⟩ | ⟨hbad, -⟩
            · rw [hxy]
            · cases hbad
          · rcases hcases' with ⟨hbad, -⟩ | ⟨hnames, -⟩
            · cases hbad
            · rw [hxy, ih (List.cons.inj (List.cons.inj hnames).2).2]

/-- Keys of one text are one key. -/
theorem text_inj (h : k.text = known.text) : k = known := by
  have heq := congrArg String.toList h
  rw [toList_text, toList_text] at heq
  have hrooted : k.rooted = known.rooted := by
    cases hkr : k.rooted <;> cases hknownr : known.rooted
    case false.false | true.true => rfl
    case false.true =>
      rw [hkr, hknownr] at heq
      exact absurd (congrArg List.head? heq) (head?_joinedNames k.names)
    case true.false =>
      rw [hkr, hknownr] at heq
      exact absurd (congrArg List.head? heq.symm) (head?_joinedNames known.names)
  rw [hrooted] at heq
  have hnames := joinedNames_inj (List.append_cancel_left heq)
  cases k
  cases known
  congr

theorem lastPiece_of_last? {x : Ident} (h : k.last? = some x) : lastPiece k.text = x.text.toList := by
  obtain ⟨front, hnames⟩ := List.getLast?_eq_some_iff.mp h
  have hjoined : ∀ front : List Ident, ∃ g : List Char, joinedNames (front ++ [x]) = g ++ x.text.toList ∧
      (g = [] ∨ ∃ before, g = before ++ [':']) := by
    intro front
    induction front with
    | nil => exact ⟨[], joinedNames_singleton x, .inl rfl⟩
    | cons y ys ih =>
        obtain ⟨g, hg, hends⟩ := ih
        obtain ⟨z, zs, hz⟩ := List.exists_cons_of_ne_nil (List.append_ne_nil_of_right_ne_nil ys (List.cons_ne_nil x []))
        have hstep : joinedNames (y :: (ys ++ [x])) = y.text.toList ++ ':' :: ':' :: g ++ x.text.toList := by
          rw [hz, joinedNames_cons_cons, ← hz, hg, List.append_assoc, List.cons_append, List.cons_append]
        refine ⟨_, hstep, .inr ?_⟩
        rcases hends with rfl | ⟨before, rfl⟩
        · exact ⟨y.text.toList ++ [':'], by simp⟩
        · exact ⟨y.text.toList ++ ':' :: ':' :: before, by simp⟩
  have hall : ∀ c ∈ x.text.toList.reverse, (c != ':') = true := fun c hc =>
    bne_iff_ne.mpr fun hcolon => colon_notMem x (hcolon ▸ List.mem_reverse.mp hc)
  have hfront : ∃ g : List Char, k.text.toList = g ++ x.text.toList ∧ (g = [] ∨ ∃ before, g = before ++ [':']) := by
    obtain ⟨g, hg, hends⟩ := hjoined front
    rw [toList_text, hnames, hg, ← List.append_assoc]
    refine ⟨_, rfl, ?_⟩
    rcases hends with rfl | ⟨before, rfl⟩
    · cases k.rooted with
      | false => exact .inl rfl
      | true => exact .inr ⟨[':'], rfl⟩
    · exact .inr ⟨_, (List.append_assoc _ _ _).symm⟩
  obtain ⟨g, hg, hends⟩ := hfront
  have hnone : g.reverse.takeWhile (· != ':') = [] := by
    rcases hends with rfl | ⟨before, rfl⟩
    · rfl
    · rw [List.reverse_append, List.reverse_singleton, List.singleton_append, List.takeWhile_cons_of_neg (by decide)]
  rw [lastPiece, List.rtakeWhile, hg, List.reverse_append, List.takeWhile_append_of_pos hall, hnone, List.append_nil,
    List.reverse_reverse]

/-- Two paths end in one name exactly if the text of the one ends in the name of the other. -/
theorem endsLike_iff_text :
    k.EndsLike known ↔ ∃ x, k.last? = some x ∧ lastPiece known.text = x.text.toList := by
  refine ⟨fun ⟨x, hx, hlast⟩ => ⟨x, hx, lastPiece_of_last? hlast⟩, fun ⟨x, hx, hpiece⟩ => ⟨x, hx, ?_⟩⟩
  cases hlast : known.last? with
  | none =>
      obtain ⟨c, cs, htext, -⟩ := exists_text_cons x
      have hempty : lastPiece known.text = [] := by
        rw [lastPiece, toList_text, List.getLast?_eq_none_iff.mp hlast]
        cases known.rooted <;> rfl
      rw [hempty, htext] at hpiece
      cases hpiece
  | some y =>
      rw [lastPiece_of_last? hlast] at hpiece
      rw [Ident.text_inj (String.toList_inj.mp hpiece)]

end PathKey

end AccessorSchema
