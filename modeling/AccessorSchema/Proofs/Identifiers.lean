import AccessorSchema.Proofs.Words
import AccessorSchema.Text.Words
import Mathlib

/-! # Identifiers in small letters

Whatever may stand in an identifier may still do so in small letters (`isIdentContinue_lowerChars`), which is
read off the tables run by run: a run of capitals is moved into one range of identifier characters, or it meets
none (`keeps_lowerRuns`).  So the form of an identifier in small letters is made of identifier characters
(`isIdentContinue_of_mem_snake`).  It starts with an ASCII letter only where the name itself starts like an
identifier (`isIdentStart_of_snake`): besides ASCII, two capitals alone become such a letter. -/

namespace AccessorSchema.Text

/-! ### Ranges -/

theorem inRanges_iff {table : List (Nat × Nat)} {n : Nat} :
    inRanges table n = true ↔ ∃ s ∈ table, s.1 ≤ n ∧ n ≤ s.2 := by
  simp [inRanges]

theorem inRanges_append (left right : List (Nat × Nat)) (n : Nat) :
    inRanges (left ++ right) n = (inRanges left n || inRanges right n) :=
  List.any_append

/-- Code points that may stand in an identifier, of ASCII only the small letters. -/
def identRanges : List (Nat × Nat) := (0x61, 0x7A) :: (identStartRanges ++ identTailRanges)

theorem mem_identRanges {s : Nat × Nat} :
    s ∈ identRanges ↔ s = (0x61, 0x7A) ∨ s ∈ identStartRanges ++ identTailRanges := by
  rw [identRanges, List.mem_cons]

theorem isIdentContinue_of_not_ascii {c : Char} (hc : ¬isAscii c = true) :
    isIdentContinue c = inRanges (identStartRanges ++ identTailRanges) c.toNat := by
  rw [isIdentContinue, isIdentStart, if_neg hc, if_neg hc, inRanges_append]

theorem isIdentContinue_of_isIdentStart {c : Char} (h : isIdentStart c = true) : isIdentContinue c = true := by
  rw [isIdentContinue, h, Bool.true_or]

theorem isIdentContinue_ofNat {n : Nat} (h : inRanges identRanges n = true) :
    isIdentContinue (Char.ofNat n) = true := by
  obtain ⟨s, hs, hfirst, hlast⟩ := inRanges_iff.mp h
  rcases mem_identRanges.mp hs with rfl | hs
  · have hsmall : ∀ n < 123, 97 ≤ n → isIdentContinue (Char.ofNat n) = true := by decide +kernel
    exact hsmall n (by omega) hfirst
  · have hvalid : ∀ s ∈ identStartRanges ++ identTailRanges,
        (Nat.blt 127 s.1 && (s.2.blt 0xD800 || (Nat.blt 0xDFFF s.1 && s.2.blt 0x110000))) = true := by
      decide +kernel
    have hn := hvalid s hs
    simp only [Bool.and_eq_true, Bool.or_eq_true, Nat.blt_eq] at hn
    have hnat : (Char.ofNat n).toNat = n := by
      rw [Char.toNat_ofNat, if_pos]
      unfold Nat.isValidChar
      omega
    have hascii : ¬isAscii (Char.ofNat n) = true := by
      rw [isAscii, hnat, decide_eq_true_iff]
      omega
    rw [isIdentContinue_of_not_ascii hascii, hnat]
    exact inRanges_iff.mpr ⟨s, hs, hfirst, hlast⟩

/-! ### Runs of letters -/

/-- A run is moved into one of the ranges, or lies outside all of them. -/
def CaseRun.keeps (ranges : List (Nat × Nat)) (r : CaseRun) : Bool :=
  (ranges.any fun s => s.1.ble (r.first + r.shift).toNat && (r.last + r.shift).toNat.ble s.2) ||
    ranges.all fun s => s.2.blt r.first || r.last.blt s.1

theorem keeps_lowerRuns : lowerRuns.all (CaseRun.keeps identRanges) = true := by decide +kernel

theorem CaseRun.le_of_covers {r : CaseRun} {n : Nat} (h : r.covers n = true) : r.first ≤ n ∧ n ≤ r.last := by
  rw [CaseRun.covers, Bool.and_eq_true, Bool.and_eq_true, decide_eq_true_iff, decide_eq_true_iff] at h
  exact h.1

theorem CaseRun.inRanges_of_keeps {ranges : List (Nat × Nat)} {r : CaseRun} (hr : r.keeps ranges = true) {n : Nat}
    (hn : r.covers n = true) (h : inRanges ranges n = true) : inRanges ranges (n + r.shift).toNat = true := by
  obtain ⟨hfirst, hlast⟩ := CaseRun.le_of_covers hn
  rw [CaseRun.keeps, Bool.or_eq_true, List.any_eq_true, List.all_eq_true] at hr
  rcases hr with ⟨s, hs, hinside⟩ | hoff
  · rw [Bool.and_eq_true, Nat.ble_eq, Nat.ble_eq] at hinside
    exact inRanges_iff.mpr ⟨s, hs, by omega, by omega⟩
  · obtain ⟨s, hs, hin⟩ := inRanges_iff.mp h
    have := hoff s hs
    rw [Bool.or_eq_true, Nat.blt_eq, Nat.blt_eq] at this
    omega

/-- A code point is moved by the run that covers it, or stays. -/
theorem shiftBy_cases (runs : List CaseRun) (n : Nat) :
    shiftBy runs n = n ∨ ∃ r ∈ runs, r.covers n = true ∧ shiftBy runs n = (n + r.shift).toNat := by
  unfold shiftBy
  split
  next r hr =>
    have hcovers : r.covers n = true := List.find?_some (p := fun r : CaseRun => r.covers n) hr
    exact .inr ⟨r, List.mem_of_find?_eq_some hr, hcovers, rfl⟩
  next => exact .inl rfl

/-- A letter above ASCII in small letters: the one capital with a dot, or moved by a run. -/
theorem lowerChars_cases {c : Char} (hc : ¬isAscii c = true) :
    c.toNat = 0x130 ∧ lowerChars c = ['i', Char.ofNat 0x307] ∨
      lowerChars c = [Char.ofNat (shiftBy lowerRuns c.toNat)] := by
  rw [lowerChars, if_neg hc, mapCase, lowerExpansions, List.lookup_cons]
  by_cases hdot : c.toNat = 0x130
  · rw [hdot]
    exact .inl ⟨rfl, rfl⟩
  · rw [beq_eq_false_iff_ne.mpr hdot]
    exact .inr rfl

theorem lowerChars_ne_nil (c : Char) : lowerChars c ≠ [] := by
  by_cases hc : isAscii c = true
  · rw [lowerChars_ascii hc]
    exact List.cons_ne_nil _ _
  · rcases lowerChars_cases hc with ⟨-, h⟩ | h <;> rw [h] <;> exact List.cons_ne_nil _ _

/-! ### Small letters of identifier characters -/

theorem isIdentContinue_lowerChars {c d : Char} (hc : isIdentContinue c = true) (hd : d ∈ lowerChars c) :
    isIdentContinue d = true := by
  by_cases hascii : isAscii c = true
  · rw [lowerChars_ascii hascii, List.mem_singleton] at hd
    have hlower := forall_ascii (fun c => isIdentContinue c = true → isIdentContinue c.toLower = true)
      (by decide +kernel) hascii
    exact hd ▸ hlower hc
  · rcases lowerChars_cases hascii with ⟨-, h⟩ | h
    · have hdotted : isIdentContinue 'i' = true ∧ isIdentContinue (Char.ofNat 0x307) = true := by decide +kernel
      rw [h, List.mem_pair] at hd
      rcases hd with rfl | rfl
      · exact hdotted.1
      · exact hdotted.2
    · rw [h, List.mem_singleton] at hd
      have hin : inRanges identRanges c.toNat = true := by
        rw [isIdentContinue_of_not_ascii hascii] at hc
        obtain ⟨s, hs, hin⟩ := inRanges_iff.mp hc
        exact inRanges_iff.mpr ⟨s, mem_identRanges.mpr (.inr hs), hin⟩
      rw [hd]
      refine isIdentContinue_ofNat ?_
      rcases shiftBy_cases lowerRuns c.toNat with hstays | ⟨r, hr, hcovers, hmoved⟩
      · rw [hstays]
        exact hin
      · rw [hmoved]
        exact r.inRanges_of_keeps (List.all_eq_true.mp keeps_lowerRuns r hr) hcovers hin

theorem isIdentContinue_of_mem_lowerFrom {text : List Char} (h : ∀ c ∈ text, isIdentContinue c = true)
    {before : List Char} {d : Char} (hd : d ∈ lowerFrom before text) : isIdentContinue d = true := by
  induction text generalizing before with
  | nil => cases hd
  | cons c rest ih =>
      obtain ⟨hc, hrest⟩ := List.forall_mem_cons.mp h
      rw [lowerFrom, List.mem_append] at hd
      rcases hd with hd | hd
      · split at hd
        · have hsigma : isIdentContinue 'ς' = true ∧ isIdentContinue 'σ' = true := by decide +kernel
          split at hd <;> rw [List.mem_singleton.mp hd]
          · exact hsigma.1
          · exact hsigma.2
        · exact isIdentContinue_lowerChars hc hd
      · exact ih hrest hd

theorem isAscii_of_isAlpha {c : Char} (h : c.isAlpha = true) : isAscii c = true := by
  simp only [Char.isAlpha, Char.isUpper, Char.isLower, Bool.or_eq_true, Bool.and_eq_true, decide_eq_true_eq,
    UInt32.le_iff_toNat_le] at h
  rw [isAscii, decide_eq_true_iff]
  show c.val.toNat < 128
  rcases h with ⟨-, h⟩ | ⟨-, h⟩
  · exact Nat.lt_of_le_of_lt h (by decide)
  · exact Nat.lt_of_le_of_lt h (by decide)

theorem lt_of_isAlpha_ofNat {n : Nat} (h : (Char.ofNat n).isAlpha = true) : n < 128 := by
  have hascii : (Char.ofNat n).toNat < 128 := of_decide_eq_true (isAscii_of_isAlpha h)
  rw [Char.toNat_ofNat] at hascii
  split at hascii
  · exact hascii
  next hinvalid =>
    rw [Char.ofNat, dif_neg hinvalid] at h
    exact absurd h (by decide)

/-- Only what starts an identifier becomes a letter of ASCII. -/
theorem isIdentStart_of_lowerChars {c : Char} (h : (lowerChars c).head?.any Char.isAlpha = true) :
    isIdentStart c = true := by
  by_cases hascii : isAscii c = true
  · rw [lowerChars_ascii hascii] at h
    exact forall_ascii (fun c => c.toLower.isAlpha = true → isIdentStart c = true) (by decide +kernel) hascii h
  · have hstart : ∀ n, c.toNat = n → isIdentStart (Char.ofNat n) = true → isIdentStart c = true := by
      rintro n rfl hn
      rwa [Char.ofNat_toNat] at hn
    rcases lowerChars_cases hascii with ⟨hdot, -⟩ | hmap
    · exact hstart _ hdot (by decide +kernel)
    · rw [hmap] at h
      have hlt : shiftBy lowerRuns c.toNat < 128 := lt_of_isAlpha_ofNat h
      rcases shiftBy_cases lowerRuns c.toNat with hstays | ⟨r, hr, hcovers, hmoved⟩
      · exact absurd (decide_eq_true (hstays ▸ hlt)) hascii
      · -- the sign for Kelvin alone is moved down to ASCII
        have hruns : ∀ r ∈ lowerRuns, 128 ≤ (r.first + r.shift).toNat ∨
            r.last = r.first ∧ isIdentStart (Char.ofNat r.first) = true := by decide +kernel
        obtain ⟨hfirst, hlast⟩ := CaseRun.le_of_covers hcovers
        rcases hruns r hr with hhigh | ⟨hone, hident⟩
        · omega
        · exact hstart r.first (by omega) hident

/-! ### Words of identifiers -/

variable {name : List Char}

theorem isIdentContinue_of_mem_snake (h : ∀ c ∈ name, isIdentContinue c = true) {d : Char} (hd : d ∈ snake name) :
    isIdentContinue d = true := by
  rcases of_mem_intercalate hd with rfl | ⟨l, hl, hdl⟩
  · decide
  · obtain ⟨w, hw, rfl⟩ := List.mem_map.mp hl
    exact isIdentContinue_of_mem_lowerFrom (fun c hc => h c (mem_of_mem_words hw hc)) hdl

/-- A form in small letters starts with an ASCII letter only where the name starts like an identifier. -/
theorem isIdentStart_of_snake {c : Char} {rest : List Char}
    (h : (snake (c :: rest)).head?.any Char.isAlpha = true) : isIdentStart c = true := by
  obtain ⟨w, ws, hwords, ⟨rfl, -⟩ | ⟨v, rfl⟩⟩ := exists_words_cons c rest
  · rw [snake, hwords, List.map_cons] at h
    cases ws with
    | nil => cases h
    | cons m ms =>
        rw [List.map_cons, List.intercalate_cons_cons] at h
        cases h
  · rw [snake, hwords, List.map_cons, lower, lowerFrom] at h
    split at h
    next hsigma =>
      rw [eq_of_beq hsigma]
      decide +kernel
    · have hne := lowerChars_ne_nil c
      rw [head?_intercalate (List.append_ne_nil_of_left_ne_nil hne _), List.head?_append_of_ne_nil _ hne] at h
      exact isIdentStart_of_lowerChars h

end AccessorSchema.Text
