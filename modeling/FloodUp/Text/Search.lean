import Mathlib.Computability.RegularExpressions
import Mathlib.Data.List.TakeWhile

/-!
# Searching a text for a regular expression

Patterns as programs write them, over Mathlib's `RegularExpression`: character classes (`oneOf`),
`+` (`oneOrMore`), and a search anchored at the start of the text (`matchesStart`), which looks at
a beginning of the text and not at the text. `splitOff` is the scanner for the commonest piece of
such a pattern, a run of characters up to a separator.
-/

namespace Text

open RegularExpression

/-! ## Patterns -/

section Patterns

variable {α : Type}

/-- A character class. -/
def oneOf (cs : List α) : RegularExpression α := (cs.map char).foldr (· + ·) 0

/-- `r+`. -/
def oneOrMore (r : RegularExpression α) : RegularExpression α := r * r.star

theorem mem_oneOf {cs w : List α} : w ∈ (oneOf cs).matches' ↔ ∃ c ∈ cs, w = [c] := by
  induction cs with
  | nil => simp [oneOf]
  | cons c cs ih =>
    show w ∈ (char c + oneOf cs).matches' ↔ _
    rw [matches'_add, Language.mem_add, ih, List.exists_mem_cons_iff]
    exact Iff.rfl

theorem mem_star_oneOf {cs w : List α} : w ∈ (oneOf cs).star.matches' ↔ ∀ c ∈ w, c ∈ cs := by
  rw [matches'_star, Language.mem_kstar]
  constructor
  -- each piece is one character
  · rintro ⟨pieces, rfl, hpieces⟩ c hc
    obtain ⟨piece, hpiece, hc⟩ := List.mem_flatten.mp hc
    obtain ⟨c', hc', rfl⟩ := mem_oneOf.mp (hpieces piece hpiece)
    rw [List.mem_singleton.mp hc]
    exact hc'
  · intro h
    refine ⟨w.map fun c => [c], by rw [← List.flatMap_def, List.flatMap_singleton'], ?_⟩
    intro piece hpiece
    obtain ⟨c, hc, rfl⟩ := List.mem_map.mp hpiece
    exact mem_oneOf.mpr ⟨c, h c hc, rfl⟩

/-- A repeated class matches the runs of its characters. -/
theorem mem_oneOrMore_oneOf {cs w : List α} :
    w ∈ (oneOrMore (oneOf cs)).matches' ↔ w ≠ [] ∧ ∀ c ∈ w, c ∈ cs := by
  rw [oneOrMore, matches'_mul, Language.mem_mul]
  constructor
  · rintro ⟨_, hfirst, rest, hrest, rfl⟩
    obtain ⟨c, hc, rfl⟩ := mem_oneOf.mp hfirst
    refine ⟨by simp, ?_⟩
    rw [List.singleton_append, List.forall_mem_cons]
    exact ⟨hc, mem_star_oneOf.mp hrest⟩
  · rintro ⟨hne, h⟩
    cases w with
    | nil => exact absurd rfl hne
    | cons c w =>
      rw [List.forall_mem_cons] at h
      exact ⟨[c], mem_oneOf.mpr ⟨c, h.1, rfl⟩, w, mem_star_oneOf.mpr h.2, rfl⟩

end Patterns

/-! ## Searches -/

section Searches

variable {α : Type} [DecidableEq α]

/-- Some beginning of the text matches the pattern. -/
def matchesStart (r : RegularExpression α) (text : List α) : Bool := text.inits.any r.rmatch

theorem matchesStart_iff {r : RegularExpression α} {text : List α} :
    matchesStart r text = true ↔ ∃ start ∈ r.matches', ∃ rest, start ++ rest = text := by
  simp only [matchesStart, List.any_eq_true, List.mem_inits, rmatch_iff_matches']
  exact ⟨fun ⟨start, hpre, hmatch⟩ => ⟨start, hmatch, hpre⟩,
    fun ⟨start, hmatch, hpre⟩ => ⟨start, hpre, hmatch⟩⟩

end Searches

/-! ## Character ranges -/

/-- The characters from `first` to `last`. -/
def charRange (first last : Char) : List Char :=
  (List.range (last.toNat + 1 - first.toNat)).map fun i => Char.ofNat (first.toNat + i)

theorem toNat_ofNat {n : ℕ} (h : n < 0xd800) : (Char.ofNat n).toNat = n := by
  unfold Char.ofNat
  rw [dif_pos (.inl h)]
  rfl

theorem mem_charRange {first last c : Char} (hlast : last.toNat < 0xd800) :
    c ∈ charRange first last ↔ first.toNat ≤ c.toNat ∧ c.toNat ≤ last.toNat := by
  unfold charRange
  simp only [List.mem_map, List.mem_range]
  constructor
  · rintro ⟨i, hi, rfl⟩
    -- below the surrogates every number is a character
    rw [toNat_ofNat (by omega)]
    omega
  · rintro ⟨hfirst, hc⟩
    refine ⟨c.toNat - first.toNat, by omega, ?_⟩
    rw [Nat.add_sub_cancel' hfirst, Char.ofNat_toNat]

/-! ## Scanning for a separator -/

/-- What follows a run of characters in `p` and a separator, if the text begins with such. -/
def splitOff (p : Char → Bool) (separator : Char) (text : List Char) : Option (List Char) :=
  match text.takeWhile p, text.dropWhile p with
  | _ :: _, c :: rest => if c = separator then some rest else none
  | _, _ => none

/-- The run ends where the separator stands: a separator is not part of a run. -/
theorem splitOff_eq_some {p : Char → Bool} {separator : Char} (hseparator : p separator = false)
    {text rest : List Char} : splitOff p separator text = some rest ↔
      ∃ run, run ≠ [] ∧ (∀ c ∈ run, p c = true) ∧ text = run ++ separator :: rest := by
  constructor
  · intro h
    have htext := List.takeWhile_append_dropWhile (p := p) (l := text)
    unfold splitOff at h
    split at h
    -- there is a run, and something behind it
    · rename_i c run d rest' hrun hrest
      split at h
      · rename_i hd
        rw [hrun, hrest] at htext
        refine ⟨c :: run, by simp, ?_, ?_⟩
        · intro c' hc'
          rw [← hrun] at hc'
          exact List.mem_takeWhile_imp hc'
        · rw [← htext, hd, Option.some.inj h]
      · cases h
    · cases h
  · rintro ⟨run, hne, hrun, rfl⟩
    unfold splitOff
    rw [List.takeWhile_append_of_pos hrun, List.dropWhile_append_of_pos hrun,
      List.takeWhile_cons_of_neg (by simp [hseparator]),
      List.dropWhile_cons_of_neg (by simp [hseparator]), List.append_nil]
    cases run with
    | nil => exact absurd rfl hne
    | cons c run => simp

end Text
