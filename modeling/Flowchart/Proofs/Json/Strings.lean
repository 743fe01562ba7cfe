import Flowchart.Json.Reader
import Flowchart.Json.Writer
import Flowchart.Proofs.Text.Lines
import Mathlib.Tactic.SplitIfs

/-!
# Strings and numerals in JSON

A string that is written is read back whatever characters it has, and so is a whole number, as long
as it does not have too many digits.
-/

namespace Flowchart.Json

theorem readCodes_escape {start rest : Text} {c meant : Char} (hu : c ≠ 'u')
    (h : simpleEscape? c = some meant) :
    readCodes start ('\\' :: c :: rest) =
      (readCodes start rest).map fun r => (meant.toNat :: r.1, r.2) := by
  rw [readCodes.eq_5 _ _ _ (by simp [hu]) hu, h]

theorem readCodes_unicode {start rest : Text} {a b c d : Char} {code : Nat} (hne : rest ≠ [])
    (h : hex4? a b c d = some code) :
    readCodes start ('\\' :: 'u' :: a :: b :: c :: d :: rest) =
      (readCodes start rest).map fun r => (code :: r.1, r.2) := by
  obtain ⟨e, rest, rfl⟩ := List.exists_cons_of_ne_nil hne
  simp [readCodes, h]

theorem readCodes_plain {start rest : Text} {c : Char} (hquote : c ≠ '"') (hslash : c ≠ '\\')
    (hcontrol : ¬ c.toNat < 0x20) :
    readCodes start (c :: rest) = (readCodes start rest).map fun r => (c.toNat :: r.1, r.2) := by
  rw [readCodes.eq_6 _ _ _ hquote (by simp [hslash]) (by simp [hslash]) (by simp [hslash])]
  simp [hslash, hcontrol]

def codeOf? : Text → Option Nat
  | [a, b, c, d] => hex4? a b c d
  | _ => none

theorem exists_hexadecimal {n : Nat} (h : n < 0x20) :
    ∃ a b c d, Text.hexadecimal 4 n = [a, b, c, d] ∧ hex4? a b c d = some n := by
  have hall : ∀ n < 0x20, codeOf? (Text.hexadecimal 4 n) = some n := by decide
  have hn := hall n h
  unfold codeOf? at hn
  split at hn
  · rename_i a b c d heq
    exact ⟨a, b, c, d, heq, hn⟩
  · cases hn

theorem readCodes_escapeChar (start : Text) (c : Char) {rest : Text} (hne : rest ≠ []) :
    readCodes start (escapeChar c ++ rest) =
      (readCodes start rest).map fun r => (c.toNat :: r.1, r.2) := by
  unfold escapeChar
  split_ifs with hquote hslash hfeed hreturn htab hback hform hcontrol
  case pos => exact beq_iff_eq.1 hquote ▸ readCodes_escape (by decide) rfl
  case pos => exact beq_iff_eq.1 hslash ▸ readCodes_escape (by decide) rfl
  case pos => exact beq_iff_eq.1 hfeed ▸ readCodes_escape (by decide) rfl
  case pos => exact beq_iff_eq.1 hreturn ▸ readCodes_escape (by decide) rfl
  case pos => exact beq_iff_eq.1 htab ▸ readCodes_escape (by decide) rfl
  case pos => exact beq_iff_eq.1 hback ▸ readCodes_escape (by decide) rfl
  case pos => exact beq_iff_eq.1 hform ▸ readCodes_escape (by decide) rfl
  case pos =>
    obtain ⟨a, b, c', d, hdigits, hcode⟩ := exists_hexadecimal hcontrol
    rw [hdigits]
    exact readCodes_unicode hne hcode
  case neg => exact readCodes_plain (by simpa using hquote) (by simpa using hslash) hcontrol

theorem readCodes_escaped (start s rest : Text) :
    readCodes start (s.flatMap escapeChar ++ '"' :: rest) = .ok (s.map Char.toNat, rest) := by
  induction s with
  | nil => rfl
  | cons c s ih =>
      rw [List.flatMap_cons, List.append_assoc, readCodes_escapeChar start c (by simp), ih]
      rfl

theorem not_surrogate (c : Char) :
    isHighSurrogate c.toNat = false ∧ isLowSurrogate c.toNat = false := by
  have hvalid : c.toNat < 0xd800 ∨ 0xdfff < c.toNat ∧ c.toNat < 0x110000 := c.valid
  simp only [isHighSurrogate, isLowSurrogate, Bool.and_eq_false_iff, decide_eq_false_iff_not]
  omega

theorem charOfCode_toNat (c : Char) : charOfCode c.toNat = c := by
  simp [charOfCode, not_surrogate c]

theorem joinCodes_toNat (s : Text) : joinCodes (s.map Char.toNat) = s := by
  induction s with
  | nil => rfl
  | cons c s ih =>
      cases s with
      | nil => simp [joinCodes, charOfCode_toNat]
      | cons d s => simpa [joinCodes, not_surrogate c, charOfCode_toNat] using ih

theorem readString_escaped (start s rest : Text) :
    readString start (s.flatMap escapeChar ++ '"' :: rest) = .ok (s, rest) := by
  rw [readString, readCodes_escaped]
  simp [Except.map, joinCodes_toNat]

def EndsNumber (rest : Text) : Prop :=
  ∀ c, rest.head? = some c → Text.isAsciiDigit c = false ∧ c ∉ ['.', 'e', 'E']

theorem isAsciiDigit_of_mem_ofNat {n : Nat} {c : Char} (h : c ∈ Text.ofNat n) :
    Text.isAsciiDigit c = true := by
  have hdigit := Nat.isDigit_of_mem_toDigits (by decide) (by decide) h
  simp only [Char.isDigit, Bool.and_eq_true, decide_eq_true_eq, UInt32.le_iff_toNat_le,
    ge_iff_le] at hdigit
  simp only [Text.isAsciiDigit, Bool.and_eq_true, decide_eq_true_eq]
  exact hdigit

theorem ofNat_eq_cons (n : Nat) :
    ∃ c digits, Text.ofNat n = c :: digits ∧ (c = '0' → digits = []) := by
  induction n using Nat.strongRecOn with
  | _ n ih =>
      rw [Text.ofNat, Nat.toDigits_eq_if (by decide)]
      split
      · exact ⟨_, [], rfl, fun _ => rfl⟩
      · -- The leading digit is that of a smaller number, which is not zero.
        rename_i hten
        obtain ⟨c, digits, heq, hzero⟩ := ih (n / 10) (by omega)
        rw [Text.ofNat] at heq
        refine ⟨c, digits ++ [Nat.digitChar (n % 10)], by rw [heq, List.cons_append], ?_⟩
        intro hc
        have hvalue := Text.natOfDigits_ofNat (n / 10)
        rw [Text.ofNat, heq, hc, hzero hc] at hvalue
        have : Text.natOfDigits ['0'] = 0 := by decide
        omega

theorem wholePart?_ofNat (n : Nat) {rest : Text} (h : EndsNumber rest) :
    wholePart? (Text.ofNat n ++ rest) = some (Text.ofNat n, rest) := by
  have hdigits : ∀ c ∈ Text.ofNat n, Text.isAsciiDigit c = true :=
    fun c hc => isAsciiDigit_of_mem_ofNat hc
  obtain ⟨htake, hdrop⟩ := Text.run_append hdigits fun c hc => (h c hc).1
  obtain ⟨c, digits, heq, hzero⟩ := ofNat_eq_cons n
  have hc := hdigits c (by simp [heq])
  rw [heq] at htake hdrop ⊢
  by_cases hc' : c = '0'
  · simp [hc', hzero hc', wholePart?]
  · rw [List.cons_append] at htake hdrop ⊢
    simp [wholePart?, hc, htake, hdrop]

theorem fraction_of_endsNumber {rest : Text} (h : EndsNumber rest) : fraction rest = ([], rest) := by
  cases rest with
  | nil => rfl
  | cons c rest =>
      have hpoint : c ≠ '.' := by
        rintro rfl
        exact (h _ rfl).2 (by decide)
      simp [fraction, hpoint]

theorem exponent?_of_endsNumber {rest : Text} (h : EndsNumber rest) : exponent? rest = none := by
  cases rest with
  | nil => rfl
  | cons c rest =>
      have hc := (h c rfl).2
      simp only [List.mem_cons, List.not_mem_nil, or_false, not_or] at hc
      unfold exponent?
      simp only
      split <;> simp [hc]

def FewDigits (n : Int) : Prop := (Text.ofNat n.natAbs).length ≤ Text.maxDigits

section Number

variable {body whole rest : Text} (hwhole : wholePart? body = some (whole, rest))
  (hfew : ¬ whole.length > Text.maxDigits) (h : EndsNumber rest)

include hwhole hfew h

theorem readNumber_minus :
    readNumber ('-' :: body) = .ok (.int (-(Text.natOfDigits whole : Int)), rest) := by
  unfold readNumber
  simp [hwhole, fraction_of_endsNumber h, exponent?_of_endsNumber h, if_neg hfew, signed]

theorem readNumber_of_wholePart? (hsign : body.head? ≠ some '-') :
    readNumber body = .ok (.int (Text.natOfDigits whole), rest) := by
  unfold readNumber
  cases body with
  | nil => simp [wholePart?] at hwhole
  | cons c body =>
      have hc : c ≠ '-' := by simpa using hsign
      simp [hc, hwhole, fraction_of_endsNumber h, exponent?_of_endsNumber h, if_neg hfew, signed]

end Number

theorem head?_ofNat_append (n : Nat) (rest : Text) :
    ∃ c, (Text.ofNat n ++ rest).head? = some c ∧ Text.isAsciiDigit c = true := by
  obtain ⟨c, digits, heq, -⟩ := ofNat_eq_cons n
  exact ⟨c, by simp [heq], isAsciiDigit_of_mem_ofNat (heq ▸ List.mem_cons_self)⟩

theorem readNumber_ofInt {n : Int} (hn : FewDigits n) {rest : Text} (h : EndsNumber rest) :
    readNumber (Text.ofInt n ++ rest) = .ok (.int n, rest) := by
  have hwhole := wholePart?_ofNat n.natAbs h
  have hfew : ¬ (Text.ofNat n.natAbs).length > Text.maxDigits := Nat.not_lt.2 hn
  cases n with
  | ofNat m =>
      have hsign : (Text.ofNat m ++ rest).head? ≠ some '-' := by
        obtain ⟨c, hhead, hc⟩ := head?_ofNat_append m rest
        rw [hhead]
        rintro ⟨⟩
        exact absurd hc (by decide)
      have hread := readNumber_of_wholePart? hwhole hfew h hsign
      rwa [Text.natOfDigits_ofNat] at hread
  | negSucc m =>
      have hread := readNumber_minus hwhole hfew h
      rw [Text.natOfDigits_ofNat] at hread
      exact hread

def numeralChars : Text := "0123456789+-.e".toList

theorem ofNat_subset (n : Nat) : Text.ofNat n ⊆ numeralChars := by
  have hdigits : ∀ n < 0x3a, 0x30 ≤ n → Char.ofNat n ∈ numeralChars := by decide
  intro c hc
  have hdigit := isAsciiDigit_of_mem_ofNat hc
  simp only [Text.isAsciiDigit, Bool.and_eq_true, decide_eq_true_eq] at hdigit
  rw [← Char.ofNat_toNat c]
  exact hdigits c.toNat (by omega) hdigit.1

theorem ofInt_subset (n : Int) : Text.ofInt n ⊆ numeralChars := by
  cases n with
  | ofNat n => exact ofNat_subset n
  | negSucc n => exact List.cons_subset.2 ⟨by decide, ofNat_subset (n + 1)⟩

theorem zeros_subset (n : Nat) : List.replicate n '0' ⊆ numeralChars := by
  intro c hc
  rw [List.eq_of_mem_replicate hc]
  decide

theorem dropTrailingZeros_subset (digits : Text) : Binary64.dropTrailingZeros digits ⊆ digits :=
  fun _ hc =>
    List.mem_reverse.1 ((List.dropWhile_sublist _).subset (List.mem_reverse.1 hc))

theorem exponentText_subset (e : Int) : Binary64.exponentText e ⊆ numeralChars := by
  refine List.append_subset.2 ⟨?_, List.append_subset.2 ⟨zeros_subset _, ofNat_subset _⟩⟩
  split <;> decide

theorem finiteText_subset (layout : Binary64.Layout) (x : Binary64) :
    Binary64.finiteText layout x ⊆ numeralChars := by
  have hkept : Binary64.dropTrailingZeros (Text.ofNat x.shortest.digits) ⊆ numeralChars :=
    List.Subset.trans (dropTrailingZeros_subset _) (ofNat_subset _)
  unfold Binary64.finiteText
  dsimp only
  split
  · decide
  · split
    · split
      · exact List.append_subset.2 ⟨List.append_subset.2 ⟨by decide, zeros_subset _⟩, hkept⟩
      · refine List.append_subset.2 ⟨List.append_subset.2 ⟨?_, zeros_subset _⟩,
          List.cons_subset.2 ⟨by decide, ?_⟩⟩
        · exact List.Subset.trans (List.take_subset _ _) hkept
        · split
          · decide
          · exact List.Subset.trans (List.drop_subset _ _) hkept
    · split
      · decide
      · rename_i first others hdigits
        rw [hdigits] at hkept
        obtain ⟨hfirst, hothers⟩ := List.cons_subset.1 hkept
        refine List.cons_subset.2 ⟨hfirst, List.append_subset.2 ⟨?_,
          List.cons_subset.2 ⟨by decide, exponentText_subset _⟩⟩⟩
        split
        · decide
        · exact List.cons_subset.2 ⟨by decide, hothers⟩

end Flowchart.Json
