import Flowchart.Digraph.Quoting
import Flowchart.Digraph.Token
import Flowchart.Proofs.Text.Lines
import Flowchart.Proofs.UniqueIds

/-!
# Tokens of digraphs

Names, numerals and quoted texts are read up to their ends, whatever follows, as long as it does not
go on with them.
-/

namespace Flowchart.Digraph

def isSolid (c : Char) : Bool := !isSpace c && c != '#' && c != '/'

theorem skipSpace_solid {c : Char} (h : isSolid c = true) (s : Text) :
    skipSpace (c :: s) = c :: s := by
  simp only [isSolid, Bool.and_eq_true, Bool.not_eq_true', bne_iff_ne, ne_eq] at h
  obtain ⟨⟨hspace, hhash⟩, hslash⟩ := h
  have hcomment : afterComment? (c :: s) = none := by
    unfold afterComment?
    split <;> simp_all
  rw [skipSpace]
  split <;> simp_all

theorem skipSpace_nil : skipSpace [] = [] := by
  rw [skipSpace]
  rfl

theorem skipSpace_space {c : Char} (h : isSpace c = true) (s : Text) :
    skipSpace (c :: s) = skipSpace s := by
  have hdrop : (c :: s).dropWhile isSpace = s.dropWhile isSpace := by simp [h]
  rw [skipSpace.eq_def (c :: s), skipSpace.eq_def s, hdrop]

theorem mark?_solid {c : Char} (h : isSolid c = true) (mark s : Text) :
    mark? mark (c :: s) = Text.after? mark (c :: s) := by
  rw [mark?, skipSpace_solid h]

theorem mark?_space {c : Char} (h : isSpace c = true) (mark s : Text) :
    mark? mark (c :: s) = mark? mark s := by
  rw [mark?, mark?, skipSpace_space h]

def Leads (c : Char) (s : Text) : Prop := ∃ rest, skipSpace s = c :: rest

theorem Leads.solid {c : Char} (h : isSolid c = true) (s : Text) : Leads c (c :: s) :=
  ⟨s, skipSpace_solid h s⟩

theorem Leads.space {c d : Char} {s : Text} (h : Leads c s) (hd : isSpace d = true) :
    Leads c (d :: s) := by
  obtain ⟨rest, hrest⟩ := h
  exact ⟨rest, by rw [skipSpace_space hd, hrest]⟩

theorem Leads.mark?_eq_none {c d : Char} {s : Text} (h : Leads c s) (hne : d ≠ c) (mark : Text) :
    mark? (d :: mark) s = none := by
  obtain ⟨rest, hrest⟩ := h
  simp [mark?, hrest, Text.after?, hne]

theorem many_of_none {α : Type} {step : Text → Option (α × Text)} {s : Text} (h : step s = none) :
    many step s = ([], s) := by
  rw [many, h]

theorem many_of_some {α : Type} {step : Text → Option (α × Text)} {s rest last : Text} {a : α}
    {as : List α} (h : step s = some (a, rest)) (hlength : rest.length < s.length)
    (hmore : many step rest = (as, last)) : many step s = (a :: as, last) := by
  rw [many, h]
  simp [hlength, hmore]

def isNameChar (c : Char) : Bool := isNameStart c || c.isDigit

theorem isPlain_of_isNameChar {c : Char} (h : isNameChar c = true) :
    UniqueIds.isPlain c = true := by
  simp only [isNameChar, isNameStart, Bool.or_eq_true] at h
  simp only [UniqueIds.isPlain, Char.isAlphanum, Bool.or_eq_true]
  tauto

theorem isIdChar_of_isNameChar {c : Char} (h : isNameChar c = true) : isIdChar c = true := by
  have hcode : c.toNat < 128 := by
    have := UniqueIds.toNat_of_isPlain (isPlain_of_isNameChar h)
    omega
  simp only [isNameChar, isNameStart, Bool.or_eq_true, beq_iff_eq] at h
  rcases h with (h | rfl) | h
  · simp [isIdChar, Text.isLetter, hcode, h, show c.toNat < 65536 by omega]
  · rfl
  · simp [isIdChar, Text.isDigit, Text.isDecimal, Text.decimalValue?, hcode, h,
      show c.toNat < 65536 by omega]

theorem isSolid_of_isIdChar {c : Char} (h : isIdChar c = true) : isSolid c = true := by
  have hne : ∀ d, isIdChar d = false → c ≠ d := fun d hd => Text.ne_of_class h (by simp [hd])
  simp [isSolid, isSpace, hne ' ' (by decide), hne '\t' (by decide), hne '\r' (by decide),
    hne '\n' (by decide), hne '#' (by decide), hne '/' (by decide)]

structure Word (s : Text) : Prop where
  nonempty : s ≠ []
  chars : ∀ c ∈ s, isIdChar c = true

instance (s : Text) : Decidable (Word s) :=
  decidable_of_iff (s ≠ [] ∧ s.all isIdChar = true)
    ⟨fun ⟨hne, hchars⟩ => ⟨hne, by simpa using hchars⟩,
      fun h => ⟨h.nonempty, by simpa using h.chars⟩⟩

def EndsWord (rest : Text) : Prop := ∀ c, rest.head? = some c → isIdChar c = false

theorem Word.skipSpace {s : Text} (h : Word s) (rest : Text) :
    skipSpace (s ++ rest) = s ++ rest := by
  obtain ⟨c, t, rfl⟩ := List.exists_cons_of_ne_nil h.nonempty
  exact skipSpace_solid (isSolid_of_isIdChar (h.chars c List.mem_cons_self)) _

theorem id?_word {s rest : Text} (h : Word s) (hrest : EndsWord rest) :
    id? (s ++ rest) = some (s, rest) := by
  obtain ⟨htake, hdrop⟩ := Text.run_append h.chars hrest
  unfold id?
  rw [h.skipSpace]
  obtain ⟨c, t, rfl⟩ := List.exists_cons_of_ne_nil h.nonempty
  have hne : ∀ d, isIdChar d = false → c ≠ d :=
    fun d hd => Text.ne_of_class (h.chars c List.mem_cons_self) (by simp [hd])
  rw [List.cons_append] at htake hdrop ⊢
  split
  · rename_i heq
    exact absurd (List.cons.inj heq).1 (hne '"' (by decide))
  · rename_i heq
    exact absurd (List.cons.inj heq).1 (hne '<' (by decide))
  · simp [htake, hdrop]

theorem Leads.id?_eq_none {c : Char} {s : Text} (h : Leads c s) (hc : isIdChar c = false)
    (hquote : c ≠ '"') (hangle : c ≠ '<') : id? s = none := by
  obtain ⟨rest, hrest⟩ := h
  unfold id?
  rw [hrest]
  split <;> simp_all

theorem id?_space {c : Char} (h : isSpace c = true) (s : Text) : id? (c :: s) = id? s := by
  rw [id?, id?, skipSpace_space h]

theorem Word.of_isName {s : Text} (h : isName s = true) :
    (∀ c ∈ s, isNameChar c = true) ∧ Word s := by
  cases s with
  | nil => cases h
  | cons c s =>
      simp only [isName, Bool.and_eq_true, List.all_eq_true] at h
      have hchars : ∀ d ∈ c :: s, isNameChar d = true := by
        refine List.forall_mem_cons.2 ⟨?_, h.2⟩
        rw [isNameChar, h.1]
        rfl
      exact ⟨hchars, by simp, fun d hd => isIdChar_of_isNameChar (hchars d hd)⟩

end Flowchart.Digraph
