import Flowchart.Digraph.Statement
import Flowchart.Proofs.Digraph.Attributes

/-!
# Statements of digraphs

An id may begin with a keyword. Then what follows the keyword is no group and no list of attributes,
and the id is read as a whole after all.
-/

namespace Flowchart.Digraph

theorem toLower_toUpper {c : Char} (h : c.toNat < 128) : c.toUpper.toLower = c.toLower := by
  have hall : ∀ n < 128, (Char.ofNat n).toUpper.toLower = (Char.ofNat n).toLower := by decide
  have hc := hall c.toNat h
  rwa [Char.ofNat_toNat] at hc

theorem toNat_of_isNameChar {c : Char} (h : isNameChar c = true) : c.toNat < 128 := by
  have := UniqueIds.toNat_of_isPlain (isPlain_of_isNameChar h)
  omega

theorem map_toLower_upper {s : Text} (h : ∀ c ∈ s, isNameChar c = true) :
    (Text.upper s).map Char.toLower = s.map Char.toLower := by
  induction s with
  | nil => rfl
  | cons c s ih =>
      obtain ⟨hc, hs⟩ := List.forall_mem_cons.1 h
      have hcode := toNat_of_isNameChar hc
      have hs := ih hs
      rw [Text.upper] at hs
      rw [Text.upper, List.flatMap_cons, Text.upperChar, if_pos hcode]
      simp [toLower_toUpper hcode, hs]

theorem upperChar_of_isSpace {c : Char} (h : isSpace c = true) : Text.upperChar c = [c] := by
  simp only [isSpace, Bool.or_eq_true, beq_iff_eq] at h
  rcases h with ((rfl | rfl) | rfl) | rfl <;> decide

theorem keyword?_space {c : Char} (h : isSpace c = true) (word s : Text) :
    keyword? word (c :: s) = keyword? word s := by
  rw [keyword?, keyword?, skipSpace_space h]

theorem keyword?_self {word : Text} (h : Word word) (rest : Text) :
    keyword? word (word ++ rest) = some rest := by
  rw [keyword?, h.skipSpace]
  simp

theorem keyword?_of_leads {c d : Char} {word s : Text} (h : Leads d s) (hc : c.toNat < 128)
    (hd : d.toNat < 128) (hne : d.toUpper ≠ c.toUpper) : keyword? (c :: word) s = none := by
  obtain ⟨rest, hrest⟩ := h
  rw [keyword?, hrest, if_neg]
  simp [Text.upper, Text.upperChar, hc, hd, hne]

theorem keyword?_nil {c : Char} (hc : c.toNat < 128) (word : Text) :
    keyword? (c :: word) [] = none := by
  simp [keyword?, skipSpace_nil, Text.upper, Text.upperChar, hc]

/-- An id that is not the keyword, though it may begin with it. -/
def Unlike (word id : Text) : Prop :=
  ∀ d rest, isSpace d = true → keyword? word (id ++ d :: rest) = none ∨
    ∃ tail, Word tail ∧ keyword? word (id ++ d :: rest) = some (tail ++ d :: rest)

/-- An id that stands without quotes: a name that is no keyword. -/
structure Ident (id : Text) : Prop where
  name : isName id = true
  ordinary : isKeyword id = false

instance (id : Text) : Decidable (Ident id) :=
  decidable_of_iff (isName id = true ∧ isKeyword id = false)
    ⟨fun ⟨hname, hordinary⟩ => ⟨hname, hordinary⟩, fun h => ⟨h.name, h.ordinary⟩⟩

namespace Ident

variable {id : Text} (h : Ident id)

include h

theorem word : Word id := (Word.of_isName h.name).2

theorem chars : ∀ c ∈ id, isNameChar c = true := (Word.of_isName h.name).1

theorem unlike {word : Text} (hword : word ∈ keywords) : Unlike word id := by
  intro d rest hd
  unfold keyword?
  rw [h.word.skipSpace]
  simp only
  rcases Nat.lt_trichotomy word.length id.length with hlength | hlength | hlength
  · have hdrop : (id ++ d :: rest).drop word.length = id.drop word.length ++ d :: rest :=
      List.drop_append_of_le_length (Nat.le_of_lt hlength)
    split
    · refine .inr ⟨id.drop word.length, ⟨?_, fun c hc => ?_⟩, by rw [hdrop]⟩
      · simpa using hlength
      · exact h.word.chars c (List.mem_of_mem_drop hc)
    · exact .inl rfl
  · left
    rw [if_neg]
    intro hupper
    have htake : (id ++ d :: rest).take word.length = id := by simp [hlength]
    have hlower : ∀ word ∈ keywords, (Text.upper word).map Char.toLower = word := by decide
    have hid : id.map Char.toLower = word := by
      rw [← map_toLower_upper h.chars, ← htake, hupper, hlower word hword]
    have hordinary := h.ordinary
    rw [isKeyword, hid] at hordinary
    simp [hword] at hordinary
  · -- The blank behind the id would have to be a letter of the keyword.
    left
    rw [if_neg]
    intro hupper
    have hblank : ∀ word ∈ keywords, ((Text.upper word).all fun c => !isSpace c) = true := by
      decide
    have hmem : d ∈ Text.upper ((id ++ d :: rest).take word.length) := by
      obtain ⟨k, hk⟩ := Nat.exists_eq_add_of_lt hlength
      have htake : d ∈ (id ++ d :: rest).take word.length := by
        rw [hk, List.take_append, Nat.add_assoc, Nat.add_sub_cancel_left, List.take_succ_cons]
        exact List.mem_append_right _ List.mem_cons_self
      exact List.mem_flatMap.2 ⟨d, htake, by rw [upperChar_of_isSpace hd]; exact List.mem_cons_self⟩
    rw [hupper] at hmem
    rw [Text.none_of_all (hblank word hword) d hmem] at hd
    cases hd

end Ident

/-- An id that is read to the blank behind it, unless a plus sign goes on with it. -/
structure Spelled (id : Text) : Prop where
  opens : ∃ c, (isIdChar c = true ∨ c = '"') ∧ ∀ rest, Leads c (id ++ rest)
  read : ∀ {c d : Char} {s : Text}, isSpace d = true → Leads c s → c ≠ '+' →
    id? (id ++ d :: s) = some (id, d :: s)

/-- An id that is not taken for a keyword either. -/
structure Named (id : Text) : Prop extends Spelled id where
  unlike : ∀ word ∈ keywords, Unlike word id

theorem Word.spelled {s : Text} (h : Word s) : Spelled s where
  opens := h.leads.imp fun _ hc => ⟨.inl hc.1, hc.2⟩
  read hd hs _ := id?_word h (Next.space hs hd).apart

theorem Ident.named {id : Text} (h : Ident id) : Named id where
  toSpelled := h.word.spelled
  unlike _ := h.unlike

namespace Subject

variable (subject : Subject)

theorem word_word : Word subject.word := by
  cases subject <;> decide

theorem exists_first : ∃ c tail, subject.word = c :: tail ∧ isSolid c = true ∧ c.toNat < 128 ∧
    c.toUpper ≠ 'S' ∧ ∀ other : Subject, other ≠ subject →
      ∃ d rest, other.word = d :: rest ∧ d.toNat < 128 ∧ c.toUpper ≠ d.toUpper := by
  cases subject
  all_goals
    refine ⟨_, _, rfl, by decide, by decide, by decide, fun other hne => ?_⟩
    cases other <;> first | exact absurd rfl hne | exact ⟨_, _, rfl, by decide, by decide⟩

theorem unlike_subgraph : Unlike "subgraph".toList subject.word := by
  intro d rest _
  obtain ⟨c, tail, hword, hsolid, hc, hne, -⟩ := subject.exists_first
  left
  rw [hword]
  exact keyword?_of_leads (Leads.solid hsolid _) (by decide) hc hne

theorem keyword?_of_ne {other : Subject} (hne : other ≠ subject) (rest : Text) :
    keyword? other.word (subject.word ++ rest) = none := by
  obtain ⟨c, tail, hword, hsolid, hc, -, hothers⟩ := subject.exists_first
  obtain ⟨d, last, hother, hd, hupper⟩ := hothers other hne
  rw [hword, hother]
  exact keyword?_of_leads (Leads.solid hsolid _) hd hc hupper

end Subject

section Terminal

variable {id : Text} (h : Spelled id) {c d : Char} {s : Text} (hd : isSpace d = true)
  (hs : Leads c s) (hplus : c ≠ '+')

include h hd hs hplus

theorem nodeTerminal?_spelled (hc : c ≠ ':') :
    nodeTerminal? (id ++ d :: s) = some (.node id [], d :: s) := by
  have hport : port? (d :: s) = none := by
    rw [port?, (hs.space hd).mark?_eq_none hc.symm []]
    rfl
  simp [nodeTerminal?, h.read hd hs hplus, hport]

omit hplus in
theorem group?_spelled (hunlike : Unlike "subgraph".toList id) (hc : c ≠ '\x7b')
    (statement? : Text → Option (Statement × Text)) : group? statement? (id ++ d :: s) = none := by
  have hbrace : ∀ {c' : Char} {s' : Text}, Leads c' s' → c' ≠ '\x7b' →
      braces? statement? s' = none := by
    intro c' s' hleads hne
    rw [braces?, hleads.mark?_eq_none hne.symm []]
  obtain ⟨first, hfirst, hleads⟩ := h.opens
  have hopen : first ≠ '\x7b' := by
    rcases hfirst with hfirst | rfl
    · exact Text.ne_of_class hfirst (by decide)
    · decide
  rw [group?, hbrace (hleads (d :: s)) hopen]
  rcases hunlike d s hd with hnone | ⟨tail, htail, hsome⟩
  · rw [hnone]
    rfl
  · have hname : (name? (tail ++ d :: s)).2 = d :: s := by
      rw [name?, id?_word htail (Next.space hs hd).apart]
    rw [hsome, Option.bind_some, hname, hbrace (hs.space hd) hc]
    rfl

theorem terminal?_spelled (hunlike : Unlike "subgraph".toList id) (hc : c ≠ ':') (hc' : c ≠ '\x7b')
    (statement? : Text → Option (Statement × Text)) :
    terminal? statement? (id ++ d :: s) = some (.node id [], d :: s) := by
  rw [terminal?, group?_spelled h hd hs hunlike hc']
  exact nodeTerminal?_spelled h hd hs hplus hc

theorem assignment?_spelled (hc : c ≠ '=') : assignment? (id ++ d :: s) = none := by
  rw [assignment?, h.read hd hs hplus]
  simp [(hs.space hd).mark?_eq_none hc.symm []]

end Terminal

theorem Named.defaults?_eq_none {id : Text} (h : Named id) {d : Char} (hd : isSpace d = true)
    (s : Text) : defaults? (id ++ d :: s) = none := by
  unfold defaults?
  rw [List.findSome?_eq_none_iff]
  intro subject _
  have hword : subject.word ∈ keywords := by cases subject <;> decide
  rcases h.unlike _ hword d s hd with hnone | ⟨tail, htail, hsome⟩
  · rw [hnone]
  · obtain ⟨first, hfirst, hleads⟩ := htail.leads
    rw [hsome]
    simp [bracket?_of_leads (hleads (d :: s)) (Text.ne_of_class hfirst (by decide))]

section Space

variable {c : Char} (h : isSpace c = true) (s : Text)

include h

theorem terminal?_space (statement? : Text → Option (Statement × Text)) :
    terminal? statement? (c :: s) = terminal? statement? s := by
  simp only [terminal?, group?, braces?, nodeTerminal?, keyword?_space h, mark?_space h,
    id?_space h]

theorem statement?_space (depth : Nat) : statement? depth (c :: s) = statement? depth s := by
  cases depth with
  | zero => rfl
  | succ depth =>
      have hdefaults : defaults? (c :: s) = defaults? s := by
        simp only [defaults?, keyword?_space h]
      have halone : alone (c :: s) = alone s := by
        funext r
        unfold alone
        rw [hdefaults]
      have hassignment : assignment? (c :: s) = assignment? s := by
        simp only [assignment?, id?_space h]
      simp only [statement?, hassignment, terminal?_space h, halone]

end Space

end Flowchart.Digraph
