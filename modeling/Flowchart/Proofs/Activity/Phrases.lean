import Flowchart.Activity.Reader
import Flowchart.Proofs.Activity.Plain
import Flowchart.Proofs.Text.Lines
import Flowchart.Proofs.UniqueIds
import Mathlib.Data.List.Chain

/-!
# Phrases and their lines

A plain phrase is written as one line, which is read back as the statement of the phrase.
-/

namespace Flowchart.Activity

/-! ## Escapes -/

theorem unescape_escape (s : Text) : unescape (escape s) = s := by
  induction s with
  | nil => rfl
  | cons c s ih =>
      rw [escape, List.flatMap_cons]
      unfold escape at ih
      by_cases hslash : c = '\\'
      · subst hslash
        exact congrArg _ ih
      · by_cases hfeed : c = '\n'
        · subst hfeed
          exact congrArg _ ih
        · by_cases hsemicolon : c = ';'
          · subst hsemicolon
            exact congrArg _ ih
          · by_cases hcolon : c = ':'
            · subst hcolon
              exact congrArg _ ih
            · have hself : escapeChar c = [c] := by
                simp [escapeChar, hslash, hfeed, hsemicolon, hcolon]
              rw [hself, List.singleton_append, unescape, ih]
              · rintro s' rfl
                exact absurd rfl hslash
              all_goals simp [hslash]

theorem escapeChar_eq (c : Char) :
    escapeChar c = [c] ∨
      ∃ d, escapeChar c = ['\\', d] ∧ (d = c ∨ d = 'n') ∧ d ≠ '/' ∧ d ≠ '\'' := by
  by_cases hslash : c = '\\'
  · exact .inr ⟨'\\', by simp [escapeChar, hslash], by simp [hslash], by decide, by decide⟩
  · by_cases hfeed : c = '\n'
    · exact .inr ⟨'n', by simp [escapeChar, hfeed], by simp, by decide, by decide⟩
    · by_cases hsemicolon : c = ';'
      · exact .inr ⟨';', by simp [escapeChar, hsemicolon], by simp [hsemicolon], by decide,
          by decide⟩
      · by_cases hcolon : c = ':'
        · exact .inr ⟨':', by simp [escapeChar, hcolon], by simp [hcolon], by decide, by decide⟩
        · exact .inl (by simp [escapeChar, hslash, hfeed, hsemicolon, hcolon])

theorem escape_cons (c : Char) (s : Text) : escape (c :: s) = escapeChar c ++ escape s := rfl

theorem mem_escape {c : Char} {s : Text} (h : c ∈ escape s) :
    c ∈ s ∧ c ≠ '\n' ∨ c = '\\' ∨ c = 'n' := by
  obtain ⟨d, hd, hc⟩ := List.mem_flatMap.1 h
  by_cases hfeed : d = '\n'
  · subst hfeed
    exact .inr (by simpa [escapeChar] using hc)
  · rcases escapeChar_eq d with heq | ⟨e, heq, he, -, -⟩
    · rw [heq, List.mem_singleton] at hc
      exact hc ▸ .inl ⟨hd, hfeed⟩
    · rw [heq, List.mem_cons, List.mem_singleton] at hc
      rcases hc with hc | rfl
      · exact .inr (.inl hc)
      · rcases he with rfl | hn
        · exact .inl ⟨hd, hfeed⟩
        · exact .inr (.inr hn)

theorem escape_ne_nil {s : Text} (h : s ≠ []) : escape s ≠ [] := by
  obtain ⟨c, rest, rfl⟩ := List.exists_cons_of_ne_nil h
  rw [escape_cons]
  rcases escapeChar_eq c with heq | ⟨d, heq, -⟩ <;> simp [heq]

/-! ## Comments -/

def Commentless (s : Text) : Prop := List.IsChain (fun a b => a = '/' → b ≠ '\'') s

theorem Commentless.cons {c : Char} {s : Text} (h : Commentless s) (hc : c ≠ '/') :
    Commentless (c :: s) :=
  List.isChain_cons.2 ⟨fun _ _ hslash => absurd hslash hc, h⟩

theorem Commentless.after {s rest : Text} (h : Commentless rest) (hs : '/' ∉ s) :
    Commentless (s ++ rest) := by
  induction s with
  | nil => exact h
  | cons c s ih =>
      rw [List.mem_cons, not_or] at hs
      exact (ih hs.2).cons (Ne.symm hs.1)

theorem commentless_of_not_mem {s : Text} (h : '/' ∉ s) : Commentless s := by
  rw [← List.append_nil s]
  exact Commentless.after .nil h

theorem Commentless.append {s rest : Text} (h : Commentless s) (hrest : Commentless rest)
    (hhead : rest.head? ≠ some '\'') : Commentless (s ++ rest) := by
  refine List.IsChain.append h hrest ?_
  rintro _ _ y hy - rfl
  exact hhead hy

theorem commentless_of_occursIn {s : Text} (h : Text.occursIn "/'".toList s = false) :
    Commentless s := by
  induction s with
  | nil => exact .nil
  | cons c s ih =>
      rw [Text.occursIn, Bool.or_eq_false_iff] at h
      refine List.isChain_cons.2 ⟨?_, ih h.2⟩
      rintro d hd rfl rfl
      obtain ⟨rest, rfl⟩ : ∃ rest, s = '\'' :: rest := by
        cases s with
        | nil => simp at hd
        | cons e rest => exact ⟨rest, by simpa using hd⟩
      exact absurd h.1 (by simp [Text.startsWith, Text.after?])

theorem dropBlockComments_of_commentless {s : Text} (h : Commentless s) :
    dropBlockComments s = s := by
  induction s with
  | nil => rfl
  | cons c s ih =>
      have hnone : blockComment? (c :: s) = none := by
        have hafter : Text.after? "/'".toList (c :: s) = none := by
          by_cases hc : c = '/'
          · cases s with
            | nil => simp [Text.after?, hc]
            | cons d s =>
                have hd : d ≠ '\'' := (List.isChain_cons_cons.1 h).1 hc
                simp [Text.after?, hc, Ne.symm hd]
          · simp [Text.after?, Ne.symm hc]
        rw [blockComment?, hafter]
        rfl
      rw [dropBlockComments, Text.substitute, hnone]
      exact congrArg _ (ih (List.isChain_cons.1 h).2)

theorem Commentless.escape {s : Text} (h : Commentless s) : Commentless (escape s) := by
  induction s with
  | nil => exact .nil
  | cons c s ih =>
      have hrest := ih (List.isChain_cons.1 h).2
      rw [escape_cons]
      rcases escapeChar_eq c with heq | ⟨d, heq, -, hslash, -⟩
      · rw [heq, List.singleton_append]
        refine List.isChain_cons.2 ⟨?_, hrest⟩
        rintro d hd hc rfl
        cases s with
        | nil => simp [Activity.escape] at hd
        | cons e s =>
            rw [escape_cons] at hd
            have he : e ≠ '\'' := (List.isChain_cons_cons.1 h).1 hc
            rcases escapeChar_eq e with heq' | ⟨f, heq', -⟩
            · exact he (by simpa [heq'] using hd)
            · simp [heq'] at hd
      · rw [heq, List.cons_append, List.singleton_append]
        exact (hrest.cons hslash).cons (by decide)

/-! ## Parts of a line -/

theorem plainText_escape {s : Text} (h : PlainLine s) : plainText (escape s) = s := by
  rw [plainText, unescape_escape, h.trimmed]

theorem labelOf_escape {s : Text} (h : PlainLine s) : labelOf (escape s) = some s := by
  rw [labelOf, plainText_escape h]
  cases s with
  | nil => exact absurd rfl h.nonempty
  | cons c s => rfl

theorem not_mem_escape {c : Char} {s : Text} (h : c ∉ s) (hslash : c ≠ '\\') (hn : c ≠ 'n') :
    c ∉ escape s := by
  intro hc
  rcases mem_escape hc with ⟨hc, -⟩ | hc | hc
  · exact h hc
  · exact hslash hc
  · exact hn hc

def tag : Option Text → Text
  | none => []
  | some s => " (".toList ++ escape s ++ [')']

theorem name_of_plainLabel {label : Json} (h : PlainLabel label) :
    label.isVoid = true ∧ label.name? = none ∨
      ∃ s, PlainLine s ∧ label = .str s ∧ label.name? = some s := by
  rcases h with hvoid | ⟨s, rfl, hs⟩
  · exact .inl ⟨hvoid, name_of_isVoid hvoid⟩
  · refine .inr ⟨s, hs, rfl, ?_⟩
    simp [Json.name?, hs.nonempty]

theorem parentheses_of_plainLabel {label : Json} (h : PlainLabel label) :
    parentheses label = .ok (tag label.name?) := by
  rcases name_of_plainLabel h with ⟨hvoid, hname⟩ | ⟨s, hs, rfl, hname⟩
  · simp [parentheses, hvoid, hname, tag]
  · simp [parentheses, hs.not_void, hname, tag, escaped, Except.map]

def PlainName (name : Option Text) : Prop := ∀ s, name = some s → PlainLine s

theorem PlainLabel.name {label : Json} (h : PlainLabel label) : PlainName label.name? := by
  rcases name_of_plainLabel h with ⟨-, hname⟩ | ⟨s, hs, -, hname⟩
  · simp [PlainName, hname]
  · intro t ht
    rw [hname] at ht
    exact Option.some.inj ht ▸ hs

theorem before?_append (ending s : Text) : Text.before? ending (s ++ ending) = some s := by
  simp [Text.before?]

theorem parenthesized_append (s : Text) : parenthesized? ('(' :: s ++ [')']) = some s := by
  simp only [parenthesized?, List.cons_append]
  exact before?_append [')'] s

theorem thenPart_tag {name : Option Text} (h : PlainName name) :
    thenPart? (" then".toList ++ tag name) = some name := by
  have hleft : Text.trimLeft (" then".toList ++ tag name) = 't' :: ("hen".toList ++ tag name) :=
    rfl
  have hafter : Text.after? "then".toList ('t' :: ("hen".toList ++ tag name)) =
      some (tag name) := Text.after?_append "then".toList _
  simp only [thenPart?, hleft, hafter, Option.bind_eq_bind, Option.bind_some]
  cases name with
  | none => rfl
  | some s =>
      change (parenthesized? ('(' :: escape s ++ [')'])).map labelOf = _
      rw [parenthesized_append, Option.map_some, labelOf_escape (h s rfl)]

theorem conditionUpTo_append {s rest : Text} (h : ')' ∉ s) {label : Option Text}
    (hrest : thenPart? rest = some label) :
    conditionUpTo? (s ++ ')' :: rest) = some (s, label) := by
  induction s with
  | nil => simp [conditionUpTo?, hrest]
  | cons c s ih =>
      rw [List.mem_cons, not_or] at h
      have hc : (c == ')') = false := beq_eq_false_iff_ne.2 (Ne.symm h.1)
      simp [conditionUpTo?, hc, ih h.2]

theorem condition_append {s : Text} (hs : PlainLine s) {name : Option Text} (h : PlainName name) :
    condition? (" (".toList ++ escape s ++ ") then".toList ++ tag name) = some (s, name) := by
  obtain ⟨c, rest, hrest⟩ := List.exists_cons_of_ne_nil (escape_ne_nil hs.nonempty)
  have hclosed : ')' ∉ escape s := not_mem_escape hs.unclosed (by decide) (by decide)
  have hleft : Text.trimLeft (" (".toList ++ escape s ++ ") then".toList ++ tag name) =
      '(' :: c :: (rest ++ ')' :: (" then".toList ++ tag name)) := by
    rw [hrest]
    simp [Text.trimLeft, Text.isBlank]
  rw [hrest, List.mem_cons, not_or] at hclosed
  rw [condition?, hleft]
  change (conditionUpTo? (rest ++ ')' :: (" then".toList ++ tag name))).map _ = _
  rw [conditionUpTo_append hclosed.2 (thenPart_tag h), Option.map_some, ← hrest,
    plainText_escape hs]

/-! ## Kinds of lines -/

section Kinds

variable {line : Text} {statement : Statement}

theorem exists_of_activity (h : activity? line = some statement) :
    ∃ text, statement = .activity text := by
  obtain ⟨text, -, rfl⟩ := Option.map_eq_some_iff.1 h
  exact ⟨_, rfl⟩

theorem exists_of_ifThen (h : ifThen? line = some statement) :
    ∃ condition label, statement = .ifThen condition label := by
  obtain ⟨rest, -, h⟩ := Option.bind_eq_some_iff.1 h
  obtain ⟨⟨condition, label⟩, -, h⟩ := Option.bind_eq_some_iff.1 h
  exact ⟨condition, label, (Option.some.inj h).symm⟩

theorem exists_of_elseIf (h : elseIf? line = some statement) :
    ∃ no condition label, statement = .elseIf no condition label := by
  have hrest : ∀ {keywords : Text} {no : Text},
      ((afterPair? "else".toList "if".toList keywords).bind fun rest =>
        (condition? rest).bind fun r => some (Statement.elseIf no r.1 r.2)) = some statement →
      ∃ no condition label, statement = .elseIf no condition label := by
    intro keywords no h
    obtain ⟨rest, -, h⟩ := Option.bind_eq_some_iff.1 h
    obtain ⟨⟨condition, label⟩, -, h⟩ := Option.bind_eq_some_iff.1 h
    exact ⟨no, condition, label, (Option.some.inj h).symm⟩
  unfold elseIf? at h
  split at h
  · split at h
    · exact hrest h
    · cases h
  · exact hrest h

theorem exists_of_otherwise (h : otherwise? line = some statement) :
    ∃ label, statement = .otherwise label := by
  unfold otherwise? at h
  split at h
  · cases h
  · exact ⟨none, (Option.some.inj h).symm⟩
  · obtain ⟨label, -, rfl⟩ := Option.map_eq_some_iff.1 h
    exact ⟨_, rfl⟩

theorem eq_of_endIf (h : endIf? line = some statement) : statement = .endIf := by
  unfold endIf? at h
  split at h
  · exact (Option.some.inj h).symm
  · cases h

theorem exists_of_arrow (h : arrow? line = some statement) : ∃ label, statement = .arrow label := by
  unfold arrow? at h
  split at h
  · dsimp only at h
    split at h
    · exact ⟨_, (Option.some.inj h).symm⟩
    · cases h
  · cases h

def ReadFrom (line : Text) : Statement → Prop
  | .start => line = "start".toList
  | .stop => line ∈ terminators
  | .activity text => activity? line = some (.activity text)
  | .ifThen condition label => ifThen? line = some (.ifThen condition label)
  | .elseIf no condition label => elseIf? line = some (.elseIf no condition label)
  | .otherwise label => otherwise? line = some (.otherwise label)
  | .endIf => endIf? line = some .endIf
  | .label name => nameAfter? "label".toList line = some name
  | .goto name => nameAfter? "goto".toList line = some name
  | .arrow label => arrow? line = some (.arrow label)

theorem readFrom_of_read (h : Statement.read? line = some statement) :
    ReadFrom line statement := by
  unfold Statement.read? at h
  split at h
  · rw [← Option.some.inj h]
    assumption
  · split at h
    · rename_i hmem
      rw [← Option.some.inj h]
      exact List.contains_iff_mem.1 hmem
    · simp only [Option.orElse_eq_orElse, Option.orElse_eq_or, Option.or_eq_some_iff] at h
      rcases h with h | ⟨-, h | ⟨-, h | ⟨-, h | ⟨-, h | ⟨-, h | ⟨-, h | ⟨-, h⟩⟩⟩⟩⟩⟩⟩
      · obtain ⟨text, rfl⟩ := exists_of_activity h
        exact h
      · obtain ⟨condition, label, rfl⟩ := exists_of_ifThen h
        exact h
      · obtain ⟨no, condition, label, rfl⟩ := exists_of_elseIf h
        exact h
      · obtain ⟨label, rfl⟩ := exists_of_otherwise h
        exact h
      · obtain rfl := eq_of_endIf h
        exact h
      · obtain ⟨name, hname, rfl⟩ := Option.map_eq_some_iff.1 h
        exact hname
      · obtain ⟨name, hname, rfl⟩ := Option.map_eq_some_iff.1 h
        exact hname
      · obtain ⟨label, rfl⟩ := exists_of_arrow h
        exact h

end Kinds

/-! ## Whole lines -/

/-- What a line has to be so that nothing but its statement is read from it. -/
structure Tidy (line : Text) : Prop where
  starts : ∃ c rest, line = c :: rest ∧ c ∈ [':', 'i', 'e', 's', 'g', 'l']
  ends : ∀ c, line.getLast? = some c → Text.isBlank c = false
  unbroken : ∀ c ∈ line, Text.isBreak c = false
  commentless : Commentless line
  whole : line.head? = some ':' → Text.endsWith line [';'] = true

/-- A line that a phrase is written as and read back from. -/
structure Spells (line : Text) (phrase : Phrase) : Prop where
  written : phrase.text = .ok line
  read : Statement.read? line = some phrase.statement
  tidy : Tidy line

theorem unbroken_escape {s : Text} (h : Spoken s) : ∀ c ∈ escape s, Text.isBreak c = false := by
  intro c hc
  rcases mem_escape hc with ⟨hc, hfeed⟩ | rfl | rfl
  · rw [Bool.eq_false_iff]
    exact fun hbreak => hfeed (h.unbroken c hc hbreak)
  · decide
  · decide

def SpokenName (name : Option Text) : Prop := ∀ s, name = some s → Spoken s

theorem PlainName.spoken {name : Option Text} (h : PlainName name) : SpokenName name :=
  fun s hs => (h s hs).spoken

theorem unbroken_tag {name : Option Text} (h : SpokenName name) :
    ∀ c ∈ tag name, Text.isBreak c = false := by
  cases name with
  | none => simp [tag]
  | some s =>
      intro c hc
      simp only [tag, List.mem_append, List.mem_singleton] at hc
      rcases hc with (hc | hc) | rfl
      · exact Text.none_of_all rfl c hc
      · exact unbroken_escape (h s rfl) c hc
      · decide

theorem commentless_tag {name : Option Text} (h : SpokenName name) : Commentless (tag name) := by
  cases name with
  | none => exact .nil
  | some s =>
      rw [tag, List.append_assoc]
      refine Commentless.after ?_ (by decide)
      exact (commentless_of_occursIn (h s rfl).uncommented).escape.append
        (.singleton _) (by decide)

theorem ends_tag {name : Option Text} {s : Text} (hs : ∀ c, s.getLast? = some c →
    Text.isBlank c = false) : ∀ c, (s ++ tag name).getLast? = some c → Text.isBlank c = false := by
  cases name with
  | none => simpa [tag] using hs
  | some label =>
      intro c hc
      rw [tag, ← List.append_assoc, List.getLast?_concat] at hc
      obtain rfl : ')' = c := by simpa using hc
      decide

theorem tidy_activity {s : Text} (h : Spoken s) : Tidy (':' :: escape s ++ [';']) where
  starts := ⟨':', _, rfl, by simp⟩
  ends := by
    intro c hc
    rw [List.getLast?_concat] at hc
    obtain rfl : ';' = c := by simpa using hc
    decide
  unbroken := by
    intro c hc
    rcases List.mem_append.1 hc with hc | hc
    · rcases List.mem_cons.1 hc with rfl | hc
      · decide
      · exact unbroken_escape h c hc
    · rw [List.mem_singleton.1 hc]
      decide
  commentless := ((commentless_of_occursIn h.uncommented).escape.cons (by decide)).append
    (.singleton _) (by decide)
  whole := fun _ => by
    rw [Text.endsWith, before?_append]
    rfl

theorem spells_activity {s : Text} (h : PlainLine s) :
    Spells (':' :: escape s ++ [';']) (.activity (.str s)) where
  written := rfl
  read := by
    have hne : ':' :: escape s ++ [';'] ≠ "start".toList := by simp
    have hterminators : terminators.contains (':' :: escape s ++ [';']) = false := by
      simp [terminators]
    have hactivity : activity? (':' :: escape s ++ [';']) = some (.activity s) := by
      change ((Text.before? [';'] (escape s ++ [';'])).map _) = _
      rw [before?_append, Option.map_some, plainText_escape h]
    rw [Statement.read?, if_neg hne, hterminators, hactivity]
    rfl
  tidy := tidy_activity h.spoken

def conditionText (s : Text) (name : Option Text) : Text :=
  " (".toList ++ escape s ++ ") then".toList ++ tag name

theorem tidy_conditionText {word : Text} (c : Char) (rest : Text) (hword : word = c :: rest)
    (hstart : c ∈ ['i', 'e']) (hslash : '/' ∉ word) (hbreak : ∀ d ∈ word, Text.isBreak d = false)
    {s : Text} (hs : Spoken s) {name : Option Text} (h : SpokenName name) :
    Tidy (word ++ conditionText s name) where
  starts := by
    refine ⟨c, rest ++ conditionText s name, by rw [hword, List.cons_append], ?_⟩
    simp only [List.mem_cons, List.not_mem_nil, or_false] at hstart ⊢
    rcases hstart with rfl | rfl <;> simp
  ends := by
    have hshape : word ++ conditionText s name =
        word ++ (" (".toList ++ escape s ++ ") then".toList) ++ tag name :=
      (List.append_assoc ..).symm
    rw [hshape]
    apply ends_tag
    intro d hd
    rw [List.getLast?_append, List.getLast?_append] at hd
    obtain rfl : 'n' = d := by simpa using hd
    decide
  unbroken := by
    intro d hd
    simp only [conditionText, List.mem_append] at hd
    rcases hd with hd | ((hd | hd) | hd) | hd
    · exact hbreak d hd
    · exact Text.none_of_all rfl d hd
    · exact unbroken_escape hs d hd
    · exact Text.none_of_all rfl d hd
    · exact unbroken_tag h d hd
  commentless := by
    have hshape : conditionText s name =
        " (".toList ++ (escape s ++ (") then".toList ++ tag name)) :=
      (List.append_assoc ..).trans (List.append_assoc ..)
    refine Commentless.after ?_ hslash
    rw [hshape]
    refine Commentless.after ?_ (by decide)
    refine (commentless_of_occursIn hs.uncommented).escape.append ?_ (by simp)
    exact Commentless.after (commentless_tag h) (by decide)
  whole := by
    intro hcolon
    obtain rfl : c = ':' := by simpa [hword] using hcolon
    simp at hstart

theorem tidy_ifThen {s : Text} (hs : Spoken s) {name : Option Text} (h : SpokenName name) :
    Tidy ("if".toList ++ conditionText s name) :=
  tidy_conditionText 'i' ['f'] rfl (by simp) (by decide) (Text.none_of_all rfl) hs h

theorem tidy_elseIf {s : Text} (hs : Spoken s) {name : Option Text} (h : SpokenName name) :
    Tidy ("elseif".toList ++ conditionText s name) :=
  tidy_conditionText 'e' "lseif".toList rfl (by simp) (by decide) (Text.none_of_all rfl) hs h

theorem tidy_otherwise {name : Option Text} (h : SpokenName name) :
    Tidy ("else".toList ++ tag name) where
  starts := ⟨'e', _, rfl, by simp⟩
  ends := ends_tag fun c hc => (Option.some.inj hc : 'e' = c) ▸ rfl
  unbroken := by
    intro c hc
    rw [List.mem_append] at hc
    rcases hc with hc | hc
    · exact Text.none_of_all rfl c hc
    · exact unbroken_tag h c hc
  commentless := Commentless.after (commentless_tag h) (by decide)
  whole := by simp

theorem spells_ifThen {s : Text} (hs : PlainLine s) {label : Json} (h : PlainLabel label) :
    Spells ("if".toList ++ conditionText s label.name?) (.ifThen (.str s) label) where
  written := by
    simp [Phrase.text, escaped, parentheses_of_plainLabel h, conditionText, bind, Except.bind,
      pure, Except.pure]
  read := by
    have hif : ifThen? ("if".toList ++ conditionText s label.name?) =
        some (.ifThen s label.name?) := by
      rw [ifThen?, Text.after?_append]
      change (condition? (conditionText s label.name?)).bind _ = _
      rw [conditionText, condition_append hs h.name]
      rfl
    rw [Statement.read?, hif]
    rfl
  tidy := tidy_ifThen hs.spoken h.name.spoken

theorem spells_elseIf {s : Text} (hs : PlainLine s) {label : Json} (h : PlainLabel label) :
    Spells ("elseif".toList ++ conditionText s label.name?) (.elseIf (.str s) label) where
  written := by
    simp [Phrase.text, escaped, parentheses_of_plainLabel h, conditionText, bind, Except.bind,
      pure, Except.pure]
  read := by
    have hif : elseIf? ("elseif".toList ++ conditionText s label.name?) =
        some (.elseIf "no".toList s label.name?) := by
      change (condition? (conditionText s label.name?)).bind _ = _
      rw [conditionText, condition_append hs h.name]
      rfl
    rw [Statement.read?, hif]
    rfl
  tidy := tidy_elseIf hs.spoken h.name.spoken

theorem spells_otherwise {label : Json} (h : PlainLabel label) :
    Spells ("else".toList ++ tag label.name?) (.otherwise label) where
  written := by simp [Phrase.text, parentheses_of_plainLabel h, Except.map]
  read := by
    have helse : otherwise? ("else".toList ++ tag label.name?) =
        some (.otherwise label.name?) := by
      rw [otherwise?, Text.after?_append]
      cases hname : label.name? with
      | none => rfl
      | some s =>
          change (parenthesized? ('(' :: escape s ++ [')'])).map _ = _
          rw [parenthesized_append, Option.map_some, labelOf_escape (h.name s hname)]
    have hnot : elseIf? ("else".toList ++ tag label.name?) = none := by
      cases label.name? <;> rfl
    rw [Statement.read?, hnot, helse, Phrase.statement]
    cases label.name? <;> rfl
  tidy := tidy_otherwise h.name.spoken

theorem nameAfter_append {word name : Text} {c : Char} {rest : Text} (hname : name = c :: rest)
    (h : ∀ d ∈ name, Text.isBlank d = false) :
    nameAfter? word (word ++ ' ' :: name) = some name := by
  have hleft : Text.trimLeft name = name := by
    rw [hname]
    exact Text.trimLeft_cons (h c (by simp [hname])) rest
  have hall : name.all (!Text.isBlank ·) = true := by simpa using h
  have hne : name.isEmpty = false := by simp [hname]
  rw [nameAfter?, Text.after?_append]
  simp only [hleft, hall, hne]
  rfl

theorem not_blank_of_mem_labelName {id : Text} {c : Char} (h : c ∈ labelName id) :
    Text.isBlank c = false := by
  have hextends : ∀ d ∈ "label_".toList, Text.isBlank d = false := Text.none_of_all rfl
  rcases List.mem_append.1 h with h | h
  · exact hextends c h
  · exact UniqueIds.not_blank_of_isPlain (UniqueIds.isPlain_of_mem_sanitize h)

theorem not_slash_mem_labelName (id : Text) : '/' ∉ labelName id := by
  intro h
  rcases List.mem_append.1 h with h | h
  · exact absurd h (by decide)
  · exact absurd (UniqueIds.isPlain_of_mem_sanitize h) (by decide)

theorem tidy_nameLine {word : Text} (c : Char) (rest : Text) (hword : word = c :: rest)
    (hstart : c ∈ ['l', 'g']) (hslash : '/' ∉ word) (hbreak : ∀ d ∈ word, Text.isBreak d = false)
    (id : Text) : Tidy (word ++ ' ' :: labelName id) where
  starts := by
    refine ⟨c, rest ++ ' ' :: labelName id, by rw [hword, List.cons_append], ?_⟩
    simp only [List.mem_cons, List.not_mem_nil, or_false] at hstart ⊢
    rcases hstart with rfl | rfl <;> simp
  ends := by
    intro d hd
    have hne : labelName id ≠ [] := List.append_ne_nil_of_left_ne_nil (by decide) _
    rw [List.getLast?_append, List.getLast?_cons,
      List.getLast?_eq_some_getLast hne] at hd
    obtain rfl : (labelName id).getLast hne = d := by simpa using hd
    exact not_blank_of_mem_labelName (List.getLast_mem hne)
  unbroken := by
    intro d hd
    rw [List.mem_append, List.mem_cons] at hd
    rcases hd with hd | rfl | hd
    · exact hbreak d hd
    · decide
    · exact Text.not_break_of_not_blank (not_blank_of_mem_labelName hd)
  commentless := by
    have hall : '/' ∉ word ++ ' ' :: labelName id := by
      simp [hslash, not_slash_mem_labelName id]
    exact commentless_of_not_mem hall
  whole := by
    intro hcolon
    obtain rfl : c = ':' := by simpa [hword] using hcolon
    simp at hstart

theorem spells_goto (id : Text) : Spells ("goto".toList ++ ' ' :: labelName id) (.goto id) where
  written := rfl
  read := by
    have hname : nameAfter? "goto".toList ("goto".toList ++ ' ' :: labelName id) =
        some (labelName id) :=
      nameAfter_append rfl fun _ => not_blank_of_mem_labelName
    rw [Statement.read?, hname]
    rfl
  tidy := tidy_nameLine 'g' "oto".toList rfl (by simp) (by decide) (Text.none_of_all rfl) id

theorem spells_label (id : Text) : Spells ("label".toList ++ ' ' :: labelName id) (.label id) where
  written := rfl
  read := by
    have hname : nameAfter? "label".toList ("label".toList ++ ' ' :: labelName id) =
        some (labelName id) :=
      nameAfter_append rfl fun _ => not_blank_of_mem_labelName
    rw [Statement.read?, hname]
    rfl
  tidy := tidy_nameLine 'l' "abel".toList rfl (by simp) (by decide) (Text.none_of_all rfl) id

theorem tidy_word {word : Text} (c : Char) (rest : Text) (hword : word = c :: rest)
    (hstart : c ∈ ['s', 'e']) (hslash : '/' ∉ word)
    (hsolid : ∀ d ∈ word, Text.isBlank d = false) : Tidy word where
  starts := by
    refine ⟨c, rest, hword, ?_⟩
    simp only [List.mem_cons, List.not_mem_nil, or_false] at hstart ⊢
    rcases hstart with rfl | rfl <;> simp
  ends := fun d hd => hsolid d (List.mem_of_getLast? hd)
  unbroken := fun d hd => Text.not_break_of_not_blank (hsolid d hd)
  commentless := commentless_of_not_mem hslash
  whole := by
    intro hcolon
    obtain rfl : c = ':' := by simpa [hword] using hcolon
    simp at hstart

theorem spells_start : Spells "start".toList .start :=
  ⟨rfl, rfl, tidy_word 's' "tart".toList rfl (by simp) (by decide) (Text.none_of_all rfl)⟩

theorem spells_stop : Spells "stop".toList .stop :=
  ⟨rfl, rfl, tidy_word 's' "top".toList rfl (by simp) (by decide) (Text.none_of_all rfl)⟩

theorem spells_endIf : Spells "endif".toList .endIf :=
  ⟨rfl, rfl, tidy_word 'e' "ndif".toList rfl (by simp) (by decide) (Text.none_of_all rfl)⟩

theorem exists_spells {phrase : Phrase} (h : phrase.Plain) : ∃ line, Spells line phrase := by
  cases phrase with
  | start => exact ⟨_, spells_start⟩
  | activity value =>
      obtain ⟨s, rfl, hs⟩ := h
      exact ⟨_, spells_activity hs⟩
  | stop => exact ⟨_, spells_stop⟩
  | ifThen condition label =>
      obtain ⟨⟨s, rfl, hs⟩, hlabel⟩ := h
      exact ⟨_, spells_ifThen hs hlabel⟩
  | elseIf condition label =>
      obtain ⟨⟨s, rfl, hs⟩, hlabel⟩ := h
      exact ⟨_, spells_elseIf hs hlabel⟩
  | otherwise label => exact ⟨_, spells_otherwise h⟩
  | endIf => exact ⟨_, spells_endIf⟩
  | goto id => exact ⟨_, spells_goto id⟩
  | label id => exact ⟨_, spells_label id⟩

end Flowchart.Activity
