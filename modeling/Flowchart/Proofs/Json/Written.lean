import Flowchart.Proofs.Json.Strings
import Flowchart.Proofs.Text.Lines

/-!
# Reading what was written

Every value without floating-point numbers is read back from its written form, on one line or spread
over lines. A value is followed by a mark or by blanks, so that its number, if it is one, ends.
-/

namespace Flowchart.Json

mutual

/-- Numbers are whole and have few digits, and the keys of an object differ. -/
def Exact : Json → Prop
  | .int n => FewDigits n
  | .float _ => False
  | .arr items => ExactItems items
  | .obj fields => (Fields.keys fields).Nodup ∧ ExactFields fields
  | _ => True

def ExactItems : List Json → Prop
  | [] => True
  | item :: items => Exact item ∧ ExactItems items

def ExactFields : Fields → Prop
  | [] => True
  | (_, value) :: fields => Exact value ∧ ExactFields fields

end

def Spaced (s : Text) : Prop := ∀ c ∈ s, isSpace c = true

theorem skipSpace_spaced_append {s : Text} (h : Spaced s) (rest : Text) :
    skipSpace (s ++ rest) = skipSpace rest :=
  List.dropWhile_append_of_pos h

theorem skipSpace_cons {c : Char} (h : isSpace c = false) (rest : Text) :
    skipSpace (c :: rest) = c :: rest := by
  simp [skipSpace, h]

def Style.Spaced (style : Style) : Prop := ∀ unit, style.indent = some unit → Json.Spaced unit

theorem spaced_newline {unit : Text} (h : Spaced unit) (depth : Nat) :
    Spaced (newline unit depth) := by
  intro c hc
  rcases List.mem_cons.1 hc with rfl | hc
  · rfl
  · obtain ⟨piece, hpiece, hc⟩ := List.mem_flatten.1 hc
    exact h c (List.eq_of_mem_replicate hpiece ▸ hc)

theorem exists_gaps {style : Style} (h : style.Spaced) (depth : Nat) :
    ∃ lead sep trail : Text, Spaced lead ∧ Spaced sep ∧ Spaced trail ∧
      ∀ opening closing parts, parts ≠ [] → enclose style depth opening closing parts =
        opening :: (lead ++ (Text.join (',' :: sep) parts ++ (trail ++ [closing]))) := by
  cases hindent : style.indent with
  | none =>
      refine ⟨[], [' '], [], by simp [Spaced], by simp [Spaced, isSpace], by simp [Spaced], ?_⟩
      intro opening closing parts hparts
      simp [enclose, hindent, hparts]
  | some unit =>
      have hunit := h unit hindent
      refine ⟨newline unit (depth + 1), newline unit (depth + 1), newline unit depth,
        spaced_newline hunit _, spaced_newline hunit _, spaced_newline hunit _, ?_⟩
      intro opening closing parts hparts
      simp [enclose, hindent, hparts]

theorem endsNumber_cons {c : Char} (h : Text.isAsciiDigit c = false) (hc : c ∉ ['.', 'e', 'E'])
    (rest : Text) : EndsNumber (c :: rest) := by
  rintro d ⟨⟩
  exact ⟨h, hc⟩

theorem endsNumber_spaced_append {s rest : Text} (h : Spaced s) (hrest : EndsNumber rest) :
    EndsNumber (s ++ rest) := by
  cases s with
  | nil => exact hrest
  | cons c s =>
      have hc := h c List.mem_cons_self
      simp only [isSpace, Bool.or_eq_true, beq_iff_eq] at hc
      rcases hc with ((rfl | rfl) | rfl) | rfl <;> exact endsNumber_cons (by decide) (by decide) _

theorem readWord?_of_digit {c : Char} (h : Text.isAsciiDigit c = true) (rest : Text) :
    readWord? (c :: rest) = none ∧ readWord? ('-' :: c :: rest) = none := by
  have hne : ∀ d, Text.isAsciiDigit d = false → ¬ d = c := by
    rintro d hd rfl
    exact absurd h (by simp [hd])
  simp [readWord?, wordValues, Text.after?, hne 'n' rfl, hne 't' rfl, hne 'f' rfl, hne 'N' rfl,
    hne 'I' rfl, hne '-' rfl]

theorem readWord?_ofInt (n : Int) (rest : Text) : readWord? (Text.ofInt n ++ rest) = none := by
  cases n with
  | ofNat m =>
      obtain ⟨c, digits, heq, -⟩ := ofNat_eq_cons m
      have hc := isAsciiDigit_of_mem_ofNat (heq ▸ List.mem_cons_self : c ∈ Text.ofNat m)
      rw [Text.ofInt, heq, List.cons_append]
      exact (readWord?_of_digit hc _).1
  | negSucc m =>
      obtain ⟨c, digits, heq, -⟩ := ofNat_eq_cons (m + 1)
      have hc := isAsciiDigit_of_mem_ofNat (heq ▸ List.mem_cons_self : c ∈ Text.ofNat (m + 1))
      rw [Text.ofInt, heq, List.cons_append, List.cons_append]
      exact (readWord?_of_digit hc _).2

theorem readScalar_ofInt {n : Int} (hn : FewDigits n) {rest : Text} (h : EndsNumber rest) :
    readScalar (Text.ofInt n ++ rest) = .ok (.int n, rest) := by
  rw [readScalar, readWord?_ofInt, readNumber_ofInt hn h]

theorem readValue_scalar (fuel : Nat) {s : Text} (h : ∀ c ∈ ['"', '{', '['], s.head? ≠ some c) :
    readValue (fuel + 1) s = readScalar s := by
  unfold readValue
  split
  case h_1 => exact absurd rfl (h '"' (by simp))
  case h_2 => exact absurd rfl (h '{' (by simp))
  case h_3 => exact absurd rfl (h '[' (by simp))
  case h_4 => rfl

theorem exists_head_ofInt (n : Int) :
    ∃ c s, Text.ofInt n = c :: s ∧ (Text.isAsciiDigit c = true ∨ c = '-') := by
  cases n with
  | ofNat m =>
      obtain ⟨c, digits, heq, -⟩ := ofNat_eq_cons m
      exact ⟨c, digits, heq, .inl (isAsciiDigit_of_mem_ofNat (heq ▸ List.mem_cons_self))⟩
  | negSucc m => exact ⟨'-', _, rfl, .inr rfl⟩

theorem readValue_ofInt (fuel : Nat) {n : Int} (hn : FewDigits n) {rest : Text}
    (h : EndsNumber rest) : readValue (fuel + 1) (Text.ofInt n ++ rest) = .ok (.int n, rest) := by
  rw [readValue_scalar, readScalar_ofInt hn h]
  intro c hc
  obtain ⟨d, s, heq, hd⟩ := exists_head_ofInt n
  rw [heq]
  rintro ⟨⟩
  simp only [List.mem_cons, List.not_mem_nil, or_false] at hc
  rcases hc with rfl | rfl | rfl <;> revert hd <;> decide

theorem readValue_writeString (fuel : Nat) (s rest : Text) :
    readValue (fuel + 1) (writeString s ++ rest) = .ok (.str s, rest) := by
  unfold readValue
  simp [writeString, readString_escaped, bind, Except.bind, pure, Except.pure]

/-- No space, closing mark or byte order mark stands here. -/
def Begins (s : Text) : Prop :=
  ∃ c t, s = c :: t ∧ isSpace c = false ∧ c ≠ ']' ∧ c ≠ '}' ∧ c ≠ '\ufeff'

theorem Begins.append {s : Text} (h : Begins s) (rest : Text) : Begins (s ++ rest) := by
  obtain ⟨c, t, rfl, hc⟩ := h
  exact ⟨c, t ++ rest, rfl, hc⟩

theorem Begins.skipSpace {s : Text} (h : Begins s) : skipSpace s = s := by
  obtain ⟨c, t, rfl, hc, -⟩ := h
  exact skipSpace_cons hc t

theorem begins_writeString (s : Text) : Begins (writeString s) :=
  ⟨'"', _, rfl, by decide⟩

section Marks

variable {fuel : Nat} {s lead sep trail more after : Text}

theorem readValue_array {items : List Json} (hlead : Spaced lead) (hs : Begins s)
    (h : readItems fuel s = .ok (items, after)) :
    readValue (fuel + 1) ('[' :: (lead ++ s)) = .ok (.arr items, after) := by
  have hskip : skipSpace (lead ++ s) = s := by
    rw [skipSpace_spaced_append hlead, hs.skipSpace]
  obtain ⟨c, t, rfl, -, hc, -⟩ := hs
  unfold readValue
  simp [hskip, hc, h, bind, Except.bind, pure, Except.pure]

theorem readItems_last {item : Json} (htrail : Spaced trail)
    (h : readValue fuel s = .ok (item, trail ++ ']' :: after)) :
    readItems (fuel + 1) s = .ok ([item], after) := by
  have hskip : skipSpace (trail ++ ']' :: after) = ']' :: after := by
    rw [skipSpace_spaced_append htrail, skipSpace_cons (by decide)]
  unfold readItems
  simp [h, hskip, bind, Except.bind, pure, Except.pure]

theorem readItems_cons {item : Json} {items : List Json} (hsep : Spaced sep) (hmore : Begins more)
    (h : readValue fuel s = .ok (item, ',' :: (sep ++ more)))
    (hitems : readItems fuel more = .ok (items, after)) :
    readItems (fuel + 1) s = .ok (item :: items, after) := by
  have hskip : skipSpace (sep ++ more) = more := by
    rw [skipSpace_spaced_append hsep, hmore.skipSpace]
  have hcomma : skipSpace (',' :: (sep ++ more)) = ',' :: (sep ++ more) :=
    skipSpace_cons (by decide) _
  unfold readItems
  simp [h, hcomma, hskip, hitems, bind, Except.bind, pure, Except.pure]

theorem readValue_object {fields : Fields} (hlead : Spaced lead) (hs : Begins s)
    (h : readFields fuel s [] = .ok (fields, after)) :
    readValue (fuel + 1) ('{' :: (lead ++ s)) = .ok (.obj fields, after) := by
  have hskip : skipSpace (lead ++ s) = s := by
    rw [skipSpace_spaced_append hlead, hs.skipSpace]
  obtain ⟨c, t, rfl, -, -, hc, -⟩ := hs
  unfold readValue
  simp [hskip, hc, h, bind, Except.bind, pure, Except.pure]

def writeField (field : Text × Text) : Text := writeString field.1 ++ ": ".toList ++ field.2

theorem readFields_last {key : Text} {value : Json} {known : Fields} (hs : Begins s)
    (htrail : Spaced trail) (h : readValue fuel s = .ok (value, trail ++ '}' :: after)) :
    readFields (fuel + 1) (writeField (key, s)) known = .ok (known.put key value, after) := by
  have hskip : skipSpace (trail ++ '}' :: after) = '}' :: after := by
    rw [skipSpace_spaced_append htrail, skipSpace_cons (by decide)]
  have hcolon : skipSpace (':' :: ' ' :: s) = ':' :: ' ' :: s := skipSpace_cons (by decide) _
  have hspace : skipSpace (' ' :: s) = s := hs.skipSpace
  unfold readFields
  simp [writeField, writeString, readString_escaped, hcolon, hspace, h, hskip, bind, Except.bind,
    pure, Except.pure]

theorem readFields_cons {key : Text} {value : Json} {known fields : Fields} (hs : Begins s)
    (hsep : Spaced sep) (hmore : Begins more)
    (h : readValue fuel s = .ok (value, ',' :: (sep ++ more)))
    (hfields : readFields fuel more (known.put key value) = .ok (fields, after)) :
    readFields (fuel + 1) (writeField (key, s)) known = .ok (fields, after) := by
  have hskip : skipSpace (sep ++ more) = more := by
    rw [skipSpace_spaced_append hsep, hmore.skipSpace]
  have hcomma : skipSpace (',' :: (sep ++ more)) = ',' :: (sep ++ more) :=
    skipSpace_cons (by decide) _
  have hcolon : skipSpace (':' :: ' ' :: s) = ':' :: ' ' :: s := skipSpace_cons (by decide) _
  have hspace : skipSpace (' ' :: s) = s := hs.skipSpace
  unfold readFields
  simp [writeField, writeString, readString_escaped, hcolon, hspace, h, hcomma, hskip, hfields,
    bind, Except.bind]

end Marks

theorem begins_writeField (field : Text × Text) : Begins (writeField field) :=
  ((begins_writeString field.1).append _).append _

theorem length_le_writeField (key s : Text) : s.length ≤ (writeField (key, s)).length := by
  simp only [writeField, List.length_append]
  omega

theorem writeField_append (key s rest : Text) :
    writeField (key, s) ++ rest = writeField (key, s ++ rest) := by
  simp [writeField]

theorem put_of_not_mem {key : Text} {known : Fields} (h : key ∉ Fields.keys known) (value : Json) :
    known.put key value = known ++ [(key, value)] := by
  induction known with
  | nil => rfl
  | cons field known ih =>
      simp only [Fields.keys, List.map_cons, List.mem_cons, not_or] at h
      have hfield : (field.1 == key) = false := by simpa using Ne.symm h.1
      simp [Fields.put, hfield, ih h.2]

theorem exists_enclose_eq_cons (style : Style) (depth : Nat) (opening closing : Char)
    (parts : List Text) : ∃ t, enclose style depth opening closing parts = opening :: t := by
  unfold enclose
  split
  · exact ⟨_, rfl⟩
  · split <;> exact ⟨_, rfl⟩

theorem begins_writeAt {value : Json} (h : Exact value) (style : Style) (depth : Nat) :
    Begins (writeAt style depth value) := by
  cases value with
  | null => exact ⟨'n', _, rfl, by decide⟩
  | bool b => cases b <;> exact ⟨_, _, rfl, by decide⟩
  | int n =>
      obtain ⟨c, s, heq, hc⟩ := exists_head_ofInt n
      have hne : ∀ d, Text.isAsciiDigit d = false → d ≠ '-' → c ≠ d := by
        rintro d hd hminus rfl
        exact hc.elim (by simp [hd]) hminus
      refine ⟨c, s, heq, ?_, hne _ rfl (by decide), hne _ rfl (by decide), hne _ rfl (by decide)⟩
      simp [isSpace, hne ' ' rfl (by decide), hne '\t' rfl (by decide), hne '\n' rfl (by decide),
        hne '\r' rfl (by decide)]
  | float x => exact h.elim
  | str s => exact begins_writeString s
  | arr items =>
      obtain ⟨t, ht⟩ := exists_enclose_eq_cons style depth '[' ']'
        (writeItems style (depth + 1) items)
      exact ⟨'[', t, ht, by decide⟩
  | obj fields =>
      obtain ⟨t, ht⟩ := exists_enclose_eq_cons style depth '{' '}' _
      exact ⟨'{', t, ht, by decide⟩

theorem Begins.length_pos {s : Text} (h : Begins s) : 0 < s.length := by
  obtain ⟨c, t, rfl, -⟩ := h
  simp

theorem Begins.join {part : Text} (h : Begins part) (sep : Text) (parts : List Text) :
    Begins (Text.join sep (part :: parts)) := by
  cases parts with
  | nil => rwa [Text.join_singleton]
  | cons next parts =>
      rw [Text.join_cons_cons, List.append_assoc]
      exact h.append _

theorem endsNumber_mark {c : Char} (hc : c ∈ [',', ']', '}']) (rest : Text) :
    EndsNumber (c :: rest) := by
  simp only [List.mem_cons, List.not_mem_nil, or_false] at hc
  rcases hc with rfl | rfl | rfl <;> exact endsNumber_cons (by decide) (by decide) rest

mutual

theorem readValue_writeAt {style : Style} (hstyle : style.Spaced)
    (hplain : style.sortKeys = false) : ∀ (value : Json) (depth fuel : Nat) (rest : Text),
    Exact value → EndsNumber rest → 2 * (writeAt style depth value).length ≤ fuel →
    readValue fuel (writeAt style depth value ++ rest) = .ok (value, rest) := by
  -- The fuel is used up by the text that is read: every second call reads a character.
  intro value depth fuel rest hexact hrest hfuel
  have hpos := (begins_writeAt hexact style depth).length_pos
  obtain ⟨fuel, rfl⟩ := Nat.exists_eq_add_one_of_ne_zero (show fuel ≠ 0 by omega)
  match value with
  | .null => rfl
  | .bool b => cases b <;> rfl
  | .int n => exact readValue_ofInt fuel hexact hrest
  | .str s => exact readValue_writeString fuel s rest
  | .arr [] => rfl
  | .obj [] => simp [writeAt, writeFields, hplain, enclose, readValue, skipSpace, isSpace]
  | .arr (item :: items) =>
      obtain ⟨lead, sep, trail, hlead, hsep, htrail, hgaps⟩ := exists_gaps hstyle depth
      have htext : writeAt style depth (.arr (item :: items)) = '[' :: (lead ++
          (Text.join (',' :: sep) (writeItems style (depth + 1) (item :: items)) ++
            (trail ++ [']']))) := hgaps '[' ']' _ (by simp [writeItems])
      rw [htext] at hfuel ⊢
      simp only [List.length_cons, List.length_append] at hfuel
      have hread := readItems_writeItems hstyle hplain (item :: items) (depth + 1) fuel sep trail
        rest (by simp) hexact hsep htrail (by omega)
      have hbegins := (begins_writeAt hexact.1 style (depth + 1)).join (',' :: sep)
        (writeItems style (depth + 1) items)
      simp only [List.cons_append, List.append_assoc, List.nil_append]
      exact readValue_array hlead (hbegins.append _) hread
  | .obj ((key, value) :: fields) =>
      obtain ⟨lead, sep, trail, hlead, hsep, htrail, hgaps⟩ := exists_gaps hstyle depth
      have htext : writeAt style depth (.obj ((key, value) :: fields)) = '{' :: (lead ++
          (Text.join (',' :: sep)
            ((writeFields style (depth + 1) ((key, value) :: fields)).map writeField) ++
              (trail ++ ['}']))) := by
        rw [writeAt, hplain]
        exact hgaps '{' '}' _ (by simp [writeFields])
      rw [htext] at hfuel ⊢
      simp only [List.length_cons, List.length_append] at hfuel
      have hread := readFields_writeFields hstyle hplain ((key, value) :: fields) (depth + 1) fuel
        sep trail rest [] (by simp) hexact.2 hexact.1 (by simp [Fields.keys]) hsep htrail (by omega)
      have hbegins := (begins_writeField (key, writeAt style (depth + 1) value)).join (',' :: sep)
        ((writeFields style (depth + 1) fields).map writeField)
      simp only [List.cons_append, List.append_assoc, List.nil_append]
      exact readValue_object hlead (hbegins.append _) hread

theorem readItems_writeItems {style : Style} (hstyle : style.Spaced)
    (hplain : style.sortKeys = false) : ∀ (items : List Json) (depth fuel : Nat)
    (sep trail rest : Text), items ≠ [] → ExactItems items → Spaced sep → Spaced trail →
    2 * (Text.join (',' :: sep) (writeItems style depth items)).length + 1 ≤ fuel →
    readItems fuel (Text.join (',' :: sep) (writeItems style depth items) ++
      (trail ++ ']' :: rest)) = .ok (items, rest)
  | [item], depth, fuel + 1, sep, trail, rest, _, hexact, _, htrail, hfuel => by
      simp only [writeItems, Text.join_singleton] at hfuel ⊢
      refine readItems_last htrail
        (readValue_writeAt hstyle hplain item depth fuel _ hexact.1 ?_ (by omega))
      exact endsNumber_spaced_append htrail (endsNumber_mark (by simp) _)
  | item :: next :: items, depth, fuel + 1, sep, trail, rest, _, hexact, hsep, htrail, hfuel => by
      have hmore := readItems_writeItems hstyle hplain (next :: items) depth fuel sep trail rest
        (by simp) hexact.2 hsep htrail
      simp only [writeItems, Text.join_cons_cons, List.length_append, List.length_cons] at hfuel
      simp only [writeItems, Text.join_cons_cons, List.append_assoc, List.cons_append] at hmore ⊢
      have hbegins := (begins_writeAt hexact.2.1 style depth).join (',' :: sep)
        (writeItems style depth items)
      refine readItems_cons hsep (hbegins.append _) ?_ (hmore (by omega))
      exact readValue_writeAt hstyle hplain item depth fuel _ hexact.1
        (endsNumber_mark (by simp) _) (by omega)

theorem readFields_writeFields {style : Style} (hstyle : style.Spaced)
    (hplain : style.sortKeys = false) : ∀ (fields : Fields) (depth fuel : Nat)
    (sep trail rest : Text) (known : Fields), fields ≠ [] → ExactFields fields →
    (Fields.keys fields).Nodup → (∀ key ∈ Fields.keys fields, key ∉ Fields.keys known) →
    Spaced sep → Spaced trail →
    2 * (Text.join (',' :: sep) ((writeFields style depth fields).map writeField)).length + 1 ≤
      fuel →
    readFields fuel (Text.join (',' :: sep) ((writeFields style depth fields).map writeField) ++
      (trail ++ '}' :: rest)) known = .ok (known ++ fields, rest)
  | [(key, value)], depth, fuel + 1, sep, trail, rest, known, _, hexact, _, hnew, _, htrail,
      hfuel => by
      simp only [writeFields, List.map_cons, List.map_nil, Text.join_singleton] at hfuel ⊢
      have hlength := length_le_writeField key (writeAt style depth value)
      rw [writeField_append, ← put_of_not_mem (hnew key (by simp [Fields.keys])) value]
      have hbegins := begins_writeAt hexact.1 style depth
      refine readFields_last (hbegins.append _) htrail
        (readValue_writeAt hstyle hplain value depth fuel _ hexact.1 ?_ (by omega))
      exact endsNumber_spaced_append htrail (endsNumber_mark (by simp) _)
  | (key, value) :: (key', value') :: fields, depth, fuel + 1, sep, trail, rest, known, _, hexact,
      hnodup, hnew, hsep, htrail, hfuel => by
      -- The key goes to the end, and those behind it are new to the longer list as well.
      have hput := put_of_not_mem (hnew key (by simp [Fields.keys])) value
      obtain ⟨hkey, hnodup⟩ := List.nodup_cons.1 hnodup
      have hnew' : ∀ k ∈ Fields.keys ((key', value') :: fields),
          k ∉ Fields.keys (known.put key value) := by
        intro k hk
        rw [hput]
        have hne : k ≠ key := by
          rintro rfl
          exact hkey hk
        simpa [Fields.keys, hne] using hnew k (List.mem_cons_of_mem _ hk)
      have hmore := readFields_writeFields hstyle hplain ((key', value') :: fields) depth fuel sep
        trail rest (known.put key value) (by simp) hexact.2 hnodup hnew' hsep htrail
      simp only [writeFields, List.map_cons, Text.join_cons_cons, List.length_append,
        List.length_cons] at hfuel
      simp only [writeFields, List.map_cons, Text.join_cons_cons, List.append_assoc,
        List.cons_append] at hmore ⊢
      have hlength := length_le_writeField key (writeAt style depth value)
      rw [writeField_append]
      have hbegins := (begins_writeField (key', writeAt style depth value')).join (',' :: sep)
        ((writeFields style depth fields).map writeField)
      have hknown : known.put key value ++ (key', value') :: fields =
          known ++ (key, value) :: (key', value') :: fields := by simp [hput]
      rw [hknown] at hmore
      refine readFields_cons ((begins_writeAt hexact.1 style depth).append _) hsep
        (hbegins.append _) ?_ (hmore (by omega))
      exact readValue_writeAt hstyle hplain value depth fuel _ hexact.1
        (endsNumber_mark (by simp) _) (by omega)

end

/-- Where keys keep their order, reading undoes writing. -/
theorem read_write_unsorted {style : Style} (hstyle : style.Spaced)
    (hplain : style.sortKeys = false) {value : Json} (h : Exact value) :
    read (write style value) = .ok value := by
  have hbegins := begins_writeAt h style 0
  have hmark : (write style value).head? ≠ some '\ufeff' := by
    obtain ⟨c, t, heq, -, -, -, hc⟩ := hbegins
    simpa [write, heq] using hc
  have hread := readValue_writeAt hstyle hplain value 0 (2 * (write style value).length + 2) [] h
    (by rintro c ⟨⟩) (by simp only [write]; omega)
  rw [List.append_nil] at hread
  rw [read, if_neg (by simpa using hmark), write, hbegins.skipSpace]
  simp only [write] at hread
  simp [hread, skipSpace, bind, Except.bind]

end Flowchart.Json
