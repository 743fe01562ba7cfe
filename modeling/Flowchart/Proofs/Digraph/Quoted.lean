import Flowchart.Digraph.Name
import Flowchart.Digraph.Writer
import Flowchart.Digraph.Reader
import Flowchart.Proofs.Digraph.Tokens
import Mathlib.Data.List.TakeDrop

/-!
# Labels of digraphs

A label is written as it is, or in quotes with quotes, backslashes and line feeds escaped. It is
read as one value. What that stands for is the label again, but for a letter that a backslash of the
label's own makes a line feed.
-/

namespace Flowchart.Digraph

/-! ## Inside the quotes -/

def quotedChar (c : Char) : Text := if c = '"' then ['\\', '"'] else labelChar c

def escaped (s : Text) : Text := s.flatMap labelChar

theorem guardQuotes_escaped (s : Text) : guardQuotes false (escaped s) = s.flatMap quotedChar := by
  induction s with
  | nil => rfl
  | cons c s ih =>
      rw [escaped] at ih
      rw [escaped, List.flatMap_cons, List.flatMap_cons, ← ih, labelChar, quotedChar, labelChar]
      by_cases hslash : c = '\\'
      · subst hslash
        rfl
      · by_cases hfeed : c = '\n'
        · subst hfeed
          rfl
        · by_cases hquote : c = '"'
          · subst hquote
            rfl
          · simp [hslash, hfeed, hquote, guardQuotes]

/-- Whether a text ends in a backslash that has no other before it. `odd` tells whether one stands
before the text. -/
def endsOdd : Bool → Text → Bool
  | odd, [] => odd
  | odd, c :: s => endsOdd (c = '\\' && !odd) s

theorem endsOdd_escaped_append (s t : Text) :
    endsOdd false (escaped s ++ t) = endsOdd false t := by
  induction s with
  | nil => rfl
  | cons c s ih =>
      rw [escaped] at ih
      rw [escaped, List.flatMap_cons, labelChar, List.append_assoc]
      split
      · simp [endsOdd, ih]
      · split
        · simp [endsOdd, ih]
        · rename_i hslash _
          simp [endsOdd, hslash, ih]

theorem endsOdd_escaped (s : Text) : endsOdd false (escaped s) = false := by
  simpa [endsOdd] using endsOdd_escaped_append s []

/-- Pairs of a backslash and another character are passed over as one, so no quote closes the text
before its end. -/
theorem quotedTail?_guardQuotes (s rest : Text) :
    (endsOdd false s = false → quotedTail? (guardQuotes false s ++ '"' :: rest) =
      some (guardQuotes false s ++ ['"'], rest)) ∧
    (endsOdd true s = false → quotedTail? ('\\' :: guardQuotes true s ++ '"' :: rest) =
      some ('\\' :: guardQuotes true s ++ ['"'], rest)) := by
  induction s with
  | nil => exact ⟨fun _ => rfl, fun h => absurd h (by decide)⟩
  | cons c s ih =>
      obtain ⟨heven, hodd⟩ := ih
      simp only [endsOdd, guardQuotes]
      constructor
      · intro h
        by_cases hquote : c = '"'
        · simp [hquote] at h
          simp [hquote, quotedTail?, heven h]
        · by_cases hslash : c = '\\'
          · simp only [hslash, decide_true, Bool.not_false, Bool.and_self] at h
            simpa [hslash] using hodd h
          · simp [hslash] at h
            simp [hquote, hslash, quotedTail?, heven h]
      · intro h
        simp only [Bool.not_true, Bool.and_false] at h
        by_cases hquote : c = '"'
        · simp [hquote, quotedTail?, heven h]
        · simp [hquote, quotedTail?, heven h]

theorem not_mem_escaped (s : Text) : '\n' ∉ escaped s := by
  simp only [escaped, List.mem_flatMap, not_exists, not_and]
  intro c _ hc
  unfold labelChar at hc
  split at hc
  · simp at hc
  · split at hc
    · simp at hc
    · rename_i hfeed
      exact hfeed (List.mem_singleton.1 hc).symm

theorem not_mem_flatMap_quotedChar (s : Text) : '\n' ∉ s.flatMap quotedChar := by
  simp only [List.mem_flatMap, not_exists, not_and]
  intro c hc hmem
  unfold quotedChar at hmem
  split at hmem
  · simp at hmem
  · exact not_mem_escaped s (List.mem_flatMap.2 ⟨c, hc, hmem⟩)

theorem joinLines_eq_self {s : Text} (h : '\n' ∉ s) : joinLines s = s := by
  fun_induction joinLines s <;> simp_all

/-! ## Reading a value -/

theorem quotedId?_enquote {s rest : Text} (hs : endsOdd false s = false)
    (h : mark? ['+'] rest = none) :
    quotedId? (enquote s ++ rest) = some (joinLines (enquote s), rest) := by
  have hquoted : quoted? (enquote s ++ rest) = some (joinLines (enquote s), rest) := by
    rw [quoted?, enquote, List.cons_append, List.cons_append, skipSpace_solid (by decide),
      List.append_assoc]
    simp [(quotedTail?_guardQuotes s rest).1 hs]
  have hmany : many (fun s => (mark? ['+'] s).bind quoted?) rest = ([], rest) :=
    many_of_none (by rw [h]; rfl)
  rw [quotedId?, hquoted]
  simp [hmany]

theorem id?_enquote {s rest : Text} (hs : endsOdd false s = false)
    (h : mark? ['+'] rest = none) :
    id? (enquote s ++ rest) = some (joinLines (enquote s), rest) := by
  have hread := quotedId?_enquote hs h
  rw [enquote, List.cons_append, List.cons_append] at hread ⊢
  rw [id?, skipSpace_solid (by decide)]
  exact hread

theorem id?_escaped (s : Text) {rest : Text} (h : mark? ['+'] rest = none) :
    id? (enquote (escaped s) ++ rest) = some (enquote (escaped s), rest) := by
  have hjoin : joinLines (enquote (escaped s)) = enquote (escaped s) := by
    rw [enquote, guardQuotes_escaped]
    exact joinLines_eq_self (by simpa using not_mem_flatMap_quotedChar s)
  have hread := id?_enquote (endsOdd_escaped s) h
  rwa [hjoin] at hread

theorem number?_eq_none {c : Char} (hsolid : isSolid c = true) (hminus : c ≠ '-')
    (h : isNumberChar c = false) (s : Text) : number? (c :: s) = none := by
  rw [number?, skipSpace_solid hsolid]
  simp [hminus, h]

theorem value?_word {s rest : Text} (h : Word s) (hfirst : ∀ c, s.head? = some c →
    isNumberChar c = false) (hrest : EndsWord rest) : value? (s ++ rest) = some (s, rest) := by
  have hid := id?_word h hrest
  obtain ⟨c, t, rfl⟩ := List.exists_cons_of_ne_nil h.nonempty
  have hc := h.chars c List.mem_cons_self
  have hminus : c ≠ '-' := Text.ne_of_class hc (by decide)
  rw [value?, List.cons_append, number?_eq_none (isSolid_of_isIdChar hc) hminus (hfirst c rfl)]
  exact hid

/-! ## Numerals -/

theorem isSolid_of_isNumberChar {c : Char} (h : isNumberChar c = true) : isSolid c = true := by
  have hne : ∀ d, isNumberChar d = false → c ≠ d := fun d hd => Text.ne_of_class h (by simp [hd])
  simp [isSolid, isSpace, hne ' ' (by decide), hne '\t' (by decide), hne '\r' (by decide),
    hne '\n' (by decide), hne '#' (by decide), hne '/' (by decide)]

theorem not_number_of_not_id {c : Char} (h : isIdChar c = false) : isNumberChar c = false := by
  rw [Bool.eq_false_iff]
  intro hnumber
  simp only [isNumberChar, Bool.or_eq_true, beq_iff_eq] at hnumber
  rcases hnumber with rfl | hdigit
  · cases h
  · rw [isIdChar_of_isNameChar (by simp [isNameChar, hdigit])] at h
    cases h

theorem isNumberChar_of_isDigit {c : Char} (h : c.isDigit = true) : isNumberChar c = true := by
  simp [isNumberChar, h]

theorem exists_body_of_isNumeral {s : Text} (h : isNumeral s = true) :
    ∃ sign body, s = sign ++ body ∧ (sign = [] ∨ sign = ['-']) ∧ body ≠ [] ∧
      ∀ c ∈ body, isNumberChar c = true := by
  have hbody : ∃ sign body, s = sign ++ body ∧ (sign = [] ∨ sign = ['-']) ∧
      body = (Text.after? ['-'] s).getD s := by
    cases hafter : Text.after? ['-'] s with
    | none => exact ⟨[], s, rfl, .inl rfl, rfl⟩
    | some body => exact ⟨['-'], body, Text.eq_append_of_after? hafter, .inr rfl, rfl⟩
  obtain ⟨sign, body, hs, hsign, heq⟩ := hbody
  refine ⟨sign, body, hs, hsign, ?_⟩
  have hsplit := List.takeWhile_append_dropWhile (p := Char.isDigit) (l := body)
  have hdigits : ∀ c ∈ body.takeWhile Char.isDigit, isNumberChar c = true :=
    fun c hc => isNumberChar_of_isDigit (List.all_eq_true.1 List.all_takeWhile c hc)
  unfold isNumeral at h
  simp only [← heq, List.span_eq_takeWhile_dropWhile] at h
  generalize body.takeWhile Char.isDigit = digits at *
  generalize body.dropWhile Char.isDigit = tail at *
  have htail : digits ++ tail ≠ [] ∧ ∀ c ∈ tail, isNumberChar c = true := by
    split at h
    · rename_i decimals heq
      obtain ⟨rfl, rfl⟩ := Prod.mk.inj heq
      simp only [Bool.and_eq_true, List.all_eq_true] at h
      exact ⟨by simp, List.forall_mem_cons.2 ⟨rfl, fun c hc => isNumberChar_of_isDigit (h.2 c hc)⟩⟩
    · rename_i heq
      obtain ⟨rfl, rfl⟩ := Prod.mk.inj heq
      simp
    · rename_i decimals heq
      obtain ⟨rfl, rfl⟩ := Prod.mk.inj heq
      simp only [List.all_eq_true] at h
      exact ⟨by simp, List.forall_mem_cons.2 ⟨rfl, fun c hc => isNumberChar_of_isDigit (h c hc)⟩⟩
    · cases h
  rw [← hsplit]
  exact ⟨htail.1, List.forall_mem_append.2 ⟨hdigits, htail.2⟩⟩

theorem number?_run {sign body rest : Text} (hsign : sign = [] ∨ sign = ['-']) (hne : body ≠ [])
    (hbody : ∀ c ∈ body, isNumberChar c = true)
    (hrest : ∀ c, rest.head? = some c → isNumberChar c = false) :
    number? (sign ++ (body ++ rest)) = some (sign ++ body, rest) := by
  rcases hsign with rfl | rfl
  · obtain ⟨c, t, rfl⟩ := List.exists_cons_of_ne_nil hne
    obtain ⟨hc, ht⟩ := List.forall_mem_cons.1 hbody
    obtain ⟨htake, hdrop⟩ := Text.run_append ht hrest
    have hminus : c ≠ '-' := Text.ne_of_class hc (by decide)
    rw [List.nil_append, List.cons_append, number?, skipSpace_solid (isSolid_of_isNumberChar hc)]
    simp [hminus, hc, htake, hdrop]
  · obtain ⟨htake, hdrop⟩ := Text.run_append hbody hrest
    rw [List.singleton_append, number?, skipSpace_solid (by decide)]
    simp [htake, hdrop, hne]

theorem value?_numeral {s : Text} (h : isNumeral s = true) {rest : Text}
    (hrest : ∀ c, rest.head? = some c → isNumberChar c = false) :
    value? (s ++ rest) = some (s, rest) := by
  obtain ⟨sign, body, rfl, hsign, hne, hbody⟩ := exists_body_of_isNumeral h
  rw [value?, List.append_assoc, number?_run hsign hne hbody hrest]
  rfl

/-! ## Labels -/

theorem withoutLastBreak_escaped (s : Text) : Text.withoutLastBreak (escaped s) = escaped s := by
  unfold Text.withoutLastBreak
  rw [if_neg]
  rw [beq_iff_eq]
  exact fun hlast => not_mem_escaped s (List.mem_of_getLast? hlast)

theorem isBare_escaped {s : Text} (h : isBare (escaped s) = true) :
    isName (escaped s) = true ∨ isNumeral (escaped s) = true := by
  simp only [isBare, withoutLastBreak_escaped, Bool.and_eq_true, Bool.or_eq_true] at h
  exact h.1

theorem number_of_isNameStart {c : Char} (h : isNameStart c = true) : isNumberChar c = false := by
  have hpoint : c ≠ '.' := Text.ne_of_class h (by decide)
  have hdigit : c.isDigit = false := by
    rw [Bool.eq_false_iff]
    intro hdigit
    have hbelow : c.val ≤ '9'.val := of_decide_eq_true (Bool.and_eq_true_iff.1 hdigit).2
    rcases Bool.or_eq_true_iff.1 h with h | h
    · -- Letters come behind the digits, in either case.
      rcases Bool.or_eq_true_iff.1 h with h | h
      · have habove : 'A'.val ≤ c.val := (of_decide_eq_true h).1
        exact absurd (UInt32.le_trans habove hbelow) (by decide)
      · have habove : 'a'.val ≤ c.val := of_decide_eq_true (Bool.and_eq_true_iff.1 h).1
        exact absurd (UInt32.le_trans habove hbelow) (by decide)
    · rw [eq_of_beq h] at hbelow
      exact absurd hbelow (by decide)
  simp [isNumberChar, hpoint, hdigit]

theorem number_of_isName {s : Text} (h : isName s = true) {c : Char} (hc : s.head? = some c) :
    isNumberChar c = false := by
  cases s with
  | nil => cases h
  | cons d s =>
      obtain rfl := Option.some.inj hc
      exact number_of_isNameStart (Bool.and_eq_true_iff.1 h).1

theorem value?_writtenLabel (s : Text) {rest : Text} (h : EndsWord rest)
    (hjoin : mark? ['+'] rest = none) :
    value? (writtenLabel s ++ rest) = some (writtenLabel s, rest) := by
  change value? (quotePlain (escaped s) ++ rest) = some (quotePlain (escaped s), rest)
  unfold quotePlain
  split
  · rename_i hbare
    rcases isBare_escaped hbare with hname | hnumeral
    · exact value?_word (Word.of_isName hname).2 (fun _ => number_of_isName hname) h
    · exact value?_numeral hnumeral fun c hc => not_number_of_not_id (h c hc)
  · have hid := id?_escaped s hjoin
    rw [enquote, List.cons_append, List.cons_append] at hid ⊢
    rw [value?, number?_eq_none (by decide) (by decide) (by decide), hid]
    rfl

/-! ## What a label stands for -/

theorem quote_not_head (s : Text) : (s.flatMap quotedChar).head? ≠ some '"' := by
  cases s with
  | nil => simp
  | cons c s =>
      rw [List.flatMap_cons, quotedChar, labelChar]
      by_cases hquote : c = '"'
      · simp [hquote]
      · by_cases hslash : c = '\\'
        · simp [hslash]
        · by_cases hfeed : c = '\n'
          · simp [hfeed]
          · simp [hquote, hslash, hfeed]

theorem plainQuotes_cons {c : Char} {s : Text} (h : c = '\\' → s.head? ≠ some '"') :
    plainQuotes (c :: s) = c :: plainQuotes s := by
  rw [plainQuotes.eq_def]
  split <;> simp_all

theorem plainQuotes_flatMap (s : Text) : plainQuotes (s.flatMap quotedChar) = escaped s := by
  induction s with
  | nil => rfl
  | cons c s ih =>
      have hhead := quote_not_head s
      rw [escaped] at ih
      rw [escaped, List.flatMap_cons, List.flatMap_cons, quotedChar]
      by_cases hquote : c = '"'
      · simp [hquote, labelChar, plainQuotes, ih]
      · rw [if_neg hquote, labelChar]
        split
        · change plainQuotes ('\\' :: '\\' :: s.flatMap quotedChar) = _
          rw [plainQuotes_cons (fun _ => by simp), plainQuotes_cons (fun _ => hhead), ih]
          rfl
        · rename_i hslash
          split
          · change plainQuotes ('\\' :: 'n' :: s.flatMap quotedChar) = _
            rw [plainQuotes_cons (fun _ => by simp), plainQuotes_cons (fun _ => hhead), ih]
            rfl
          · rw [List.singleton_append, plainQuotes_cons (fun _ => hhead), ih]
            rfl

/-- A label as it comes back: one of the letters n, l and r behind a backslash is taken for a line
feed. -/
def misread : Text → Text
  | '\\' :: c :: s => if isBreakLetter c then '\\' :: '\n' :: misread s else '\\' :: misread (c :: s)
  | c :: s => c :: misread s
  | [] => []

theorem plainBreaks_cons {c : Char} {s : Text}
    (h : c = '\\' → ∀ d, s.head? = some d → isBreakLetter d = false) :
    plainBreaks (c :: s) = c :: plainBreaks s := by
  rw [plainBreaks.eq_def]
  split <;> simp_all

theorem plainBackslashes_cons {c : Char} {s : Text} (h : c = '\\' → s.head? ≠ some '\\') :
    plainBackslashes (c :: s) = c :: plainBackslashes s := by
  rw [plainBackslashes.eq_def]
  split <;> simp_all

theorem labelChar_of_isBreakLetter {c : Char} (h : isBreakLetter c = true) :
    labelChar c = [c] := by
  rw [labelChar, if_neg (Text.ne_of_class h (by decide)), if_neg (Text.ne_of_class h (by decide))]

theorem break_of_head_escaped {s : Text} {c : Char} (h : (escaped s).head? = some c)
    (hletter : isBreakLetter c = true) : s.head? = some c := by
  cases s with
  | nil => exact h
  | cons d s =>
      rw [escaped, List.flatMap_cons, labelChar] at h
      split at h
      · obtain rfl : '\\' = c := by simpa using h
        cases hletter
      · split at h
        · obtain rfl : '\\' = c := by simpa using h
          cases hletter
        · simpa using h

theorem plainBreaks_backslash (s : Text) :
    plainBreaks ('\\' :: '\\' :: s) = '\\' :: plainBreaks ('\\' :: s) :=
  plainBreaks_cons fun _ _ hc => Option.some.inj hc ▸ rfl

theorem unescape_backslash {s : Text} (h : ∀ c, s.head? = some c → isBreakLetter c = false) :
    unescape ('\\' :: '\\' :: escaped s) = '\\' :: unescape (escaped s) := by
  have hhead : ∀ c, (escaped s).head? = some c → isBreakLetter c = false := by
    intro c hc
    by_contra hletter
    rw [Bool.not_eq_false] at hletter
    rw [h c (break_of_head_escaped hc hletter)] at hletter
    cases hletter
  rw [unescape, plainBreaks_backslash, plainBreaks_cons (fun _ => hhead), plainBackslashes]
  rfl

theorem unescape_plain {c : Char} (h : c ≠ '\\') (s : Text) :
    unescape (escaped (c :: s)) = c :: unescape (escaped s) := by
  rw [escaped, List.flatMap_cons, labelChar, if_neg h]
  split
  · rename_i hfeed
    change plainBackslashes (plainBreaks ('\\' :: 'n' :: escaped s)) = _
    rw [plainBreaks, if_pos (by decide), plainBackslashes_cons (fun h => absurd h (by decide)),
      hfeed]
    rfl
  · rw [List.singleton_append, unescape, plainBreaks_cons (fun hslash => absurd hslash h),
      plainBackslashes_cons (fun hslash => absurd hslash h)]
    rfl

theorem unescape_escaped (s : Text) : unescape (escaped s) = misread s := by
  fun_induction misread s with
  | case1 c s hletter ih =>
      have htext : escaped ('\\' :: c :: s) = '\\' :: '\\' :: c :: escaped s := by
        rw [escaped, List.flatMap_cons, List.flatMap_cons, labelChar_of_isBreakLetter hletter]
        rfl
      rw [htext, unescape, plainBreaks_backslash, plainBreaks, if_pos hletter,
        plainBackslashes_cons (fun _ => by simp),
        plainBackslashes_cons (fun h => absurd h (by decide)), ← ih]
      rfl
  | case2 c s hletter ih =>
      have htext : escaped ('\\' :: c :: s) = '\\' :: '\\' :: escaped (c :: s) := rfl
      rw [htext, unescape_backslash, ih]
      rintro d ⟨⟩
      simpa using hletter
  | case3 c s hlast ih =>
      by_cases hslash : c = '\\'
      · cases s with
        | nil => rw [hslash]; rfl
        | cons d s => exact (hlast d s hslash rfl).elim
      · rw [unescape_plain hslash, ih]
  | case4 => rfl

theorem unquote_quoted (inner : Text) : unquote ('"' :: (inner ++ ['"'])) = plainQuotes inner := by
  have htrim : Text.trim ('"' :: (inner ++ ['"'])) = '"' :: (inner ++ ['"']) := by
    rw [Text.trim_cons (by decide), Text.trimRight_append_singleton (by decide)]
  rw [unquote, htrim]
  simp [between?]

theorem unquote_enquote (s : Text) : unquote (enquote (escaped s)) = escaped s := by
  rw [enquote, guardQuotes_escaped, List.cons_append, unquote_quoted, plainQuotes_flatMap]

theorem plain_of_bare {s : Text} (h : isName s = true ∨ isNumeral s = true) :
    s ≠ [] ∧ ∀ c ∈ s, UniqueIds.isPlain c = true ∨ c = '.' := by
  rcases h with hname | hnumeral
  · obtain ⟨hchars, hword⟩ := Word.of_isName hname
    exact ⟨hword.nonempty, fun c hc => .inl (isPlain_of_isNameChar (hchars c hc))⟩
  · obtain ⟨sign, body, rfl, hsign, hne, hbody⟩ := exists_body_of_isNumeral hnumeral
    refine ⟨by simp [hne], List.forall_mem_append.2 ⟨?_, fun c hc => ?_⟩⟩
    · rcases hsign with rfl | rfl <;> simp [UniqueIds.isPlain]
    · have hchar := hbody c hc
      simp only [isNumberChar, Bool.or_eq_true, beq_iff_eq] at hchar
      refine hchar.symm.imp_left fun hdigit => isPlain_of_isNameChar ?_
      simp [isNameChar, hdigit]

theorem unquote_bare {s : Text} (h : isName s = true ∨ isNumeral s = true) : unquote s = s := by
  obtain ⟨hne, hplain⟩ := plain_of_bare h
  have hchars : ∀ c ∈ s, Text.isBlank c = false ∧ c ≠ '"' ∧ c ≠ '<' := by
    intro c hc
    rcases hplain c hc with hchar | rfl
    · exact ⟨UniqueIds.not_blank_of_isPlain hchar, Text.ne_of_class hchar (by decide),
        Text.ne_of_class hchar (by decide)⟩
    · decide
  have htrim : Text.trim s = s :=
    Text.trim_eq_self (fun c hc => (hchars c (List.mem_of_head? hc)).1)
      fun c hc => (hchars c (List.mem_of_getLast? hc)).1
  obtain ⟨c, t, rfl⟩ := List.exists_cons_of_ne_nil hne
  obtain ⟨-, hquote, hangle⟩ := hchars c List.mem_cons_self
  rw [unquote, htrim]
  simp [between?, hquote, hangle]

theorem unquote_writtenLabel (s : Text) : unquote (writtenLabel s) = escaped s := by
  change unquote (quotePlain (escaped s)) = escaped s
  unfold quotePlain
  split
  · rename_i hbare
    exact unquote_bare (isBare_escaped hbare)
  · exact unquote_enquote s

theorem escaped_eq_nil_iff {s : Text} : escaped s = [] ↔ s = [] := by
  cases s with
  | nil => simp [escaped]
  | cons c s =>
      have hne : labelChar c ≠ [] := by
        unfold labelChar
        split
        · simp
        · split <;> simp
      simp [escaped, hne]

theorem labelText_misread {s : Text} (hne : s ≠ []) :
    labelText (some (writtenLabel s)) = some (misread s) := by
  have hescaped : escaped s ≠ [] := fun hnil => hne (escaped_eq_nil_iff.1 hnil)
  simp [labelText, unquote_writtenLabel, hescaped, unescape_escaped, Option.filter]

theorem misread_eq_self_iff {s : Text} :
    misread s = s ↔ ∀ c, isBreakLetter c = true → ¬ ['\\', c] <:+: s := by
  fun_induction misread s with
  | case1 c s hletter ih =>
      refine iff_of_false (fun h => ?_) fun h => ?_
      · obtain rfl : '\n' = c := (List.cons.inj (List.cons.inj h).2).1
        cases hletter
      · exact h c hletter ⟨[], s, rfl⟩
  | case2 c s hletter ih =>
      rw [List.cons.injEq, eq_self, true_and, ih]
      refine forall₂_congr fun d hd => not_congr ?_
      rw [List.infix_cons_iff (a := '\\'), or_iff_right]
      intro hinitial
      obtain rfl := (List.cons_prefix_cons.1 (List.cons_prefix_cons.1 hinitial).2).1
      exact hletter hd
  | case3 c s hlast ih =>
      rw [List.cons.injEq, eq_self, true_and, ih]
      refine forall₂_congr fun d hd => not_congr ?_
      rw [List.infix_cons_iff (a := c), or_iff_right]
      intro hinitial
      obtain ⟨hslash, hbehind⟩ := List.cons_prefix_cons.1 hinitial
      obtain ⟨more, rfl⟩ := hbehind
      exact hlast d more hslash.symm rfl
  | case4 => simp

theorem misread_of_not_mem {s : Text} (h : '\\' ∉ s) : misread s = s :=
  misread_eq_self_iff.2 fun _ _ hwithin => h (hwithin.subset List.mem_cons_self)

end Flowchart.Digraph
