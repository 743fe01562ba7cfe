import Flowchart.Proofs.Json.Regular
import Flowchart.Proofs.Text.Lines
import Mathlib.Data.List.TakeWhile

/-!
# Lines of JSON

Strings, numbers and words hold no line feed, so a line of a value that was read begins with a blank
or with a token, whatever its strings say. Each reader spans the text up to its rest in that way.
-/

namespace Flowchart

namespace Json

def tokenMarks : Text := "\x7b\x7d[],:\"-".toList

/-- The end, a blank or the beginning of a token. -/
inductive Opens : Text → Prop
  | nil : Opens []
  | blank {c : Char} {s : Text} (h : Text.isBlank c = true) : Opens (c :: s)
  | mark {c : Char} {s : Text} (h : c ∈ tokenMarks) : Opens (c :: s)
  | digit {c : Char} {s : Text} (h : Text.isAsciiDigit c = true) : Opens (c :: s)
  | word {w s : Text} (h : w ∈ wordValues.map Prod.fst) : Opens (w ++ s)

/-- The first text ends with the second one, and every line that begins on the way begins with a
blank or a token. -/
inductive Spans : Text → Text → Prop
  | refl (s : Text) : Spans s s
  | cons {c : Char} {s rest : Text} (h : c = '\n' → Opens s) (more : Spans s rest) :
      Spans (c :: s) rest

theorem Spans.trans {s rest last : Text} (h : Spans s rest) (more : Spans rest last) :
    Spans s last := by
  induction h with
  | refl s => exact more
  | cons h _ ih => exact .cons h (ih more)

theorem Spans.exists_append {s rest : Text} (h : Spans s rest) : ∃ part, s = part ++ rest := by
  induction h with
  | refl s => exact ⟨[], rfl⟩
  | cons _ _ ih =>
      obtain ⟨part, rfl⟩ := ih
      exact ⟨_ :: part, rfl⟩

theorem Opens.append {s t : Text} (h : Opens s) (ht : Opens t) : Opens (s ++ t) := by
  cases h with
  | nil => exact ht
  | blank h => exact .blank h
  | mark h => exact .mark h
  | digit h => exact .digit h
  | word h => exact List.append_assoc .. ▸ .word h

theorem Spans.append {s rest t : Text} (h : Spans s rest) (ht : Opens t) :
    Spans (s ++ t) (rest ++ t) := by
  induction h with
  | refl s => exact .refl _
  | cons h _ ih => exact .cons (fun hc => (h hc).append ht) ih

theorem spans_of_no_feed {t : Text} (h : ∀ c ∈ t, c ≠ '\n') (rest : Text) :
    Spans (t ++ rest) rest := by
  induction t with
  | nil => exact .refl rest
  | cons c t ih =>
      obtain ⟨hc, ht⟩ := List.forall_mem_cons.1 h
      exact .cons (fun heq => absurd heq hc) (ih ht)

theorem spans_cons {c : Char} (h : c ≠ '\n') (rest : Text) : Spans (c :: rest) rest :=
  spans_of_no_feed (t := [c]) (by simpa using h) rest

theorem spans_blanks {part rest : Text} (h : ∀ c ∈ part, Text.isBlank c = true)
    (hrest : Opens rest) : Spans (part ++ rest) rest ∧ Opens (part ++ rest) := by
  induction part with
  | nil => exact ⟨.refl rest, hrest⟩
  | cons c part ih =>
      obtain ⟨hc, hpart⟩ := List.forall_mem_cons.1 h
      obtain ⟨hspans, hopens⟩ := ih hpart
      exact ⟨.cons (fun _ => hopens) hspans, .blank hc⟩

theorem isBlank_of_isSpace {c : Char} (h : isSpace c = true) : Text.isBlank c = true := by
  simp only [isSpace, Bool.or_eq_true, beq_iff_eq] at h
  rcases h with ((rfl | rfl) | rfl) | rfl <;> rfl

theorem spans_skipSpace {s : Text} (h : Opens (skipSpace s)) :
    Spans s (skipSpace s) ∧ Opens s := by
  have hblanks : ∀ c ∈ s.takeWhile isSpace, Text.isBlank c = true :=
    fun c hc => isBlank_of_isSpace (List.all_eq_true.1 List.all_takeWhile c hc)
  have hspans := spans_blanks hblanks h
  rwa [skipSpace, List.takeWhile_append_dropWhile] at hspans

theorem spans_to_mark {s rest : Text} {c : Char} (h : skipSpace s = c :: rest)
    (hc : c ∈ tokenMarks) : Spans s (c :: rest) ∧ Opens s :=
  h ▸ spans_skipSpace (h ▸ .mark hc)

theorem hexValue?_feed : Text.hexValue? '\n' = none := rfl

theorem no_feed_of_hex4? {a b c d : Char} {code : Nat} (h : hex4? a b c d = some code) :
    ∀ x ∈ [a, b, c, d], x ≠ '\n' := by
  simp only [hex4?, Option.bind_eq_bind, Option.bind_eq_some_iff] at h
  obtain ⟨_, ha, _, hb, _, hc, _, hd, -⟩ := h
  simp only [List.forall_mem_cons]
  refine ⟨?_, ?_, ?_, ?_, by simp⟩ <;> rintro rfl <;> simp [hexValue?_feed] at *

theorem simpleEscape?_feed : simpleEscape? '\n' = none := by decide

theorem spans_of_readCodes {start s rest : Text} {codes : List Nat}
    (h : readCodes start s = .ok (codes, rest)) : Spans s rest := by
  -- A feed is a control character, which no string may hold as it is.
  fun_induction readCodes start s generalizing codes with
  | case2 s =>
      cases h
      exact spans_cons (by decide) rest
  | case4 a b c d e s code hcode ih =>
      obtain ⟨r, hr, heq⟩ := Except.exists_of_map_eq_ok h
      cases heq
      refine Spans.trans (spans_of_no_feed (t := ['\\', 'u', a, b, c, d]) ?_ (e :: s)) (ih hr)
      exact List.forall_mem_cons.2 ⟨by decide, List.forall_mem_cons.2
        ⟨by decide, no_feed_of_hex4? hcode⟩⟩
  | case7 c s _ _ meant hmeant ih =>
      obtain ⟨r, hr, heq⟩ := Except.exists_of_map_eq_ok h
      cases heq
      refine Spans.trans (spans_of_no_feed (t := ['\\', c]) ?_ s) (ih hr)
      have hc : c ≠ '\n' := by
        rintro rfl
        rw [simpleEscape?_feed] at hmeant
        cases hmeant
      simpa using hc
  | case10 c s _ _ _ _ _ hcontrol ih =>
      obtain ⟨r, hr, heq⟩ := Except.exists_of_map_eq_ok h
      cases heq
      refine (spans_cons ?_ s).trans (ih hr)
      rintro rfl
      exact hcontrol (by decide)
  | _ => cases h

theorem spans_of_readString {start s rest text : Text}
    (h : readString start s = .ok (text, rest)) : Spans s rest := by
  obtain ⟨r, hr, heq⟩ := Except.exists_of_map_eq_ok h
  cases heq
  exact spans_of_readCodes hr

theorem not_feed_of_isAsciiDigit {c : Char} (h : Text.isAsciiDigit c = true) : c ≠ '\n' := by
  rintro rfl
  cases h

theorem spans_digits (s : Text) : Spans s (s.dropWhile Text.isAsciiDigit) := by
  have hspans := spans_of_no_feed
    (fun c hc => not_feed_of_isAsciiDigit (List.all_eq_true.1 List.all_takeWhile c hc))
    (t := s.takeWhile Text.isAsciiDigit) (s.dropWhile Text.isAsciiDigit)
  rwa [List.takeWhile_append_dropWhile] at hspans

theorem spans_of_wholePart? {s whole rest : Text} (h : wholePart? s = some (whole, rest)) :
    Spans s rest ∧ Opens s := by
  unfold wholePart? at h
  split at h
  · cases h
    exact ⟨spans_cons (by decide) _, .digit (by decide)⟩
  · rename_i c s _
    split at h
    · rename_i hc
      cases h
      exact ⟨spans_digits _, .digit hc⟩
    · cases h
  · cases h

theorem spans_fraction (s : Text) : Spans s (fraction s).2 := by
  unfold fraction
  split
  · rename_i rest
    split
    · exact .refl _
    · exact (spans_cons (by decide) rest).trans (spans_digits rest)
  · exact .refl s

theorem spans_of_exponent? {s rest : Text} {e : Int} (h : exponent? s = some (e, rest)) :
    Spans s rest := by
  unfold exponent? at h
  split at h
  · cases h
  · rename_i c s
    simp only at h
    generalize hbody : Prod.snd _ = body at h
    have hspans : Spans s body := by
      rw [← hbody]
      split
      · exact spans_cons (by decide) _
      · exact spans_cons (by decide) _
      · exact .refl _
    split at h
    · cases h
    · split at h
      · rename_i hc
        have hfeed : c ≠ '\n' := by
          rintro rfl
          simp at hc
        cases h
        exact (spans_cons hfeed s).trans (hspans.trans (spans_digits _))
      · cases h

theorem spans_of_readNumber {s rest : Text} {value : Json}
    (h : readNumber s = .ok (value, rest)) : Spans s rest ∧ Opens s := by
  unfold readNumber at h
  simp only at h
  split at h
  · cases h
  · rename_i whole more hwhole
    obtain ⟨hbody, hopens⟩ := spans_of_wholePart? hwhole
    have hwhole : Spans s more ∧ Opens s := by
      revert hbody hopens
      split
      · exact fun hbody _ => ⟨(spans_cons (by decide) _).trans hbody, .mark (by decide)⟩
      · exact fun hbody hopens => ⟨hbody, hopens⟩
    refine ⟨hwhole.1.trans ((spans_fraction more).trans ?_), hwhole.2⟩
    split at h
    · rename_i hexponent
      cases h
      exact spans_of_exponent? hexponent
    · split at h
      · split at h
        · cases h
        · cases h
          exact .refl _
      · cases h
        exact .refl _

theorem spans_of_readWord? {s rest : Text} {value : Json} (h : readWord? s = some (value, rest)) :
    Spans s rest ∧ Opens s := by
  obtain ⟨word, hword, hrest⟩ := List.exists_of_findSome?_eq_some h
  obtain ⟨after, hafter, heq⟩ := Option.map_eq_some_iff.1 hrest
  cases heq
  obtain rfl := Text.eq_append_of_after? hafter
  have hmem : word.1 ∈ wordValues.map Prod.fst := List.mem_map_of_mem hword
  have hfeed : ∀ word ∈ wordValues.map Prod.fst, '\n' ∉ word := by decide
  exact ⟨spans_of_no_feed (fun _ hc => ne_of_mem_of_not_mem hc (hfeed word.1 hmem)) _,
    .word hmem⟩

theorem spans_of_readScalar {s rest : Text} {value : Json}
    (h : readScalar s = .ok (value, rest)) : Spans s rest ∧ Opens s := by
  unfold readScalar at h
  split at h
  · rename_i hfound
    cases h
    exact spans_of_readWord? hfound
  · exact spans_of_readNumber h

/-- What the readers with some fuel go over. An object ends with its brace. -/
structure Laid (fuel : Nat) : Prop where
  value : ∀ {s rest : Text} {value : Json}, readValue fuel s = .ok (value, rest) →
    Spans s rest ∧ Opens s
  items : ∀ {s rest : Text} {items : List Json}, readItems fuel s = .ok (items, rest) →
    Spans s rest ∧ Opens s
  fields : ∀ {s rest : Text} {known fields : Fields}, readFields fuel s known = .ok (fields, rest) →
    Spans s ('\x7d' :: rest) ∧ Opens s

theorem laid_zero : Laid 0 where
  value h := by simp [readValue] at h
  items h := by simp [readItems] at h
  fields h := by simp [readFields] at h

theorem Laid.object_succ {fuel : Nat} (ih : Laid fuel) {s rest : Text} {value : Json}
    (h : readValue (fuel + 1) ('\x7b' :: s) = .ok (value, rest)) :
    Spans ('\x7b' :: s) ('\x7d' :: rest) := by
  unfold readValue at h
  simp only at h
  split at h
  · rename_i hspace
    cases h
    exact (spans_cons (by decide) s).trans (spans_to_mark hspace (by decide)).1
  · obtain ⟨⟨fields, after⟩, hfields, h⟩ := Except.exists_of_bind_eq_ok h
    cases h
    obtain ⟨hspans, hopens⟩ := ih.fields hfields
    exact (spans_cons (by decide) s).trans ((spans_skipSpace hopens).1.trans hspans)

theorem Laid.value_succ {fuel : Nat} (ih : Laid fuel) {s rest : Text} {value : Json}
    (h : readValue (fuel + 1) s = .ok (value, rest)) : Spans s rest ∧ Opens s := by
  have hread := h
  unfold readValue at h
  split at h
  · rename_i s
    obtain ⟨⟨text, after⟩, htext, h⟩ := Except.exists_of_bind_eq_ok h
    cases h
    exact ⟨(spans_cons (by decide) s).trans (spans_of_readString htext), .mark (by decide)⟩
  · exact ⟨(ih.object_succ hread).trans (spans_cons (by decide) rest), .mark (by decide)⟩
  · rename_i s
    refine ⟨(spans_cons (by decide) s).trans ?_, .mark (by decide)⟩
    split at h
    · rename_i hspace
      cases h
      exact (spans_to_mark hspace (by decide)).1.trans (spans_cons (by decide) _)
    · obtain ⟨⟨items, after⟩, hitems, h⟩ := Except.exists_of_bind_eq_ok h
      cases h
      obtain ⟨hspans, hopens⟩ := ih.items hitems
      exact (spans_skipSpace hopens).1.trans hspans
  · exact spans_of_readScalar h

theorem Laid.items_succ {fuel : Nat} (ih : Laid fuel) {s rest : Text} {items : List Json}
    (h : readItems (fuel + 1) s = .ok (items, rest)) : Spans s rest ∧ Opens s := by
  unfold readItems at h
  obtain ⟨⟨item, more⟩, hitem, h⟩ := Except.exists_of_bind_eq_ok h
  obtain ⟨hspans, hopens⟩ := ih.value hitem
  refine ⟨hspans.trans ?_, hopens⟩
  simp only at h
  split at h
  · rename_i hspace
    cases h
    exact (spans_to_mark hspace (by decide)).1.trans (spans_cons (by decide) _)
  · rename_i others hspace
    obtain ⟨⟨items, after⟩, hitems, h⟩ := Except.exists_of_bind_eq_ok h
    cases h
    obtain ⟨hothers, hopens⟩ := ih.items hitems
    exact (spans_to_mark hspace (by decide)).1.trans <| (spans_cons (by decide) others).trans <|
      (spans_skipSpace hopens).1.trans hothers
  · cases h

theorem Laid.fields_succ {fuel : Nat} (ih : Laid fuel) {s rest : Text} {known fields : Fields}
    (h : readFields (fuel + 1) s known = .ok (fields, rest)) :
    Spans s ('\x7d' :: rest) ∧ Opens s := by
  unfold readFields at h
  split at h
  · rename_i s
    refine ⟨(spans_cons (by decide) s).trans ?_, .mark (by decide)⟩
    obtain ⟨⟨key, more⟩, hkey, h⟩ := Except.exists_of_bind_eq_ok h
    refine (spans_of_readString hkey).trans ?_
    simp only at h
    split at h
    · rename_i body hspace
      obtain ⟨⟨value, more⟩, hvalue, h⟩ := Except.exists_of_bind_eq_ok h
      obtain ⟨hspans, hopens⟩ := ih.value hvalue
      refine (spans_to_mark hspace (by decide)).1.trans <| (spans_cons (by decide) body).trans <|
        (spans_skipSpace hopens).1.trans <| hspans.trans ?_
      simp only at h
      split at h
      · rename_i hspace
        cases h
        exact (spans_to_mark hspace (by decide)).1
      · rename_i others hspace
        obtain ⟨hothers, hopens⟩ := ih.fields h
        exact (spans_to_mark hspace (by decide)).1.trans <| (spans_cons (by decide) others).trans <|
          (spans_skipSpace hopens).1.trans hothers
      · cases h
    · cases h
  · cases h

theorem laid (fuel : Nat) : Laid fuel := by
  induction fuel with
  | zero => exact laid_zero
  | succ fuel ih => exact ⟨ih.value_succ, ih.items_succ, ih.fields_succ⟩

theorem exists_readValue_of_read {s : Text} {value : Json} (h : read s = .ok value) :
    ∃ fuel rest, readValue (fuel + 1) (skipSpace s) = .ok (value, rest) ∧ skipSpace rest = [] := by
  unfold read at h
  split at h
  · cases h
  · obtain ⟨⟨value, rest⟩, hvalue, h⟩ := Except.exists_of_bind_eq_ok h
    simp only at h
    split at h
    · rename_i hspace
      cases h
      exact ⟨_, rest, hvalue, hspace⟩
    · cases h

theorem spans_of_read {s : Text} {value : Json} (h : read s = .ok value) :
    Spans s [] ∧ Opens s := by
  obtain ⟨fuel, rest, hvalue, hspace⟩ := exists_readValue_of_read h
  obtain ⟨hspans, hopens⟩ := (laid _).value hvalue
  have hrest : Spans rest [] := by
    have hskipped := (spans_skipSpace (hspace ▸ .nil : Opens (skipSpace rest))).1
    rwa [hspace] at hskipped
  exact ⟨(spans_skipSpace hopens).1.trans (hspans.trans hrest), (spans_skipSpace hopens).2⟩

theorem not_object_of_readScalar {s rest : Text} {value : Json} {fields : Fields}
    (h : readScalar s = .ok (value, rest)) : value ≠ .obj fields := by
  unfold readScalar at h
  split at h
  · rename_i hfound
    obtain ⟨word, hword, hrest⟩ := List.exists_of_findSome?_eq_some hfound
    obtain ⟨_, -, heq⟩ := Option.map_eq_some_iff.1 hrest
    have hobject : ∀ word ∈ wordValues, word.2 ≠ .obj fields := by simp [wordValues]
    cases h
    cases heq
    exact hobject word hword
  · unfold readNumber at h
    simp only at h
    split at h
    · cases h
    · split at h
      · cases h
        simp
      · split at h
        · split at h <;> cases h
          simp
        · cases h
          simp

theorem head?_of_readValue_obj {fuel : Nat} {s rest : Text} {fields : Fields}
    (h : readValue (fuel + 1) s = .ok (.obj fields, rest)) : s.head? = some '\x7b' := by
  unfold readValue at h
  split at h
  · obtain ⟨_, -, h⟩ := Except.exists_of_bind_eq_ok h
    cases h
  · rfl
  · split at h
    · cases h
    · obtain ⟨_, -, h⟩ := Except.exists_of_bind_eq_ok h
      cases h
  · exact absurd rfl (not_object_of_readScalar h)

theorem braces_of_read {s : Text} {fields : Fields} (h : read s = .ok (.obj fields))
    (htrim : Text.trim s = s) : s.head? = some '\x7b' ∧ s.getLast? = some '\x7d' := by
  obtain ⟨fuel, rest, hvalue, hspace⟩ := exists_readValue_of_read h
  have hskip : skipSpace s = s := by
    refine (Text.run_of_ends fun c hc => ?_).2
    cases hspace : isSpace c with
    | false => rfl
    | true =>
        have hblank := Text.not_blank_head_of_trim htrim hc
        rw [isBlank_of_isSpace hspace] at hblank
        cases hblank
  rw [hskip] at hvalue
  have hhead := head?_of_readValue_obj hvalue
  obtain ⟨body, rfl⟩ : ∃ body, s = '\x7b' :: body := by
    cases s with
    | nil => cases hhead
    | cons c body => exact ⟨body, by rw [Option.some.inj hhead]⟩
  obtain ⟨part, hpart⟩ := ((laid fuel).object_succ hvalue).exists_append
  have hspaces : ∀ c ∈ rest, isSpace c = true := List.dropWhile_eq_nil_iff.1 hspace
  refine ⟨rfl, ?_⟩
  cases hlast : rest.getLast? with
  | none =>
      rw [List.getLast?_eq_none_iff.1 hlast] at hpart
      simp [hpart]
  | some c =>
      have hend : ('\x7b' :: body).getLast? = some c := by simp [hpart, List.getLast?_cons, hlast]
      have hblank := Text.not_blank_last_of_trim htrim hend
      rw [isBlank_of_isSpace (hspaces c (List.mem_of_getLast? hlast))] at hblank
      cases hblank

theorem Spans.no_line_start {p : Text → Bool} (hp : ∀ t, Opens t → p t = false) {s : Text}
    (h : Spans s []) (hs : Opens s) : Text.anyLineStart p s = false := by
  have htails : ∀ {s rest : Text}, Spans s rest → rest = [] →
      Text.anyTail (fun tail => tail.head? == some '\n' && p tail.tail) s = false := by
    intro s rest h hrest
    induction h with
    | refl s =>
        subst hrest
        rfl
    | @cons c s rest hfeed _ ih =>
        rw [Text.anyTail, ih hrest, Bool.or_false, List.head?_cons, List.tail_cons]
        by_cases hc : c = '\n'
        · simp [hc, hp s (hfeed hc)]
        · simp [hc]
  rw [Text.anyLineStart, hp s hs, htails h rfl]
  rfl

/-- Every line, together with what follows it, begins with a blank or a token. -/
theorem Spans.opens_split {s : Text} (h : Spans s []) (hs : Opens s) :
    ∀ line ∈ Text.split '\n' s, ∃ more, Opens (line ++ more) := by
  have hlines : ∀ {s rest : Text}, Spans s rest → rest = [] →
      ∃ line lines, Text.split '\n' s = line :: lines ∧ (∃ more, s = line ++ more) ∧
        ∀ other ∈ lines, ∃ more, Opens (other ++ more) := by
    intro s rest h hrest
    induction h with
    | refl s =>
        subst hrest
        exact ⟨[], [], rfl, ⟨[], rfl⟩, by simp⟩
    | @cons c s rest hfeed _ ih =>
        obtain ⟨line, lines, hsplit, ⟨more, hmore⟩, hothers⟩ := ih hrest
        change Text.splitWhere _ _ = _ at hsplit
        by_cases hc : c = '\n'
        · refine ⟨[], line :: lines, by simp [Text.split, Text.splitWhere, hc, hsplit],
            ⟨_, rfl⟩, List.forall_mem_cons.2 ⟨⟨more, hmore ▸ hfeed hc⟩, hothers⟩⟩
        · exact ⟨c :: line, lines, by simp [Text.split, Text.splitWhere, hc, hsplit],
            ⟨more, by rw [hmore]; rfl⟩, hothers⟩
  obtain ⟨line, lines, hsplit, ⟨more, hmore⟩, hothers⟩ := hlines h rfl
  rw [hsplit]
  exact List.forall_mem_cons.2 ⟨⟨more, hmore ▸ hs⟩, hothers⟩

end Json

end Flowchart
