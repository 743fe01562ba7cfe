import Flowchart.Proofs.Chart.Decoding

/-!
# Truncation

A text that is too long is cut after it was written with references, so the cut may fall within one.
What is left of the reference is read as it stands, except that the name of a quotation mark and the
digits of a number are taken for references without a semicolon.
-/

namespace Flowchart.Chart

def cuts : List Text :=
  [[], "<".toList, "<b".toList, "<br".toList, "<br/".toList, "&".toList, "&q".toList, "&qu".toList,
    "&quo".toList, "&quot".toList, "&#".toList, "&#1".toList, "&#12".toList, "&#124".toList]

theorem mem_cuts {cut : Text} {c : Char} (hinitial : cut <+: nodeChar c) (hne : cut ≠ nodeChar c) :
    cut ∈ cuts := by
  have hinits : ∀ written ∈ ["<br/>".toList, "&quot;".toList, "&#124;".toList],
      ∀ cut ∈ written.inits, cut ≠ written → cut ∈ cuts := by decide
  have hmem := (List.mem_inits cut (nodeChar c)).2 hinitial
  unfold nodeChar at hmem hne
  split at hmem
  · exact hinits _ (by decide) cut hmem (by simpa [*] using hne)
  · split at hmem
    · exact hinits _ (by decide) cut hmem (by simpa [*] using hne)
    · split at hmem
      · exact hinits _ (by decide) cut hmem (by simpa [*] using hne)
      · rcases List.mem_cons.1 hmem with rfl | hmem
        · exact List.mem_cons_self
        · simp_all

/-- A beginning of a written text ends within what is written for one of its characters. -/
theorem exists_cut {f : Char → Text} {s : Text} {n : Nat} (h : n < (s.flatMap f).length) :
    ∃ kept c rest cut, s = kept ++ c :: rest ∧ (s.flatMap f).take n = kept.flatMap f ++ cut ∧
      cut <+: f c ∧ cut ≠ f c := by
  induction s generalizing n with
  | nil => cases h
  | cons c s ih =>
      rw [List.flatMap_cons] at h ⊢
      by_cases hn : n < (f c).length
      · refine ⟨[], c, s, (f c).take n, rfl, ?_, List.take_prefix n _, fun heq => ?_⟩
        · rw [List.take_append_of_le_length hn.le]
          rfl
        · have := congrArg List.length heq
          rw [List.length_take] at this
          omega
      · obtain ⟨m, rfl⟩ := Nat.exists_eq_add_of_le (Nat.le_of_not_lt hn)
        rw [List.length_append, Nat.add_lt_add_iff_left] at h
        obtain ⟨kept, d, rest, cut, rfl, htake, hcut⟩ := ih h
        refine ⟨c :: kept, d, rest, cut, rfl, ?_, hcut⟩
        rw [List.take_length_add_append, htake, List.flatMap_cons, List.append_assoc]

/-- What the beginning of a reference comes back as, with dots behind it. -/
def remnant (cut : Text) : Text :=
  if cut = "&quot".toList then ['"']
  else if cut = "&#1".toList then []
  else if cut = "&#12".toList then ['\x0c']
  else if cut = "&#124".toList then ['|']
  else cut

theorem decode_cut {cut : Text} (h : cut ∈ cuts) :
    Reference.decode (cut ++ "...".toList) = .ok (remnant cut ++ "...".toList) := by
  have hcases : ∀ cut ∈ cuts, '&' ∉ cut ∧ remnant cut = cut ∨
      (∃ name ∈ [[], "q".toList, "qu".toList, "quo".toList],
        cut = '&' :: name ∧ '&' ∉ name ∧ remnant cut = cut) ∨
      cut = "&quot".toList ∨ "&#".toList <+: cut := by decide
  rcases hcases cut h with ⟨hamp, hcut⟩ | ⟨name, hname, rfl, hamp, hcut⟩ | rfl | hnumber
  · rw [Reference.decode_of_not_mem (by simp [hamp]), hcut]
  · have hquiet : Reference.Quiet (name ++ "...".toList) := by
      rcases List.mem_cons.1 hname with rfl | hname
      · exact Reference.quiet_cons (by decide) (Reference.foreign_of_code rfl) _
      · exact Reference.quiet_beginning hname
    rw [hcut, List.cons_append, Reference.decode_ampersand hquiet,
      Reference.decode_of_not_mem (by simp [hamp])]
    rfl
  · exact Reference.decode_quot_dots
  · revert cut
    decide

theorem decodeHashes_cut : ∀ cut ∈ cuts,
    decodeHashes 0 (cut ++ "...".toList) = .ok (cut ++ "...".toList) := by decide

/-- What a text comes back as that was cut to a limit: its beginning, what is left of the reference
that the cut fell in, and dots. -/
def CutTo (limit : Int) (s shown : Text) : Prop :=
  ∃ kept c rest cut, s = kept ++ c :: rest ∧ cut <+: nodeChar c ∧ cut ≠ nodeChar c ∧
    ((oneLine kept ++ cut).length : Int) = limit - 3 ∧
    shown = Text.trim (kept.flatMap seenChar ++ (remnant cut ++ "...".toList))

section Cut

variable {limit : Int} {s : Text} (hlimit : 3 < limit)

include hlimit

theorem truncate_of_not_fits {t : Text} (h : ¬ Fits limit t) :
    truncate limit t = t.take (limit - 3).toNat ++ "...".toList := by
  unfold Fits at h
  rw [truncate, if_pos (by omega)]

theorem exists_cutTo (hamp : '&' ∉ s) (hhash : '#' ∉ s) (h : ¬ Fits limit (oneLine s)) :
    ∃ shown, CutTo limit s shown ∧ decodeInner (truncate limit (oneLine s)) = .ok shown := by
  rw [truncate_of_not_fits hlimit h]
  unfold Fits at h
  have hlength : (limit - 3).toNat < (oneLine s).length := by omega
  obtain ⟨kept, c, rest, cut, rfl, htake, hinitial, hne⟩ := exists_cut hlength
  rw [List.mem_append, not_or] at hamp hhash
  change List.take _ (oneLine _) = oneLine kept ++ cut at htake
  have hcut := mem_cuts hinitial hne
  refine ⟨_, ⟨kept, c, rest, cut, rfl, hinitial, hne, ?_, rfl⟩, ?_⟩
  · have htaken := congrArg List.length htake
    rw [List.length_take, Nat.min_eq_left (Nat.le_of_lt hlength)] at htaken
    omega
  · have hhashes := decodeHashes_oneLine hhash.1 (cut ++ "...".toList)
    rw [decodeHashes_cut cut hcut] at hhashes
    rw [htake, List.append_assoc]
    refine decodeInner_of_hashes hhashes ?_
    rw [decode_halves hamp.1, decode_cut hcut]
    rfl

theorem decode_truncate (htrim : Text.trim s = s) (hne : s ≠ [])
    (h : ¬ Fits limit (oneLine s)) :
    decode (truncate limit (oneLine s)) = decodeInner (truncate limit (oneLine s)) := by
  -- A text that was cut ends in a dot, so no quotes are taken away.
  have hlast : (truncate limit (oneLine s)).getLast? = some '.' := by
    rw [truncate_of_not_fits hlimit h]
    simp
  apply decode_eq_inner
  · apply Text.trim_eq_self
    · intro d hd
      obtain ⟨first, more, short, hhead, hshort⟩ := truncate_oneLine_head limit hne
      rw [hshort] at hd
      obtain rfl := Option.some.inj hd
      exact Text.not_blank_head_of_trim (trim_oneLine htrim) (hhead ▸ rfl)
    · intro d hd
      rw [hlast] at hd
      rw [← Option.some.inj hd]
      decide
  · unfold unwrap
    split
    · rename_i quote rest heq
      rw [if_neg]
      intro hquote
      simp only [Bool.and_eq_true, Bool.or_eq_true, beq_iff_eq, Bool.not_eq_true',
        List.isEmpty_eq_false_iff] at hquote
      obtain ⟨⟨hmark, hrest⟩, hend⟩ := hquote
      rw [heq, List.getLast?_cons_of_ne_nil hrest, hend] at hlast
      rw [Option.some.inj hlast] at hmark
      exact absurd hmark (by decide)
    · rfl

end Cut

theorem decode_quoted {limit : Int} {s : Text} (hlimit : 3 < limit) (hamp : '&' ∉ s)
    (hhash : '#' ∉ s) :
    if Fits limit (oneLine s) then
      decode ('"' :: truncate limit (oneLine s) ++ ['"']) = .ok (Text.trim (s.flatMap seenChar))
    else ∃ shown, CutTo limit s shown ∧
      decode ('"' :: truncate limit (oneLine s) ++ ['"']) = .ok shown := by
  have hinner : decode ('"' :: truncate limit (oneLine s) ++ ['"']) =
      decodeInner (truncate limit (oneLine s)) := by
    apply decode_eq_inner
    · refine Text.trim_eq_self (fun d hd => ?_) fun d hd => ?_
      · obtain rfl : '"' = d := Option.some.inj hd
        decide
      · rw [List.getLast?_concat] at hd
        obtain rfl : '"' = d := Option.some.inj hd
        decide
    · simp [unwrap]
  rw [hinner]
  split
  · rename_i hfits
    rw [truncate_of_fits hfits]
    exact decodeInner_oneLine hamp hhash
  · rename_i hlong
    exact exists_cutTo hlimit hamp hhash hlong

theorem unquoted_subset (s : Text) : unquoted s ⊆ s := by
  unfold unquoted
  split
  · exact ((List.dropLast_sublist _).trans (List.tail_sublist s)).subset
  · exact List.Subset.refl s

section Written

variable {limit : Int} {s : Text} (htrim : Text.trim s = s)

include htrim

variable (hamp : '&' ∉ s) (hhash : '#' ∉ s)

include hamp hhash

theorem decode_oneLine :
    decode (oneLine s) = .ok (Text.trim ((unquoted s).flatMap seenChar)) := by
  rw [decode_eq_inner (trim_oneLine htrim) (unwrap_oneLine s)]
  exact decodeInner_oneLine (fun h => hamp (unquoted_subset s h))
    fun h => hhash (unquoted_subset s h)

/-- A text that fits comes back character by character, and one that does not is cut. -/
theorem decode_short (hlimit : 3 < limit) (hne : s ≠ []) :
    if Fits limit (oneLine s) then
      decode (truncate limit (oneLine s)) = .ok (Text.trim ((unquoted s).flatMap seenChar))
    else ∃ shown, CutTo limit s shown ∧ decode (truncate limit (oneLine s)) = .ok shown := by
  split
  · rename_i hfits
    rw [truncate_of_fits hfits]
    exact decode_oneLine htrim hamp hhash
  · rename_i hlong
    rw [decode_truncate hlimit htrim hne hlong]
    exact exists_cutTo hlimit hamp hhash hlong

end Written

/-- Words with single spaces between them, without what a label may not hold. -/
structure Spaced (s : Text) : Prop where
  blanks : ∀ c ∈ s, Text.isBlank c = true → c = ' '
  single : Text.occursIn [' ', ' '] s = false
  kept : ∀ c ∈ s, c ∉ "|()[]\x7b\x7d".toList

namespace Spaced

variable {s : Text}

theorem tail {c : Char} (h : Spaced (c :: s)) : Spaced s where
  blanks := fun d hd => h.blanks d (List.mem_cons_of_mem _ hd)
  single := by
    have hsingle := h.single
    rw [Text.occursIn, Bool.or_eq_false_iff] at hsingle
    exact hsingle.2
  kept := fun d hd => h.kept d (List.mem_cons_of_mem _ hd)

theorem flatMap_labelChar (h : Spaced s) : s.flatMap labelChar = oneLine s := by
  have hchar : ∀ c ∈ s, labelChar c = nodeChar c := by
    intro c hc
    have hkept := h.kept c hc
    have hfeed : c ≠ '\n' := by
      rintro rfl
      exact absurd (h.blanks '\n' hc (by decide)) (by decide)
    have hbar : c ≠ '|' := by
      rintro rfl
      exact hkept (by decide)
    rw [labelChar, if_neg (by simpa using hkept), if_neg hfeed, nodeChar, if_neg hfeed, if_neg hbar]
  rw [oneLine, List.flatMap_def, List.flatMap_def, List.map_congr_left hchar]

theorem collapse_append {word : Text} (h : ∀ c ∈ word, Text.isBlank c = false) (rest : Text) :
    collapse (word ++ rest) = word ++ collapse rest := by
  induction word with
  | nil => rfl
  | cons c word ih =>
      rw [List.cons_append, collapse, if_neg (by simp [h c List.mem_cons_self]),
        ih fun d hd => h d (List.mem_cons_of_mem _ hd), List.cons_append]

theorem collapse_oneLine (h : Spaced s) : collapse (oneLine s) = oneLine s := by
  induction s with
  | nil => rfl
  | cons c s ih =>
      have hrest := ih h.tail
      rw [oneLine_cons]
      cases hblank : Text.isBlank c with
      | false =>
          have hnodeChar : ∀ d ∈ nodeChar c, Text.isBlank d = false := by
            intro d hd
            rcases mem_nodeChar hd with ⟨rfl, -⟩ | hmem
            · exact hblank
            · exact (by decide : ∀ d ∈ "<br/>&quot;&#124;".toList, Text.isBlank d = false) d hmem
          rw [collapse_append hnodeChar, hrest]
      | true =>
          obtain rfl := h.blanks c List.mem_cons_self hblank
          change collapse (' ' :: oneLine s) = ' ' :: oneLine s
          rw [collapse, if_pos (by decide), hrest]
          split
          · -- What begins with a space again would have two of them.
            rename_i rest hspace
            exfalso
            cases s with
            | nil => cases hspace
            | cons d s =>
                obtain ⟨first, inner, last, hfirst, -, hends⟩ := nodeChar_ends d
                have hhead := head?_oneLine (s := s) hfirst
                rw [hspace] at hhead
                obtain rfl : ' ' = first := Option.some.inj hhead
                have hd := h.tail.blanks d List.mem_cons_self
                  ((hends ' ' List.mem_cons_self).1 (by decide))
                have hsingle := h.single
                rw [hd, Text.occursIn] at hsingle
                simp [Text.startsWith, Text.after?] at hsingle
          · rfl

theorem edgeLabel_eq (h : Spaced s) (htrim : Text.trim s = s) (limit : Int) :
    edgeLabel limit s = truncate limit (oneLine s) := by
  rw [edgeLabel, h.flatMap_labelChar, h.collapse_oneLine, trim_oneLine htrim]

end Spaced

/-- A text without ampersands and number signs that fits comes back with its bars behind ampersands
and, outside of brackets, without quotes around it.  One that does not fit is cut: what comes back
is a beginning of it with dots, and what is left of the reference that the cut fell in stands
between them.  Labels of edges are cut in the same way. -/
theorem decode_limited {limit : Int} {s : Text} (hlimit : 3 < limit) (htrim : Text.trim s = s)
    (hne : s ≠ []) (hamp : '&' ∉ s) (hhash : '#' ∉ s) :
    (if Fits limit (oneLine s) then
      decode (nodeText limit s) =
        .ok (Text.trim ((if s.any isBracket then s else unquoted s).flatMap seenChar))
    else ∃ shown, CutTo limit s shown ∧ decode (nodeText limit s) = .ok shown) ∧
    (Spaced s →
      if Fits limit (oneLine s) then
        decode (edgeLabel limit s) = .ok (Text.trim ((unquoted s).flatMap seenChar))
      else ∃ shown, CutTo limit s shown ∧ decode (edgeLabel limit s) = .ok shown) := by
  constructor
  · rw [nodeText_eq, shownText_eq htrim hne]
    by_cases hbracket : s.any isBracket = true
    · rw [if_pos hbracket, if_pos hbracket]
      exact decode_quoted hlimit hamp hhash
    · rw [if_neg hbracket, if_neg hbracket]
      exact decode_short htrim hamp hhash hlimit hne
  · intro hspaced
    rw [hspaced.edgeLabel_eq htrim]
    exact decode_short htrim hamp hhash hlimit hne

/-- The cut falls into the reference of the first quotation mark. -/
def doneText : Text := "The assistant reads the page and then says \"Done\"".toList

theorem decode_limited_done :
    ((3 : Int) < 50 ∧ Text.trim doneText = doneText ∧ doneText ≠ [] ∧ '&' ∉ doneText ∧
      '#' ∉ doneText) ∧
    (if Fits 50 (oneLine doneText) then
      decode (nodeText 50 doneText) = .ok (Text.trim
        ((if doneText.any isBracket then doneText else unquoted doneText).flatMap seenChar))
    else ∃ shown, CutTo 50 doneText shown ∧ decode (nodeText 50 doneText) = .ok shown) ∧
    (Spaced doneText →
      if Fits 50 (oneLine doneText) then
        decode (edgeLabel 50 doneText) = .ok (Text.trim ((unquoted doneText).flatMap seenChar))
      else ∃ shown, CutTo 50 doneText shown ∧ decode (edgeLabel 50 doneText) = .ok shown) :=
  ⟨by decide, decode_limited (by decide) (by decide) (by decide) (by decide) (by decide)⟩

end Flowchart.Chart
