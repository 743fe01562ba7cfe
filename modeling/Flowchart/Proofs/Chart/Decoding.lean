import Flowchart.Proofs.Chart.Shown
import Flowchart.Proofs.Reference

/-!
# Decoding of written texts

The references that a text is written with are read in two steps, those with a number sign first.
A quotation mark comes back from them; a bar comes back behind the ampersand of its own reference.
-/

namespace Flowchart.Chart

def decodeInner (s : Text) : Except BadCode Text := do
  let decoded ← decodeHashes 0 s
  let meant ← decodeMarkup decoded
  return Text.trim meant

theorem decode_eq_inner {s t : Text} (htrim : Text.trim s = s) (h : unwrap s = t) :
    decode s = decodeInner t := by
  rw [decode, htrim, h, decodeInner]

theorem decodeInner_of_hashes {s decoded meant : Text} (hhashes : decodeHashes 0 s = .ok decoded)
    (hmeant : Reference.decode decoded = .ok meant) : decodeInner s = .ok (Text.trim meant) := by
  have hmarkup : decodeMarkup decoded = .ok meant := by
    rw [decodeMarkup, hmeant]
    rfl
  rw [decodeInner, hhashes]
  simp only [bind, Except.bind, hmarkup]
  rfl

theorem decodeHashes_of_none {c : Char} {s : Text} (h : hashName? (c :: s) = none) :
    decodeHashes 0 (c :: s) = (decodeHashes 0 s).map (c :: ·) := by
  rw [decodeHashes, h]

theorem decodeHashes_append_of_not_mem {s : Text} (h : '#' ∉ s) (rest : Text) :
    decodeHashes 0 (s ++ rest) = (decodeHashes 0 rest).map (s ++ ·) := by
  induction s with
  | nil => cases hrest : decodeHashes 0 rest <;> simp [Except.map, hrest]
  | cons c s ih =>
      rw [List.mem_cons, not_or] at h
      rw [List.cons_append, decodeHashes_of_none (hashName?_of_ne (Ne.symm h.1) _), ih h.2]
      cases decodeHashes 0 rest <;> rfl

/-- The number sign in the reference of a bar is found before the reference is. -/
theorem decodeHashes_bar (rest : Text) :
    decodeHashes 0 ("&#124;".toList ++ rest) = (decodeHashes 0 rest).map ("&|".toList ++ ·) := by
  have hname : hashName? ('#' :: ("124;".toList ++ rest)) = some "124".toList := rfl
  have hmeaning : hashMeaning "124".toList = .ok ['|'] := by decide
  have hhash : decodeHashes 0 ("#124;".toList ++ rest) = (decodeHashes 0 rest).map ('|' :: ·) := by
    change decodeHashes 0 ('#' :: ("124;".toList ++ rest)) = _
    rw [decodeHashes, hname]
    simp only [hmeaning]
    have hskip : decodeHashes ("124".toList.length + 1) ("124;".toList ++ rest) =
        decodeHashes 0 rest := rfl
    rw [hskip]
    cases decodeHashes 0 rest <;> rfl
  change decodeHashes 0 (['&'] ++ ("#124;".toList ++ rest)) = _
  rw [decodeHashes_append_of_not_mem (by decide), hhash]
  cases decodeHashes 0 rest <;> rfl

theorem nodeChar_ends (c : Char) : ∃ first inner last, nodeChar c = first :: inner ∧
    (nodeChar c).getLast? = some last ∧ ∀ edge ∈ [first, last],
      (Text.isBlank edge = true → Text.isBlank c = true) ∧ (edge = '\'' → c = '\'') := by
  have hmarks : ∀ mark ∈ ['<', '>', '&', ';'], Text.isBlank mark = false ∧ mark ≠ '\'' := by decide
  have hends : ∀ first last, first ∈ ['<', '>', '&', ';'] → last ∈ ['<', '>', '&', ';'] →
      ∀ edge ∈ [first, last],
        (Text.isBlank edge = true → Text.isBlank c = true) ∧ (edge = '\'' → c = '\'') := by
    intro first last hfirst hlast edge hedge
    have hmark : edge ∈ ['<', '>', '&', ';'] := by
      simp only [List.mem_cons, List.not_mem_nil, or_false] at hedge
      rcases hedge with rfl | rfl
      · exact hfirst
      · exact hlast
    obtain ⟨hblank, hquote⟩ := hmarks edge hmark
    exact ⟨fun h => absurd h (by simp [hblank]), fun h => absurd h hquote⟩
  unfold nodeChar
  split
  · exact ⟨_, _, '>', rfl, rfl, hends _ _ (by decide) (by decide)⟩
  · split
    · exact ⟨_, _, ';', rfl, rfl, hends _ _ (by decide) (by decide)⟩
    · split
      · exact ⟨_, _, ';', rfl, rfl, hends _ _ (by decide) (by decide)⟩
      · exact ⟨c, [], c, rfl, rfl, by simp⟩

theorem head?_oneLine {c : Char} {s : Text} {first : Char} {inner : Text}
    (h : nodeChar c = first :: inner) : (oneLine (c :: s)).head? = some first := by
  rw [oneLine_cons, h]
  rfl

theorem getLast?_oneLine {c : Char} {s : Text} {last : Char}
    (h : (nodeChar c).getLast? = some last) : (oneLine (s ++ [c])).getLast? = some last := by
  rw [oneLine, List.flatMap_append, List.flatMap_singleton, List.getLast?_append, h]
  rfl

theorem trim_oneLine {s : Text} (htrim : Text.trim s = s) : Text.trim (oneLine s) = oneLine s := by
  apply Text.trim_eq_self
  · intro d hd
    cases s with
    | nil => cases hd
    | cons c rest =>
        obtain ⟨first, inner, last, hfirst, -, hends⟩ := nodeChar_ends c
        rw [head?_oneLine hfirst] at hd
        obtain rfl := Option.some.inj hd
        have hc := Text.not_blank_head_of_trim htrim rfl
        simpa [hc] using (hends first List.mem_cons_self).1
  · intro d hd
    rcases List.eq_nil_or_concat s with rfl | ⟨init, c, rfl⟩
    · cases hd
    · rw [List.concat_eq_append] at hd htrim
      obtain ⟨first, inner, last, -, hlast, hends⟩ := nodeChar_ends c
      rw [getLast?_oneLine hlast] at hd
      obtain rfl := Option.some.inj hd
      have hc := Text.not_blank_last_of_trim htrim List.getLast?_concat
      simpa [hc] using (hends last (by simp)).1

theorem truncate_oneLine_head (limit : Int) {s : Text} (hne : s ≠ []) :
    ∃ first more short, oneLine s = first :: more ∧
      truncate limit (oneLine s) = first :: short := by
  obtain ⟨c, rest, rfl⟩ := List.exists_cons_of_ne_nil hne
  obtain ⟨first, inner, -, hfirst, -⟩ := nodeChar_ends c
  obtain ⟨more, hmore⟩ := List.head?_eq_some_iff.1 (head?_oneLine (s := rest) hfirst)
  obtain ⟨short, hshort⟩ := truncate_head limit first more
  exact ⟨first, more, short, hmore, hmore ▸ hshort⟩

theorem shownText_eq {limit : Int} {s : Text} (htrim : Text.trim s = s) (hne : s ≠ []) :
    shownText limit s = truncate limit (oneLine s) := by
  obtain ⟨first, more, short, -, hshort⟩ := truncate_oneLine_head limit hne
  rw [shownText, trim_oneLine htrim, hshort]

def unquoted (s : Text) : Text := if IsWrapped s then s.tail.dropLast else s

theorem exists_of_isWrapped {s : Text} (h : IsWrapped s) :
    ∃ inner, s = '\'' :: inner ++ ['\''] := by
  obtain ⟨hlength, hhead, hlast⟩ := h
  obtain ⟨rest, rfl⟩ := List.head?_eq_some_iff.1 hhead
  have hne : rest ≠ [] := by
    rintro rfl
    simp at hlength
  rw [List.getLast?_cons_of_ne_nil hne] at hlast
  obtain ⟨inner, rfl⟩ := List.getLast?_eq_some_iff.1 hlast
  exact ⟨inner, rfl⟩

theorem isWrapped_append (inner : Text) : IsWrapped ('\'' :: inner ++ ['\'']) :=
  ⟨by simp, rfl, List.getLast?_concat⟩

theorem oneLine_wrapped (inner : Text) :
    oneLine ('\'' :: inner ++ ['\'']) = '\'' :: oneLine inner ++ ['\''] := by
  have hquote : nodeChar '\'' = ['\''] := by decide
  rw [oneLine, List.cons_append, List.flatMap_cons, List.flatMap_append, List.flatMap_singleton,
    hquote]
  rfl

theorem isWrapped_of_oneLine {s : Text} (h : IsWrapped (oneLine s)) : IsWrapped s := by
  obtain ⟨hlength, hhead, hlast⟩ := h
  cases s with
  | nil => cases hhead
  | cons c rest =>
      obtain ⟨first, inner, last, hfirst, -, hends⟩ := nodeChar_ends c
      rw [head?_oneLine hfirst] at hhead
      obtain rfl := (hends first List.mem_cons_self).2 (Option.some.inj hhead)
      rcases List.eq_nil_or_concat rest with rfl | ⟨init, d, rfl⟩
      · exact absurd hlength (by decide)
      · rw [List.concat_eq_append, ← List.cons_append] at hlast ⊢
        obtain ⟨first, inner, last, -, hend, hends⟩ := nodeChar_ends d
        rw [getLast?_oneLine hend] at hlast
        obtain rfl := (hends last (by simp)).2 (Option.some.inj hlast)
        exact isWrapped_append init

theorem unwrap_oneLine (s : Text) : unwrap (oneLine s) = oneLine (unquoted s) := by
  -- Only the quotes of the text itself are taken away, as others are written as references.
  have hdouble : '"' ∉ oneLine s := by
    intro h
    rcases mem_oneLine h with ⟨-, hplain⟩ | h
    · exact hplain (by decide)
    · exact absurd h (by decide)
  by_cases hwrap : IsWrapped s
  · obtain ⟨inner, rfl⟩ := exists_of_isWrapped hwrap
    rw [unquoted, if_pos hwrap, oneLine_wrapped]
    simp [unwrap]
  · rw [unquoted, if_neg hwrap, unwrap_eq_self hdouble fun h => hwrap (isWrapped_of_oneLine h)]

/-- What a character comes back as. -/
def seenChar (c : Char) : Text :=
  if c = '\n' then "<br/>".toList else if c = '|' then "&|".toList else [c]

/-- What a character is after the first step. -/
def halfChar (c : Char) : Text := if c = '|' then "&|".toList else nodeChar c

theorem hash_not_mem_nodeChar {c : Char} (hbar : c ≠ '|') (hhash : c ≠ '#') :
    '#' ∉ nodeChar c := by
  intro h
  unfold nodeChar at h
  rw [if_neg hbar] at h
  split at h
  · exact absurd h (by decide)
  · split at h
    · exact absurd h (by decide)
    · exact hhash (List.mem_singleton.1 h).symm

theorem decodeHashes_oneLine {s : Text} (h : '#' ∉ s) (rest : Text) :
    decodeHashes 0 (oneLine s ++ rest) = (decodeHashes 0 rest).map (s.flatMap halfChar ++ ·) := by
  induction s with
  | nil => cases hrest : decodeHashes 0 rest <;> simp [Except.map, oneLine, hrest]
  | cons c s ih =>
      rw [List.mem_cons, not_or] at h
      have hstep : decodeHashes 0 (nodeChar c ++ (oneLine s ++ rest)) =
          (decodeHashes 0 (oneLine s ++ rest)).map (halfChar c ++ ·) := by
        unfold halfChar
        split
        · rename_i hbar
          rw [hbar]
          exact decodeHashes_bar _
        · rename_i hbar
          exact decodeHashes_append_of_not_mem (hash_not_mem_nodeChar hbar (Ne.symm h.1)) _
      rw [oneLine_cons, List.append_assoc, hstep, ih h.2]
      cases decodeHashes 0 rest with
      | error code => rfl
      | ok decoded => simp [Except.map]

theorem decode_halves {s : Text} (h : '&' ∉ s) (rest : Text) :
    Reference.decode (s.flatMap halfChar ++ rest) =
      (Reference.decode rest).map (s.flatMap seenChar ++ ·) := by
  induction s with
  | nil => cases hrest : Reference.decode rest <;> simp [Except.map, hrest]
  | cons c s ih =>
      rw [List.mem_cons, not_or] at h
      have hstep : ∀ rest, Reference.decode (halfChar c ++ rest) =
          (Reference.decode rest).map (seenChar c ++ ·) := by
        intro rest
        unfold halfChar seenChar nodeChar
        by_cases hbar : c = '|'
        · -- No name begins with a bar.
          have hquiet := Reference.quiet_cons (c := '|') (by decide)
            (Reference.foreign_of_code rfl) rest
          rw [hbar]
          refine (Reference.decode_ampersand hquiet).trans ?_
          rw [Reference.decode_cons_of_ne (by decide)]
          cases Reference.decode rest <;> rfl
        · by_cases hfeed : c = '\n'
          · rw [hfeed]
            exact Reference.decode_append_of_not_mem (by decide) rest
          · by_cases hquote : c = '"'
            · rw [hquote]
              exact Reference.decode_quot rest
            · simp only [hbar, hfeed, hquote, ↓reduceIte]
              exact Reference.decode_cons_of_ne (Ne.symm h.1) rest
      rw [List.flatMap_cons, List.append_assoc, hstep, ih h.2]
      cases Reference.decode rest with
      | error fault => rfl
      | ok decoded => simp [Except.map]

theorem decodeInner_oneLine {s : Text} (hamp : '&' ∉ s) (hhash : '#' ∉ s) :
    decodeInner (oneLine s) = .ok (Text.trim (s.flatMap seenChar)) := by
  have hhashes : decodeHashes 0 (oneLine s) = .ok (s.flatMap halfChar) := by
    have hstep := decodeHashes_oneLine hhash []
    rw [List.append_nil] at hstep
    rw [hstep]
    exact congrArg Except.ok (List.append_nil _)
  have hmeant : Reference.decode (s.flatMap halfChar) = .ok (s.flatMap seenChar) := by
    have hstep := decode_halves hamp []
    rw [List.append_nil] at hstep
    rw [hstep]
    exact congrArg Except.ok (List.append_nil _)
  exact decodeInner_of_hashes hhashes hmeant

end Flowchart.Chart
