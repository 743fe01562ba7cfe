import Flowchart.Chart.Reader
import Flowchart.Proofs.Caption
import Flowchart.Proofs.Chart.Plain
import Flowchart.Proofs.Reference

/-!
# Wording of charts

What is written for a plain text or label decodes to itself, and the tags in a text become its
breaks again.
-/

namespace Flowchart.Chart

theorem hashName?_of_ne {c : Char} (h : c ≠ '#') (rest : Text) : hashName? (c :: rest) = none := by
  simp [hashName?, h]

theorem decodeHashes_eq_self {s : Text} (h : '#' ∉ s) : decodeHashes 0 s = .ok s := by
  induction s with
  | nil => rfl
  | cons c s ih =>
      rw [List.mem_cons, not_or] at h
      rw [decodeHashes, hashName?_of_ne fun hc => h.1 hc.symm, ih h.2]
      rfl

def IsWrapped (s : Text) : Prop :=
  1 < s.length ∧ s.head? = some '\'' ∧ s.getLast? = some '\''

instance (s : Text) : Decidable (IsWrapped s) :=
  inferInstanceAs (Decidable (1 < s.length ∧ s.head? = some '\'' ∧ s.getLast? = some '\''))

theorem unwrap_eq_self {s : Text} (hquote : '"' ∉ s) (hwrap : ¬ IsWrapped s) : unwrap s = s := by
  cases s with
  | nil => rfl
  | cons c s =>
      have hc : c ≠ '"' := fun heq => hquote (heq ▸ List.mem_cons_self)
      rw [unwrap, if_neg]
      simp only [Bool.and_eq_true, Bool.or_eq_true, beq_iff_eq, Bool.not_eq_true', not_and]
      rintro ⟨heq | rfl, hne⟩ hlast
      · exact hc heq
      · have hne : s ≠ [] := by simpa using hne
        refine hwrap ⟨?_, rfl, ?_⟩
        · simpa [List.length_pos_iff] using hne
        · rw [List.getLast?_cons_of_ne_nil hne, hlast]

theorem decode_eq_self {s : Text} (htrim : Text.trim s = s) (hwrap : unwrap s = s) (hhash : '#' ∉ s)
    (hreference : '&' ∉ s) : decode s = .ok s := by
  have hmarkup : decodeMarkup s = .ok s := by
    rw [decodeMarkup, Reference.decode_of_not_mem hreference]
    rfl
  rw [decode, htrim, hwrap, decodeHashes_eq_self hhash]
  simp only [bind, Except.bind, hmarkup, htrim]
  rfl

theorem truncate_of_fits {limit : Int} {s : Text} (h : Fits limit s) : truncate limit s = s := by
  unfold Fits at h
  rw [truncate, if_neg (by omega)]

theorem nodeChar_of_not_markup {c : Char} (h : isTextMarkup c = false) :
    nodeChar c = if c = '\n' then "<br/>".toList else [c] := by
  have hquote : c ≠ '"' := Text.ne_of_class h (by decide)
  have hbar : c ≠ '|' := Text.ne_of_class h (by decide)
  rw [nodeChar, if_neg hquote, if_neg hbar]

theorem nodeChar_of_not_blank {c : Char} (h : isTextMarkup c = false)
    (hblank : Text.isBlank c = false) : nodeChar c = [c] := by
  have hfeed : c ≠ '\n' := Text.ne_of_class hblank (by decide)
  rw [nodeChar_of_not_markup h, if_neg hfeed]

namespace PlainText

variable {s : Text} (h : PlainText s)

include h

theorem mem_oneLine {c : Char} (hc : c ∈ oneLine s) :
    c ∈ s ∧ c ≠ '\n' ∨ c ∈ "<br/>".toList := by
  obtain ⟨d, hd, hc⟩ := List.mem_flatMap.1 hc
  rw [nodeChar_of_not_markup (h.bare d hd)] at hc
  split at hc
  · exact .inr hc
  · rename_i hfeed
    rw [List.mem_singleton.1 hc]
    exact .inl ⟨hd, hfeed⟩

theorem not_mem_oneLine {c : Char} (hc : isTextMarkup c = true ∨ c = '\n')
    (htag : c ∉ "<br/>".toList) : c ∉ oneLine s := by
  intro hmem
  rcases h.mem_oneLine hmem with ⟨hs, hfeed⟩ | hmem
  · rcases hc with hc | hc
    · exact absurd (h.bare c hs) (by simp [hc])
    · exact hfeed hc
  · exact htag hmem

theorem oneLine_head : ∃ c rest, s = c :: rest ∧ oneLine s = c :: oneLine rest ∧
    Text.isBlank c = false ∧ c ≠ '\'' ∧ isTextMarkup c = false := by
  obtain ⟨c, rest, rfl, hblank⟩ := h.head
  have hc := h.bare c List.mem_cons_self
  refine ⟨c, rest, rfl, ?_, hblank, ?_, hc⟩
  · rw [oneLine, List.flatMap_cons, nodeChar_of_not_blank hc hblank]
    rfl
  · rintro rfl
    exact h.unquoted rfl

theorem trim_oneLine : Text.trim (oneLine s) = oneLine s := by
  obtain ⟨c, rest, -, hhead, hblank, -⟩ := h.oneLine_head
  obtain ⟨init, d, hlast, hend⟩ := h.last
  apply Text.trim_eq_self
  · intro e he
    obtain rfl : c = e := by simpa [hhead] using he
    exact hblank
  · intro e he
    have hd : nodeChar d = [d] := nodeChar_of_not_blank (h.bare d (by simp [hlast])) hend
    obtain rfl : d = e := by simpa [hlast, oneLine, List.flatMap_append, hd] using he
    exact hend

theorem nodeText_eq {limit : Int} (hfits : Fits limit (oneLine s)) :
    nodeText limit s = if s.any isBracket then '"' :: oneLine s ++ ['"'] else oneLine s := by
  obtain ⟨c, rest, -, hhead, -⟩ := h.oneLine_head
  have hshort : truncate limit (Text.trim (s.flatMap nodeChar)) = c :: oneLine rest := by
    rw [← hhead, ← truncate_of_fits hfits]
    exact congrArg (truncate limit) h.trim_oneLine
  rw [nodeText, hshort, hhead]

theorem decode_oneLine : decode (oneLine s) = .ok (oneLine s) := by
  obtain ⟨c, rest, -, hhead, -, hquote, hmarkup⟩ := h.oneLine_head
  have hdouble : c ≠ '"' := Text.ne_of_class hmarkup (by decide)
  have hwrap : unwrap (oneLine s) = oneLine s := by
    simp [hhead, unwrap, hquote, hdouble]
  exact decode_eq_self h.trim_oneLine hwrap (h.not_mem_oneLine (.inl rfl) (by decide))
    (h.not_mem_oneLine (.inl rfl) (by decide))

theorem no_comment {tail : Text} (htail : tail.head? ≠ some '%') :
    Text.startsWith (oneLine s ++ tail) "%%".toList = false := by
  obtain ⟨c, rest, rfl, hhead, -⟩ := h.oneLine_head
  rw [hhead, List.cons_append]
  by_cases hc : c = '%'
  · -- The second sign of a comment would come from the text or from what follows it.
    subst hc
    have hnext : (oneLine rest ++ tail).head? ≠ some '%' := by
      cases rest with
      | nil => exact htail
      | cons d rest =>
          have hd : d ≠ '%' := by
            rintro rfl
            exact absurd h.uncommented (by simp [Text.startsWith, Text.after?])
          rw [oneLine, List.flatMap_cons, nodeChar_of_not_markup (h.bare d (by simp))]
          split <;> simp [hd]
    cases hafter : oneLine rest ++ tail with
    | nil => rfl
    | cons d after =>
        have hd : '%' ≠ d := fun heq => hnext (by rw [hafter, heq]; rfl)
        simp [Text.startsWith, Text.after?, hd]
  · simp [Text.startsWith, Text.after?, Ne.symm hc]

theorem replaceBreakTags_oneLine : replaceBreakTags (oneLine s) = s := by
  have hbare := h.bare
  clear h
  unfold replaceBreakTags
  induction s with
  | nil => rfl
  | cons c s ih =>
      have hrest := ih fun d hd => hbare d (List.mem_cons_of_mem _ hd)
      have hc := nodeChar_of_not_markup (hbare c List.mem_cons_self)
      rw [oneLine, List.flatMap_cons, hc]
      split
      · rename_i hfeed
        have hfind : (breakTag? ("<br/>".toList ++ oneLine s)).map (·, ['\n']) = some (5, ['\n']) :=
          congrArg (Option.map (·, ['\n'])) (breakTag?_append _)
        rw [hfeed]
        exact (Text.substitute_of_some hfind).trans (congrArg ('\n' :: ·) hrest)
      · have hopen : c ≠ '<' := Text.ne_of_class (hbare c List.mem_cons_self) (by decide)
        rw [List.singleton_append, Text.substitute_of_none (by rw [breakTag?_of_ne hopen]; rfl)]
        exact congrArg (c :: ·) hrest

theorem ofText_oneLine : Caption.ofText (oneLine s) = ⟨(Text.split '\n' s).headD [], s⟩ :=
  Caption.ofText_of_replaced h.replaceBreakTags_oneLine h.lined

end PlainText

theorem collapse_eq_self {s : Text} (hspaced : ∀ c ∈ s, Text.isBlank c = true → c = ' ')
    (hsingle : Text.occursIn [' ', ' '] s = false) : collapse s = s := by
  induction s with
  | nil => rfl
  | cons c s ih =>
      simp only [Text.occursIn, Bool.or_eq_false_iff] at hsingle
      obtain ⟨hhere, hrest⟩ := hsingle
      have hcollapse := ih (fun d hd => hspaced d (List.mem_cons_of_mem _ hd)) hrest
      cases hblank : Text.isBlank c with
      | false => simp [collapse, hblank, hcollapse]
      | true =>
          obtain rfl := hspaced c List.mem_cons_self hblank
          cases s with
          | nil => rfl
          | cons d s =>
              have hd : d ≠ ' ' := by
                rintro rfl
                exact absurd hhere (by simp [Text.startsWith, Text.after?])
              rw [collapse, if_pos hblank, hcollapse]
              split
              · rename_i heq
                exact absurd (List.cons.inj heq).1 hd
              · rfl

namespace PlainMark

variable {s : Text} (h : PlainMark s)

include h

theorem not_mem {c : Char} (hc : isMarkMarkup c = true) : c ∉ s :=
  fun hmem => absurd (h.bare c hmem) (by simp [hc])

theorem flatMap_labelChar : s.flatMap labelChar = s := by
  have hchar : ∀ c ∈ s, labelChar c = [c] := by
    intro c hc
    have hfeed : c ≠ '\n' := by
      rintro rfl
      exact absurd (h.spaced '\n' hc (by decide)) (by decide)
    have hbare := h.bare c hc
    simp only [isMarkMarkup, List.contains_eq_mem, decide_eq_false_iff_not, List.mem_cons,
      List.not_mem_nil, or_false, not_or] at hbare
    simp [labelChar, hfeed, hbare]
  rw [List.flatMap_def, List.map_congr_left hchar, ← List.flatMap_def, List.flatMap_singleton']

theorem edgeLabel_eq {limit : Int} (hfits : Fits limit s) : edgeLabel limit s = s := by
  rw [edgeLabel, h.flatMap_labelChar, collapse_eq_self h.spaced h.single, h.trimmed,
    truncate_of_fits hfits]

theorem unwrap_eq : unwrap s = s := by
  refine unwrap_eq_self (h.not_mem (by decide)) ?_
  rintro ⟨hlength, hhead, hlast⟩
  have := h.unwrapped hhead hlast
  omega

theorem decode_eq : decode s = .ok s :=
  decode_eq_self h.trimmed h.unwrap_eq (h.not_mem (by decide)) (h.not_mem (by decide))

end PlainMark

end Flowchart.Chart
