import Flowchart.Proofs.Chart.Headings
import Flowchart.Proofs.Chart.Idle

/-!
# Carriage returns at the ends of lines

A chart is the same with a carriage return before every line feed, if no front matter stands above
it: each line ends in one more separator, and gaps before a heading take it in.
-/

namespace Flowchart.Chart

def withReturns (s : Text) : Text := Text.replace '\n' ['\r', '\n'] s

theorem withReturns_feed (s : Text) : withReturns ('\n' :: s) = '\r' :: '\n' :: withReturns s := rfl

theorem withReturns_cons {c : Char} (h : c ≠ '\n') (s : Text) :
    withReturns (c :: s) = c :: withReturns s := by
  simp [withReturns, Text.replace, h]

theorem exists_cons_withReturns (c : Char) (s : Text) :
    ∃ d rest, withReturns (c :: s) = d :: rest := by
  by_cases hc : c = '\n'
  · exact ⟨_, _, hc ▸ withReturns_feed s⟩
  · exact ⟨_, _, withReturns_cons hc s⟩

/-- The same line, or that line with a carriage return behind it. -/
def Returned (line line' : Text) : Prop := line' = line ∨ line' = line ++ ['\r']

theorem Returned.cons {line line' : Text} (h : Returned line line') (c : Char) :
    Returned (c :: line) (c :: line') := by
  rcases h with rfl | rfl
  · exact .inl rfl
  · exact .inr rfl

theorem forall₂_split (s : Text) :
    List.Forall₂ Returned (Text.split '\n' s) (Text.split '\n' (withReturns s)) := by
  induction s with
  | nil => exact .cons (.inl rfl) .nil
  | cons c s ih =>
      by_cases hc : c = '\n'
      · subst hc
        rw [withReturns_feed]
        exact .cons (.inr rfl) ih
      · have hfeed : (c == '\n') = false := beq_eq_false_iff_ne.2 hc
        rw [withReturns_cons hc, Text.split, Text.split,
          Text.splitWhere_cons_of_not (p := (· == '\n')) hfeed,
          Text.splitWhere_cons_of_not (p := (· == '\n')) hfeed]
        rw [Text.split, Text.split] at ih
        generalize Text.splitWhere (· == '\n') s = pieces at ih ⊢
        generalize Text.splitWhere (· == '\n') (withReturns s) = pieces' at ih ⊢
        cases ih with
        | nil => exact .cons (.inl rfl) .nil
        | cons hpiece hpieces => exact .cons (hpiece.cons c) hpieces

theorem Returned.read_eq {line line' : Text} (h : Returned line line') :
    Line.read line' = Line.read line := by
  rcases h with rfl | rfl
  · rfl
  · exact Line.readFrom_append (by decide) true line

theorem statementsOf_eq_of_forall₂ {lines lines' : List Text}
    (h : List.Forall₂ Returned lines lines') (number : Nat) :
    statementsOf number lines' = statementsOf number lines := by
  induction h generalizing number with
  | nil => rfl
  | cons hline _ ih => rw [statementsOf, statementsOf, hline.read_eq, ih]

theorem skipHeaderGaps_return {line : Text} (h : skipHeaderGaps line = []) :
    skipHeaderGaps (line ++ ['\r']) = [] := by
  have hreturn : (['\r'] : Text).dropWhile (fun c => Text.isGap c || c == '\r') = [] := rfl
  have hu : Detached ['\r'] := detached_cons (by decide) []
  rw [skipHeaderGaps] at h ⊢
  rw [List.dropWhile_append]
  split
  · rw [hreturn]
    rfl
  · rename_i hmore
    rw [hu.startsWith_append (by decide)]
    split at h
    · rw [if_pos ‹_›]
    · rw [h] at hmore
      exact absurd rfl hmore

namespace Returned

variable {line line' : Text} (h : Returned line line')

include h

theorem blank (hgaps : skipHeaderGaps line = []) : skipHeaderGaps line' = [] := by
  rcases h with rfl | rfl
  · exact hgaps
  · exact skipHeaderGaps_return hgaps

theorem header (hgaps : skipHeaderGaps line ≠ []) :
    skipHeaderGaps line' ≠ [] ∧ header? (skipHeaderGaps line') = header? (skipHeaderGaps line) := by
  rcases h with rfl | rfl
  · exact ⟨hgaps, rfl⟩
  · have hu : Detached ['\r'] := detached_cons (by decide) []
    rw [hu.skipHeaderGaps_append hgaps, hu.header?_append]
    exact ⟨List.append_ne_nil_of_left_ne_nil hgaps _, rfl⟩

end Returned

theorem splitHeader?_of_forall₂ {lines lines' : List Text}
    (h : List.Forall₂ Returned lines lines') :
    Option.Rel (fun found found' => found'.1 = found.1 ∧ List.Forall₂ Returned found.2 found'.2)
      (splitHeader? lines) (splitHeader? lines') := by
  induction h with
  | nil => exact .none
  | @cons line line' lines lines' hline hlines ih =>
      by_cases hgaps : skipHeaderGaps line = []
      · rw [splitHeader?_of_blank hgaps, splitHeader?_of_blank (hline.blank hgaps)]
        exact ih
      · obtain ⟨hgaps', hheader⟩ := hline.header hgaps
        rw [splitHeader?_of_ne hgaps, splitHeader?_of_ne hgaps', hheader]
        cases header? (skipHeaderGaps line) with
        | none => exact .none
        | some direction => exact .some ⟨rfl, hlines⟩

theorem Sheet.read_returned (body : Text) : Sheet.read (withReturns body) = Sheet.read body := by
  have hlines := forall₂_split body
  have hheader := splitHeader?_of_forall₂ hlines
  rw [Sheet.read, Sheet.read, layout, layout]
  generalize splitHeader? (Text.split '\n' body) = found at hheader ⊢
  generalize splitHeader? (Text.split '\n' (withReturns body)) = found' at hheader ⊢
  cases hheader with
  | none => simp only [statementsOf_eq_of_forall₂ hlines]
  | some hfound =>
      obtain ⟨hdirection, hrest⟩ := hfound
      simp only [hdirection, hlines.length_eq, hrest.length_eq, statementsOf_eq_of_forall₂ hrest]

theorem dropWhile_withReturns {p : Char → Bool} (hp : p '\r' = p '\n') (s : Text) :
    (withReturns s).dropWhile p = withReturns (s.dropWhile p) := by
  induction s with
  | nil => rfl
  | cons c s ih =>
      by_cases hc : c = '\n'
      · subst hc
        rw [withReturns_feed, List.dropWhile_cons, List.dropWhile_cons, List.dropWhile_cons, hp]
        split
        · exact ih
        · rfl
      · rw [withReturns_cons hc, List.dropWhile_cons, List.dropWhile_cons]
        split
        · exact ih
        · rw [withReturns_cons hc]

theorem after?_withReturns {p : Text} (hfeed : '\n' ∉ p) (hreturn : '\r' ∉ p) (s : Text) :
    Text.after? p (withReturns s) = (Text.after? p s).map withReturns := by
  induction p generalizing s with
  | nil => simp
  | cons d p ih =>
      rw [List.mem_cons, not_or] at hfeed hreturn
      cases s with
      | nil => rfl
      | cons c s =>
          by_cases hc : c = '\n'
          · subst hc
            simp [withReturns_feed, Text.after?, Ne.symm hfeed.1, Ne.symm hreturn.1]
          · rw [withReturns_cons hc, Text.after?, Text.after?, ih hfeed.2 hreturn.2]
            split <;> rfl

theorem afterNewline?_other {c : Char} (hfeed : c ≠ '\n') (hreturn : c ≠ '\r') (s : Text) :
    afterNewline? (c :: s) = none := by
  unfold afterNewline?
  split
  · rename_i heq
    exact absurd (List.cons.inj heq).1 hreturn
  · rename_i heq
    exact absurd (List.cons.inj heq).1 hfeed
  · rfl

theorem suffix_of_afterNewline? {s rest : Text} (h : afterNewline? s = some rest) : rest <:+ s := by
  unfold afterNewline? at h
  split at h
  · obtain rfl := Option.some.inj h
    exact (List.suffix_cons _ _).trans (List.suffix_cons _ _)
  · obtain rfl := Option.some.inj h
    exact List.suffix_cons _ _
  · cases h

theorem afterNewline?_withReturns {s : Text} (h : '\r' ∉ s) :
    afterNewline? (withReturns s) = (afterNewline? s).map withReturns := by
  cases s with
  | nil => rfl
  | cons c s =>
      rw [List.mem_cons, not_or] at h
      by_cases hc : c = '\n'
      · subst hc
        rfl
      · rw [withReturns_cons hc, afterNewline?_other hc (Ne.symm h.1),
          afterNewline?_other hc (Ne.symm h.1)]
        rfl

theorem afterClosing?_withReturns {s : Text} (h : '\r' ∉ s) :
    afterClosing? (withReturns s) = (afterClosing? s).map withReturns := by
  rw [afterClosing?, afterClosing?, afterNewline?_withReturns h]
  cases hline : afterNewline? s with
  | none => rfl
  | some line =>
      have hline : '\r' ∉ line := not_mem_of_suffix h (suffix_of_afterNewline? hline)
      simp only [Option.map_some, Option.bind_eq_bind, Option.bind_some]
      rw [after?_withReturns (by decide) (by decide)]
      cases hdashes : Text.after? "---".toList line with
      | none => rfl
      | some rest =>
          have hgaps : '\r' ∉ Text.skipGaps rest :=
            not_mem_of_suffix hline ((List.dropWhile_suffix _).trans (suffix_of_after? hdashes))
          simp only [Option.map_some, Option.bind_some]
          rw [Text.skipGaps, dropWhile_withReturns rfl, ← Text.skipGaps]
          generalize Text.skipGaps rest = gap at hgaps ⊢
          cases gap with
          | nil => rfl
          | cons c gap =>
              obtain ⟨d, more, hd⟩ := exists_cons_withReturns c gap
              rw [← afterNewline?_withReturns hgaps, hd]

theorem afterClosing?_return (s : Text) :
    afterClosing? ('\r' :: '\n' :: s) = afterClosing? ('\n' :: s) := rfl

theorem splitClosing?_withReturns {s : Text} (h : '\r' ∉ s) (hnone : splitClosing? s = none) :
    splitClosing? (withReturns s) = none := by
  induction s with
  | nil => rfl
  | cons c s ih =>
      have hclosing := afterClosing?_withReturns h
      rw [splitClosing?] at hnone
      split at hnone
      · cases hnone
      · rename_i hopen
        have hmore := ih (not_mem_of_suffix h (List.suffix_cons c s))
          (Option.map_eq_none_iff.1 hnone)
        rw [hopen, Option.map_none] at hclosing
        by_cases hc : c = '\n'
        · -- The closing dashes may stand behind either character, and stand behind neither.
          subst hc
          rw [withReturns_feed] at hclosing ⊢
          rw [splitClosing?, hclosing, splitClosing?, ← afterClosing?_return, hclosing, hmore]
          rfl
        · rw [withReturns_cons hc] at hclosing ⊢
          rw [splitClosing?, hclosing, hmore]
          rfl

theorem splitBlock?_withReturns {s : Text} (h : '\r' ∉ s) (hnone : splitBlock? s = none) :
    splitBlock? (withReturns s) = none := by
  rw [splitBlock?] at hnone ⊢
  rw [Text.trimLeft, dropWhile_withReturns rfl, ← Text.trimLeft,
    after?_withReturns (by decide) (by decide)]
  cases hdashes : Text.after? "---".toList (Text.trimLeft s) with
  | none => rfl
  | some rest =>
      have hgaps : '\r' ∉ Text.skipGaps rest :=
        not_mem_of_suffix h ((List.dropWhile_suffix _).trans
          ((suffix_of_after? hdashes).trans (List.dropWhile_suffix _)))
      simp only [hdashes, Option.bind_eq_bind, Option.bind_some] at hnone
      simp only [Option.map_some, Option.bind_eq_bind, Option.bind_some]
      rw [Text.skipGaps, dropWhile_withReturns rfl, ← Text.skipGaps,
        afterNewline?_withReturns hgaps]
      cases hinside : afterNewline? (Text.skipGaps rest) with
      | none => rfl
      | some inside =>
          rw [hinside] at hnone
          exact splitClosing?_withReturns
            (not_mem_of_suffix hgaps (suffix_of_afterNewline? hinside)) hnone

/-- Line ends of two characters do not change what is read, nor where reading fails. -/
theorem read_withReturns {s : Text} (hreturn : '\r' ∉ s) (hblock : splitBlock? s = none) :
    read (withReturns s) = read s := by
  have hfront : ∀ body, splitBlock? body = none → FrontMatter.read body = .ok ⟨{}, body⟩ := by
    intro body hbody
    rw [FrontMatter.read, hbody]
  rw [read, read, hfront s hblock, hfront _ (splitBlock?_withReturns hreturn hblock)]
  simp only [Sheet.read_returned]
  rfl

def tornChart : Text := "graph TD\n    A -->|yes| B\n    B[\"Open".toList

theorem read_withReturns_torn :
    (('\r' ∉ tornChart ∧ splitBlock? tornChart = none) ∧
      withReturns tornChart = "graph TD\r\n    A -->|yes| B\r\n    B[\"Open".toList) ∧
    read (withReturns tornChart) = read tornChart :=
  ⟨⟨by decide, by decide⟩, read_withReturns (by decide) (by decide)⟩

end Flowchart.Chart
