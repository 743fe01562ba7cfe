import Flowchart.Proofs.Chart.Reading

/-!
# Texts in shapes

Whatever a text holds, it is written on one line, and the shape around it ends where it was written
to.  Only an apostrophe at the beginning is taken for a quote, and then nothing may stand behind
the one that closes it.
-/

namespace Flowchart.Chart

theorem mem_nodeChar {c d : Char} (h : d ∈ nodeChar c) :
    d = c ∧ c ∉ ['\n', '"', '|'] ∨ d ∈ "<br/>&quot;&#124;".toList := by
  have htags : "<br/>".toList ⊆ "<br/>&quot;&#124;".toList ∧
      "&quot;".toList ⊆ "<br/>&quot;&#124;".toList ∧
      "&#124;".toList ⊆ "<br/>&quot;&#124;".toList := by decide
  unfold nodeChar at h
  split at h
  · exact .inr (htags.1 h)
  · split at h
    · exact .inr (htags.2.1 h)
    · split at h
      · exact .inr (htags.2.2 h)
      · exact .inl ⟨List.mem_singleton.1 h, by simp [*]⟩

theorem mem_oneLine {s : Text} {c : Char} (h : c ∈ oneLine s) :
    c ∈ s ∧ c ∉ ['\n', '"', '|'] ∨ c ∈ "<br/>&quot;&#124;".toList := by
  obtain ⟨d, hd, hc⟩ := List.mem_flatMap.1 h
  exact (mem_nodeChar hc).imp_left fun ⟨heq, hplain⟩ => heq ▸ ⟨hd, hplain⟩

theorem mem_truncate {limit : Int} {s : Text} {c : Char} (h : c ∈ truncate limit s) :
    c ∈ s ∨ c = '.' := by
  unfold truncate at h
  split at h
  · rcases List.mem_append.1 h with h | h
    · exact .inl (List.mem_of_mem_take h)
    · exact .inr (by simpa using h)
  · exact .inl h

theorem mem_trim {s : Text} {c : Char} (h : c ∈ Text.trim s) : c ∈ s := by
  obtain ⟨before, after, heq, -⟩ := Text.exists_trim s
  rw [heq]
  exact List.mem_append_right _ (List.mem_append_left _ h)

theorem mem_trim_of_not_blank {s : Text} {c : Char} (h : c ∈ s) (hblank : Text.isBlank c = false) :
    c ∈ Text.trim s := by
  obtain ⟨before, after, heq, hbefore, hafter⟩ := Text.exists_trim s
  rw [heq, List.mem_append, List.mem_append] at h
  rcases h with h | h | h
  · exact absurd (hbefore c h) (by simp [hblank])
  · exact h
  · exact absurd (hafter c h) (by simp [hblank])

def shownText (limit : Int) (s : Text) : Text :=
  match truncate limit (Text.trim (oneLine s)) with
  | [] => "Node".toList
  | short => short

section Shown

variable {limit : Int} {s : Text}

theorem mem_shownText {c : Char} (h : c ∈ shownText limit s) :
    c ∈ s ∧ c ∉ ['\n', '"', '|'] ∨ c ∈ "<br/>&quot;&#124;.Node".toList := by
  unfold shownText at h
  split at h
  · exact .inr ((by decide : "Node".toList ⊆ "<br/>&quot;&#124;.Node".toList) h)
  · rcases mem_truncate h with h | rfl
    · exact (mem_oneLine (mem_trim h)).imp_right fun h =>
        (by decide : "<br/>&quot;&#124;".toList ⊆ "<br/>&quot;&#124;.Node".toList) h
    · exact .inr (by decide)

theorem not_mem_shownText (limit : Int) (s : Text) {c : Char} (hc : c ∈ ['\n', '"', '|']) :
    c ∉ shownText limit s := by
  have hmarks : ∀ c ∈ ['\n', '"', '|'], c ∉ "<br/>&quot;&#124;.Node".toList := by decide
  intro h
  rcases mem_shownText h with ⟨-, hplain⟩ | h
  · exact hplain hc
  · exact hmarks c hc h

theorem bracket_not_mem_shownText (limit : Int) (hs : s.any isBracket = false) {c : Char}
    (hc : c ∈ "[]()\x7b\x7d".toList) : c ∉ shownText limit s := by
  have hmarks : ∀ c ∈ "[]()\x7b\x7d".toList,
      isBracket c = true ∧ c ∉ "<br/>&quot;&#124;.Node".toList := by decide
  intro h
  rcases mem_shownText h with ⟨hmem, -⟩ | h
  · rw [List.any_eq_false] at hs
    exact hs c hmem (hmarks c hc).1
  · exact (hmarks c hc).2 h

theorem truncate_head (limit : Int) (c : Char) (rest : Text) :
    ∃ rest', truncate limit (c :: rest) = c :: rest' := by
  unfold truncate
  split
  · rename_i hcut
    obtain ⟨n, hn⟩ : ∃ n, (limit - 3).toNat = n + 1 := ⟨(limit - 4).toNat, by omega⟩
    exact ⟨_, by rw [hn, List.take_succ_cons, List.cons_append]⟩
  · exact ⟨rest, rfl⟩

theorem shownText_head (limit : Int) (s : Text) :
    ∃ c rest, shownText limit s = c :: rest ∧ Text.isBlank c = false := by
  unfold shownText
  split
  · exact ⟨'N', _, rfl, by decide⟩
  · rename_i hne
    cases hkept : Text.trim (oneLine s) with
    | nil =>
        rw [hkept, truncate, if_neg (by simp only [List.length_nil]; omega)] at hne
        exact absurd rfl hne
    | cons c rest =>
        obtain ⟨rest', hcut⟩ := truncate_head limit c rest
        refine ⟨c, rest', hcut, ?_⟩
        exact Text.not_blank_head_of_trim (Text.trim_trim (oneLine s)) (by rw [hkept]; rfl)

theorem shownText_last {c : Char} (h : (shownText limit s).getLast? = some c) :
    Text.isBlank c = false := by
  unfold shownText at h
  split at h
  · obtain rfl : 'e' = c := Option.some.inj h
    decide
  · unfold truncate at h
    split at h
    · obtain rfl : '.' = c := by simpa using h
      decide
    · exact Text.not_blank_last_of_trim (Text.trim_trim _) h

theorem nodeText_eq : nodeText limit s =
    if s.any isBracket then '"' :: shownText limit s ++ ['"'] else shownText limit s := by
  unfold nodeText shownText oneLine
  cases hshort : truncate limit (Text.trim (s.flatMap nodeChar)) with
  | cons c short => rfl
  | nil =>
      -- A bracket would not be trimmed.
      have hnone : s.any isBracket = false := by
        rw [List.any_eq_false]
        intro c hc hbracket
        have hmarks : ∀ c ∈ "[]()\x7b\x7d<>".toList, nodeChar c = [c] ∧ Text.isBlank c = false := by
          decide
        obtain ⟨hchar, hblank⟩ := hmarks c (by simpa [isBracket] using hbracket)
        have hmem : c ∈ Text.trim (s.flatMap nodeChar) :=
          mem_trim_of_not_blank (List.mem_flatMap.2 ⟨c, hc, hchar ▸ List.mem_cons_self⟩) hblank
        obtain ⟨d, rest, hkept⟩ := List.exists_cons_of_ne_nil (List.ne_nil_of_mem hmem)
        obtain ⟨rest', hcut⟩ := truncate_head limit d rest
        rw [hkept, hcut] at hshort
        cases hshort
      rw [hnone]
      rfl

theorem feed_not_mem_nodeText : '\n' ∉ nodeText limit s := by
  have hshown : '\n' ∉ shownText limit s := not_mem_shownText limit s (by decide)
  rw [nodeText_eq]
  split
  · simp [hshown]
  · exact hshown

end Shown

theorem eq_of_quotedText {quote : Char} {s text rest : Text}
    (h : quotedText quote s = .ok (text, rest)) : s = text ++ quote :: rest := by
  induction s generalizing text with
  | nil => cases h
  | cons c s ih =>
      unfold quotedText at h
      split at h
      · rename_i hquote
        obtain ⟨rfl, rfl⟩ := Prod.mk.inj (Except.ok.inj h)
        rw [hquote, List.nil_append]
      · split at h
        · cases h
        · rename_i r hr
          obtain ⟨rfl, rfl⟩ := Prod.mk.inj (Except.ok.inj h)
          rw [List.cons_append, ← ih hr]

theorem exists_gaps (s : Text) :
    skipBlanks s = [] ∨ ∃ gaps, s = gaps ++ skipBlanks s ∧ ∀ c ∈ gaps, Text.isGap c = true := by
  unfold skipBlanks
  dsimp only
  split
  · exact .inl rfl
  · refine .inr ⟨s.takeWhile Text.isGap, List.takeWhile_append_dropWhile.symm, fun c hc => ?_⟩
    exact List.all_eq_true.1 List.all_takeWhile c hc

/-- Behind a text that ends in no blank and holds no closer, only the closer itself is found. -/
theorem after?_closer {s closer rest : Text} {close : Char}
    (hlast : ∀ c, s.getLast? = some c → Text.isGap c = false) (hclose : close ∉ s)
    (h : Text.after? (close :: closer) (skipBlanks (s ++ close :: closer)) = some rest) :
    s = [] ∧ rest = [] := by
  have heq := Text.eq_append_of_after? h
  rcases exists_gaps (s ++ close :: closer) with hnil | ⟨gaps, hgaps, hall⟩
  · rw [hnil] at heq
    cases heq
  · rw [heq] at hgaps
    have hnil : s = gaps → s = [] := by
      intro hs
      by_contra hne
      have hmem := List.getLast_mem hne
      have := hlast _ (List.getLast?_eq_some_getLast hne)
      rw [hall _ (hs ▸ hmem)] at this
      cases this
    rcases List.append_eq_append_iff.1 hgaps with ⟨more, hs, hclosers⟩ | ⟨more, hs, hclosers⟩
    · have hlength := congrArg List.length hclosers
      simp only [List.length_append, List.length_cons] at hlength
      obtain rfl : more = [] := List.eq_nil_of_length_eq_zero (by omega)
      exact ⟨hnil (by simpa using hs.symm), List.eq_nil_of_length_eq_zero (by omega)⟩
    · cases more with
      | nil =>
          have hlength := congrArg List.length hclosers
          simp only [List.nil_append, List.length_append, List.length_cons] at hlength
          exact ⟨hnil (by simpa using hs), List.eq_nil_of_length_eq_zero (by omega)⟩
      | cons c more =>
          rw [List.cons_append, List.cons_append] at hclosers
          rw [(List.cons.inj hclosers).1] at hclose
          exact absurd (hs ▸ List.mem_append_right _ List.mem_cons_self) hclose

/-- What a shape is read to hold: the text, or what stands in its own single quotes. -/
def Held (limit : Int) (s raw : Text) : Prop :=
  raw = shownText limit s ∨
    s.any isBracket = false ∧ shownText limit s = '\'' :: raw ++ ['\'']

section Shapes

variable {limit : Int} {s : Text} {shape : Shape} (hshape : shape ∈ writtenShapes)

include hshape

theorem shapeText_apostrophe (hs : s.any isBracket = false) {rest raw after : Text}
    (hshown : shownText limit s = '\'' :: rest) {node : Text}
    (h : shapeText node shape.closer (shownText limit s ++ shape.closer) = .ok (raw, after)) :
    after = [] ∧ shownText limit s = '\'' :: raw ++ ['\''] := by
  obtain ⟨close, closer, opener, hcloser, -, hclose, -⟩ := exists_closer hshape
  have hapostrophe : '\'' ∉ close :: closer := by
    rw [← hcloser]
    cases shape <;> decide
  have hnotclose := bracket_not_mem_shownText limit hs hclose
  rw [hcloser, shapeText, hshown, List.cons_append, skipBlanks_cons (by decide) (by decide)] at h
  simp only [or_true, ↓reduceIte] at h
  split at h
  · cases h
  · rename_i text behind hquoted
    split at h
    · rename_i rest' hafter
      obtain ⟨rfl, rfl⟩ := Prod.mk.inj (Except.ok.inj h)
      -- The second apostrophe cannot stand in the closer, so it is one of the text.
      rcases List.append_eq_append_iff.1 (eq_of_quotedText hquoted) with
        ⟨more, -, hclosers⟩ | ⟨more, hrest, hclosers⟩
      · exact absurd (hclosers ▸ List.mem_append_right _ List.mem_cons_self) hapostrophe
      · cases more with
        | nil =>
            rw [List.nil_append] at hclosers
            exact absurd (hclosers ▸ List.mem_cons_self) hapostrophe
        | cons c more =>
            obtain ⟨rfl, rfl⟩ := List.cons.inj hclosers
            rw [hrest] at hshown
            rw [hshown] at hnotclose
            have hfound := after?_closer (s := more) (fun c hc => ?_)
              (fun hmem => hnotclose (by simp [hmem])) hafter
            · obtain ⟨rfl, rfl⟩ := hfound
              exact ⟨rfl, hshown⟩
            · apply not_gap_of_not_blank
              apply shownText_last
              obtain ⟨init, rfl⟩ := List.getLast?_eq_some_iff.1 hc
              rw [hshown, ← List.cons_append, ← List.cons_append, ← List.append_assoc,
                List.getLast?_concat]
    · cases h

theorem shapeText_nodeText (limit : Int) (s node : Text) :
    (∃ fault, shapeText node shape.closer (nodeText limit s ++ shape.closer) = .error fault) ∨
      ∃ raw, shapeText node shape.closer (nodeText limit s ++ shape.closer) = .ok (raw, []) ∧
        Held limit s raw := by
  cases hresult : shapeText node shape.closer (nodeText limit s ++ shape.closer) with
  | error fault => exact .inl ⟨fault, rfl⟩
  | ok r =>
      obtain ⟨raw, after⟩ := r
      refine .inr ⟨raw, ?_⟩
      obtain ⟨close, closer, opener, hcloser, hnesting, hclose, hopener⟩ := exists_closer hshape
      rw [nodeText_eq] at hresult
      split at hresult
      · have hmarks : ∀ c ∈ "[]()\x7b\x7d".toList, Text.isGap c = false ∧ c ≠ '%' := by decide
        obtain ⟨hgap, hpercent⟩ := hmarks close hclose
        have hmark : '"' ∉ shownText limit s := not_mem_shownText limit s (by decide)
        have hquoted := shapeText_quoted hmark hgap hpercent node closer []
        rw [List.append_nil, ← hcloser, hresult] at hquoted
        obtain ⟨rfl, rfl⟩ := Prod.mk.inj (Except.ok.inj hquoted)
        exact ⟨rfl, .inl rfl⟩
      · rename_i hbare
        have hbare : s.any isBracket = false := by simpa using hbare
        obtain ⟨c, rest, hhead, hblank⟩ := shownText_head limit s
        -- A leading apostrophe is taken for a quote, so less than the text may come back.
        by_cases hapostrophe : c = '\''
        · obtain ⟨rfl, hshown⟩ := shapeText_apostrophe hshape hbare (hapostrophe ▸ hhead) hresult
          exact ⟨rfl, .inr ⟨hbare, hshown⟩⟩
        · have hquote : c ≠ '"' := by
            rintro rfl
            have hmark : '"' ∉ shownText limit s := not_mem_shownText limit s (by decide)
            exact hmark (hhead ▸ List.mem_cons_self)
          -- If a comment begins here, nothing is left to read.
          cases hcomment : Text.startsWith (shownText limit s ++ shape.closer) "%%".toList with
          | true =>
              have hblanks : skipBlanks (shownText limit s ++ shape.closer) = [] := by
                have hgaps : Text.skipGaps (shownText limit s ++ shape.closer) =
                    shownText limit s ++ shape.closer := by
                  rw [hhead, List.cons_append, Text.skipGaps,
                    List.dropWhile_cons_of_neg (by simp [not_gap_of_not_blank hblank])]
                rw [skipBlanks, hgaps, hcomment]
                rfl
              rw [shapeText, hblanks] at hresult
              cases hresult
          | false =>
              have hbody : shapeText node shape.closer (shownText limit s ++ shape.closer) =
                  .ok (shownText limit s, []) := by
                refine shapeText_bare (fun d hd => ?_) (fun d hd => ?_) (by simp [hhead])
                  hcomment ?_
                · obtain rfl : c = d := by simpa [hhead] using hd
                  exact not_gap_of_not_blank hblank
                · obtain rfl : c = d := by simpa [hhead] using hd
                  exact ⟨hquote, hapostrophe⟩
                · have hopen : ∀ d ∈ shownText limit s, some opener ≠ some d := fun d hd heq =>
                    bracket_not_mem_shownText limit hbare hopener (Option.some.inj heq ▸ hd)
                  have htext := bracketText?_of_levels
                    (levels_of_bare (bracket_not_mem_shownText limit hbare hclose) hopen) closer []
                  rw [hcloser, List.headD_cons, hnesting, ← List.append_nil (_ ++ _)]
                  exact htext
              rw [hresult] at hbody
              obtain ⟨rfl, rfl⟩ := Prod.mk.inj (Except.ok.inj hbody)
              exact ⟨rfl, .inl rfl⟩

end Shapes

end Flowchart.Chart
