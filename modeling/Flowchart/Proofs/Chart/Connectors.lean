import Flowchart.Proofs.Chart.Document
import Flowchart.Proofs.Chart.Reading

/-!
# Connectors of documents

Every line is told from the others by where its runs end. A label inside a line goes up to the first
gap that what closes the line follows.
-/

namespace Flowchart.Chart

theorem run_replicate {c : Char} (n : Nat) (rest : Text) (hrest : rest.head? ≠ some c) :
    (List.replicate n c ++ rest).takeWhile (· == c) = List.replicate n c ∧
      (List.replicate n c ++ rest).dropWhile (· == c) = rest := by
  refine Text.run_append (fun d hd => ?_) fun d hd => ?_
  · simp [List.eq_of_mem_replicate hd]
  · rw [beq_eq_false_iff_ne]
    rintro rfl
    exact hrest hd

theorem Follows.head_ne {rest : Text} (h : Follows rest) {c : Char} (hspace : c ≠ ' ')
    (hbar : c ≠ '|') : rest.head? ≠ some c := by
  rcases h with h | h
  · simpa [h] using hspace.symm
  · simpa [h] using hbar.symm

theorem after?_of_head {c : Char} {tip rest : Text} (h : rest.head? ≠ some c) :
    Text.after? (c :: tip) rest = none := by
  cases rest with
  | nil => rfl
  | cons d rest =>
      have hne : c ≠ d := fun heq => h (congrArg some heq.symm)
      simp [Text.after?, hne]

theorem plain?_rod (rod : Rod) (extra : Nat) {rest : Text} (h : Follows rest) :
    plain? (rod.text extra ++ rest) = some (rod.style, rest) := by
  have hgreater := h.head_ne (c := '>') (by decide) (by decide)
  have hdash := h.head_ne (c := '-') (by decide) (by decide)
  have hequals := h.head_ne (c := '=') (by decide) (by decide)
  -- Where the run of each line ends.
  have harrow := run_replicate extra (c := '-') ('>' :: rest) (by simp)
  have hthick := run_replicate extra (c := '=') ('>' :: rest) (by simp)
  have hdotted := run_replicate extra (c := '.') ('-' :: '>' :: rest) (by simp)
  have hline := run_replicate extra rest hdash
  have hthickLine := run_replicate extra rest hequals
  have hdottedLine := run_replicate extra (c := '.') ('-' :: rest) (by simp)
  cases rod <;>
    simp [plain?, plainArrows, Rod.text, Rod.style, Stroke.past?, Text.after?, List.replicate_succ,
      harrow, hthick, hdotted, hline, hthickLine, hdottedLine, after?_of_head hgreater]

theorem innerLabel?_eq_none {start s : Text}
    (h : ∀ rest, Text.after? start s = some rest → rest.takeWhile Text.isGap = [])
    (stroke : Stroke) : innerLabel? start stroke s = none := by
  unfold innerLabel?
  cases hafter : Text.after? start s with
  | none => rfl
  | some rest => simp only [h rest hafter, List.length_nil, if_true]

theorem takeWhile_isGap_replicate {c d : Char} (hc : Text.isGap c = false)
    (hd : Text.isGap d = false) (n : Nat) (rest : Text) :
    (List.replicate n c ++ d :: rest).takeWhile Text.isGap = [] := by
  cases n with
  | zero => exact List.takeWhile_cons_of_neg (by simp [hd])
  | succ n =>
      rw [List.replicate_succ, List.cons_append]
      exact List.takeWhile_cons_of_neg (by simp [hc])

theorem labelled?_rod (rod : Rod) (extra : Nat) (rest : Text) :
    labelled? (rod.text extra ++ rest) = none := by
  have hgapless : ∀ arrow ∈ labelledArrows, ∀ after,
      Text.after? arrow.2.1 (rod.text extra ++ rest) = some after →
        after.takeWhile Text.isGap = [] := by
    intro arrow harrow after hafter
    simp only [labelledArrows, List.mem_cons, List.not_mem_nil, or_false] at harrow
    rcases harrow with rfl | rfl | rfl <;> cases rod <;>
      simp [Rod.text, Text.after?, List.replicate_succ] at hafter <;>
      subst hafter <;>
      first
        | exact takeWhile_isGap_replicate rfl rfl extra _
        | exact List.takeWhile_cons_of_neg (by decide)
  rw [labelled?, List.findSome?_eq_none_iff]
  intro arrow harrow
  rw [innerLabel?_eq_none (hgapless arrow harrow)]
  rfl

theorem exists_run_of_past? {stroke : Stroke} {s rest : Text} (h : stroke.past? s = some rest) :
    ∃ n, stroke.least ≤ n ∧
      s = stroke.start ++ (List.replicate n stroke.run ++ (stroke.tip ++ rest)) := by
  unfold Stroke.past? at h
  split at h
  · cases h
  · rename_i after hafter
    split at h
    · rename_i hleast
      refine ⟨_, hleast, ?_⟩
      have hrun : after.takeWhile (· == stroke.run) =
          List.replicate (after.takeWhile (· == stroke.run)).length stroke.run := by
        rw [List.eq_replicate_iff]
        exact ⟨rfl, fun c hc => by simpa using List.all_eq_true.1 List.all_takeWhile c hc⟩
      rw [Text.eq_append_of_after? hafter, ← hrun, ← Text.eq_append_of_after? h,
        List.takeWhile_append_dropWhile]
    · cases h

namespace Shaft

variable (shaft : Shaft)

def stroke : Shaft → Stroke
  | arrow => ⟨[], '-', 2, ['>']⟩
  | thick => ⟨[], '=', 2, ['>']⟩
  | dotted => ⟨['.'], '-', 1, ['>']⟩

theorem past?_closing (extra : Nat) (rest : Text) :
    shaft.stroke.past? (shaft.closing extra ++ rest) = some rest := by
  have harrow := run_replicate extra (c := '-') ('>' :: rest) (by simp)
  have hthick := run_replicate extra (c := '=') ('>' :: rest) (by simp)
  cases shaft <;>
    simp [stroke, closing, Stroke.past?, Text.after?, List.replicate_succ, harrow, hthick]

theorem space_not_mem_closing (extra : Nat) : ' ' ∉ shaft.closing extra := by
  cases shaft <;> simp [closing]

theorem closing_head (extra : Nat) :
    ∃ c rest, shaft.closing extra = c :: rest ∧ Text.isGap c = false := by
  cases shaft <;> exact ⟨_, _, rfl, by decide⟩

theorem exists_closing_of_past? {s rest : Text} (h : shaft.stroke.past? s = some rest) :
    ∃ extra, s = shaft.closing extra ++ rest := by
  obtain ⟨n, hleast, rfl⟩ := exists_run_of_past? h
  obtain ⟨extra, rfl⟩ := Nat.exists_eq_add_of_le hleast
  refine ⟨extra, ?_⟩
  cases shaft <;> simp [stroke, closing, Nat.add_comm]

end Shaft

theorem prefix_of_append_eq {c : Char} {s t u v : Text} (h : s ++ c :: t = u ++ v) (hc : c ∉ u) :
    u <+: s := by
  rcases List.append_eq_append_iff.1 h with ⟨w, rfl, hw⟩ | ⟨w, rfl, -⟩
  · cases w with
    | nil => simp
    | cons d w =>
        obtain ⟨rfl, -⟩ := List.cons.inj hw
        simp at hc
  · exact List.prefix_append u w

theorem Shaft.Spares.tail {shaft : Shaft} {c : Char} {label : Text} (h : shaft.Spares (c :: label)) :
    shaft.Spares label :=
  fun gap extra hgap hpart => h gap extra hgap (hpart.trans (List.suffix_cons c label).isInfix)

theorem pastSpaced?_of_spares {shaft : Shaft} {label : Text} (h : shaft.Spares label)
    (hne : label ≠ []) (hlast : ∀ c, label.getLast? = some c → Text.isGap c = false) (s : Text) :
    pastSpaced? shaft.stroke (label ++ ' ' :: s) = none := by
  obtain ⟨c, tail, rfl⟩ := List.exists_cons_of_ne_nil hne
  rw [List.cons_append, pastSpaced?]
  split
  · rename_i hgap
    rw [← List.cons_append, Option.eq_none_iff_forall_ne_some]
    intro rest hpast
    have hsplit := List.takeWhile_append_dropWhile (p := Text.isGap) (l := c :: tail)
    have hgaps : ∀ d ∈ (c :: tail).takeWhile Text.isGap, Text.isGap d = true :=
      fun d hd => List.all_eq_true.1 List.all_takeWhile d hd
    have hstart : (c :: tail).takeWhile Text.isGap ≠ [] := by simp [hgap]
    have hinner : ∀ d, ((c :: tail).dropWhile Text.isGap).head? = some d → Text.isGap d = false :=
      fun d hd => by simpa [hd] using List.head?_dropWhile_not Text.isGap (c :: tail)
    generalize (c :: tail).takeWhile Text.isGap = gaps at *
    generalize (c :: tail).dropWhile Text.isGap = inner at *
    obtain ⟨init, gap, rfl⟩ := List.eq_nil_or_concat gaps |>.resolve_left hstart
    rw [← hsplit] at h hlast hpast
    simp only [List.concat_eq_append] at h hlast hpast hgaps
    have hgap : Text.isGap gap = true := hgaps gap (by simp)
    have hinside : inner ≠ [] := by
      rintro rfl
      simp [hlast gap (by simp)] at hgap
    have hskip : Text.skipGaps (init ++ [gap] ++ inner ++ ' ' :: s) = inner ++ ' ' :: s := by
      rw [List.append_assoc]
      refine (Text.run_append hgaps fun d hd => hinner d ?_).2
      rwa [List.head?_append_of_ne_nil _ hinside] at hd
    rw [hskip] at hpast
    -- An arrow that ends here would have its closing behind a gap of the label, which spares that.
    obtain ⟨extra, heq⟩ := shaft.exists_closing_of_past? hpast
    obtain ⟨more, hmore⟩ := prefix_of_append_eq heq (shaft.space_not_mem_closing extra)
    exact h gap extra hgap ⟨init, more, by simp [← hmore]⟩
  · rfl

theorem labelBefore?_label {shaft : Shaft} {label : Text} (h : shaft.Spares label)
    (hne : label ≠ []) (hlast : ∀ c, label.getLast? = some c → Text.isGap c = false) (extra : Nat)
    (rest : Text) :
    labelBefore? shaft.stroke (label ++ ' ' :: (shaft.closing extra ++ rest)) =
      some (label, rest) := by
  induction label with
  | nil => exact absurd rfl hne
  | cons c label ih =>
      rw [List.cons_append, labelBefore?]
      cases label with
      | nil =>
          obtain ⟨d, tail, hclosing, hgap⟩ := shaft.closing_head extra
          have hpast : pastSpaced? shaft.stroke (' ' :: (shaft.closing extra ++ rest)) =
              some rest := by
            have hgaps : Text.skipGaps (' ' :: (shaft.closing extra ++ rest)) =
                shaft.closing extra ++ rest := by
              rw [hclosing]
              simp [Text.skipGaps, hgap, show Text.isGap ' ' = true from rfl]
            rw [pastSpaced?, if_pos (c := Text.isGap ' ' = true) rfl, hgaps, shaft.past?_closing]
          rw [List.nil_append, hpast]
      | cons d label =>
          have hpast := pastSpaced?_of_spares h.tail (List.cons_ne_nil d label)
            (fun e he => hlast e (by simpa using he)) (shaft.closing extra ++ rest)
          rw [hpast, ih h.tail (List.cons_ne_nil d label) fun e he => hlast e (by simpa using he)]
          rfl

namespace Shaft

theorem labelled?_inner (shaft : Shaft) (extra : Nat) {label : Text}
    (hplain : Unmarked labelMarks label) (h : shaft.Spares label) (rest : Text) :
    labelled? ((Tie.inner shaft extra label).text ++ rest) = some (⟨shaft.style, label⟩, rest) := by
  have hlast : ∀ c, label.getLast? = some c → Text.isGap c = false :=
    fun c hc => not_gap_of_not_blank (Text.not_blank_last_of_trim hplain.trimmed hc)
  have hfirst : ∀ c, (label ++ ' ' :: (shaft.closing extra ++ rest)).head? = some c →
      Text.isGap c = false := by
    intro c hc
    rw [List.head?_append_of_ne_nil _ hplain.nonempty] at hc
    exact not_gap_of_not_blank (Text.not_blank_head_of_trim hplain.trimmed hc)
  have hbefore := labelBefore?_label h hplain.nonempty hlast extra rest
  have hinner : innerLabel? shaft.opening shaft.stroke
      (shaft.opening ++ (' ' :: (label ++ ' ' :: (shaft.closing extra ++ rest)))) =
        some (label, rest) := by
    obtain ⟨htake, hdrop⟩ := Text.run_append (p := Text.isGap) (s := [' ']) (by simp [Text.isGap]) hfirst
    rw [List.singleton_append] at htake hdrop
    rw [innerLabel?, Text.after?_append]
    simp only [htake, Text.skipGaps, hdrop, hbefore]
    rfl
  have htext : (Tie.inner shaft extra label).text ++ rest =
      shaft.opening ++ (' ' :: (label ++ ' ' :: (shaft.closing extra ++ rest))) := by
    simp [Tie.text]
  have hothers : ∀ other : Shaft, other ≠ shaft → ∀ s,
      innerLabel? other.opening other.stroke (shaft.opening ++ s) = none := by
    intro other hne s
    have hopening : Text.after? other.opening (shaft.opening ++ s) = none := by
      cases shaft <;> cases other <;> first | exact absurd rfl hne | rfl
    rw [innerLabel?, hopening]
  have htable : labelledArrows = [arrow, thick, dotted].map fun other =>
      (other.style, other.opening, other.stroke) := rfl
  rw [htext, labelled?, htable]
  cases shaft <;> simp [hinner, hothers]

end Shaft

theorem Tie.exists_head (tie : Tie) :
    ∃ c rest, tie.text = c :: rest ∧ Text.isGap c = false ∧ c ≠ '%' ∧ c ≠ '&' := by
  cases tie with
  | plain rod extra label =>
      cases rod <;> exact ⟨_, _, rfl, by decide, by decide, by decide⟩
  | inner shaft extra label =>
      cases shaft <;> exact ⟨_, _, rfl, by decide, by decide, by decide⟩

theorem Tie.skipBlanks_text (tie : Tie) (s : Text) :
    skipBlanks (' ' :: tie.text ++ s) = tie.text ++ s := by
  obtain ⟨c, rest, htext, hgap, hpercent, -⟩ := tie.exists_head
  rw [List.cons_append, skipBlanks_space, htext, List.cons_append, skipBlanks_cons hgap hpercent]

theorem getD_barred {label : Option Text} (h : ∀ s ∈ label, Unmarked labelMarks s) :
    (label.map Tie.barred).getD [] = bars (label.getD []) ∧ '|' ∉ label.getD [] := by
  cases label with
  | none => exact ⟨rfl, List.not_mem_nil⟩
  | some s =>
      have hs := h s rfl
      refine ⟨?_, fun hmem => hs.bare '|' hmem (by decide)⟩
      simp [bars, Tie.barred, hs.nonempty]

theorem connector?_tie {tie : Tie} (h : tie.Regular) {c : Char} (hc : Text.isWord c = true)
    (s : Text) :
    connector? (' ' :: tie.text ++ ' ' :: c :: s) =
      .ok (some (⟨tie.style, tie.label.getD []⟩, ' ' :: c :: s)) := by
  rw [connector?, tie.skipBlanks_text]
  cases tie with
  | plain rod extra label =>
      obtain ⟨hbars, hbar⟩ := getD_barred h
      have htext : (Tie.plain rod extra label).text ++ ' ' :: c :: s =
          rod.text extra ++ (bars (label.getD []) ++ ' ' :: c :: s) := by
        rw [Tie.text, hbars, List.append_assoc]
      rw [htext]
      simp only [labelled?_rod, plain?_rod rod extra (follows_bars _ _),
        barLabel_bars hbar (no_bar hc s)]
      rfl
  | inner shaft extra label =>
      obtain ⟨hplain, hspares⟩ := h
      simp only [shaft.labelled?_inner extra hplain hspares]
      rfl

end Flowchart.Chart
