import Flowchart.Text

/-!
# Trimming, joining and taking apart

Texts whose ends are no blanks are left alone by trimming, and lines that were joined come apart
again.
-/

namespace Flowchart.Text

theorem ne_of_class {p : Char → Bool} {c d : Char} {b : Bool} (hc : p c = b) (hd : p d ≠ b) :
    c ≠ d :=
  fun heq => hd (heq ▸ hc)

/-- What holds along a text is decided along it, not over all characters. -/
instance decidableForallMem {p : Char → Prop} [DecidablePred p] {s : Text} :
    Decidable (∀ c ∈ s, p c) :=
  List.decidableBAll p s

theorem none_iff_all {p : Char → Bool} {s : Text} :
    (∀ c ∈ s, p c = false) ↔ (s.all fun c => !p c) = true := by
  simp

theorem none_of_all {p : Char → Bool} {s : Text} (h : (s.all fun c => !p c) = true) :
    ∀ c ∈ s, p c = false :=
  none_iff_all.2 h

theorem not_break_of_not_blank {c : Char} (h : isBlank c = false) : isBreak c = false := by
  cases hbreak : isBreak c with
  | false => rfl
  | true => exact absurd (isBlank_of_isBreak hbreak) (by simp [h])

/-! ## Runs -/

theorem run_of_ends {p : Char → Bool} {rest : Text} (h : ∀ c, rest.head? = some c → p c = false) :
    rest.takeWhile p = [] ∧ rest.dropWhile p = rest := by
  cases rest with
  | nil => exact ⟨rfl, rfl⟩
  | cons c rest => simp [h c rfl]

theorem run_append {p : Char → Bool} {s rest : Text} (hs : ∀ c ∈ s, p c = true)
    (hrest : ∀ c, rest.head? = some c → p c = false) :
    (s ++ rest).takeWhile p = s ∧ (s ++ rest).dropWhile p = rest := by
  obtain ⟨htake, hdrop⟩ := run_of_ends hrest
  rw [List.takeWhile_append_of_pos hs, List.dropWhile_append_of_pos hs, htake, hdrop,
    List.append_nil]
  exact ⟨rfl, rfl⟩

/-! ## Trimming -/

theorem trimLeft_cons {c : Char} (h : isBlank c = false) (s : Text) : trimLeft (c :: s) = c :: s := by
  simp [trimLeft, h]

theorem trimLeft_blanks_append {blanks : Text} (h : ∀ c ∈ blanks, isBlank c = true) (s : Text) :
    trimLeft (blanks ++ s) = trimLeft s := by
  induction blanks with
  | nil => rfl
  | cons c blanks ih =>
      have hc : isBlank c = true := h c List.mem_cons_self
      have hrest : trimLeft (blanks ++ s) = trimLeft s :=
        ih fun d hd => h d (List.mem_cons_of_mem _ hd)
      simpa [trimLeft, hc] using hrest

theorem trimRight_cons {c : Char} (h : isBlank c = false) (s : Text) :
    trimRight (c :: s) = c :: trimRight s := by
  rw [trimRight]
  cases trimRight s with
  | nil => simp [h]
  | cons d kept => rfl

theorem trimRight_append_cons {c : Char} (h : isBlank c = false) (s rest : Text) :
    trimRight (s ++ c :: rest) = s ++ c :: trimRight rest := by
  induction s with
  | nil => exact trimRight_cons h rest
  | cons d s ih => cases s <;> simp_all [trimRight]

theorem trimRight_append_singleton {c : Char} (h : isBlank c = false) (s : Text) :
    trimRight (s ++ [c]) = s ++ [c] := trimRight_append_cons h s []

theorem trim_eq_self {s : Text} (hfirst : ∀ c, s.head? = some c → isBlank c = false)
    (hlast : ∀ c, s.getLast? = some c → isBlank c = false) : trim s = s := by
  cases s with
  | nil => rfl
  | cons c s =>
      have hc : isBlank c = false := hfirst c rfl
      have hne : c :: s ≠ [] := List.cons_ne_nil c s
      have hend : isBlank ((c :: s).getLast hne) = false :=
        hlast _ (List.getLast?_eq_some_getLast hne)
      rw [trim, trimLeft_cons hc, ← List.dropLast_concat_getLast hne,
        trimRight_append_singleton hend]

theorem spaces_blank (n : Nat) : ∀ c ∈ spaces n, isBlank c = true := by
  intro c hc
  rw [List.eq_of_mem_replicate hc]
  decide

theorem trim_spaces_append (n : Nat) (s : Text) : trim (spaces n ++ s) = trim s := by
  rw [trim, trimLeft_blanks_append (spaces_blank n), trim]

theorem trim_cons {c : Char} (h : isBlank c = false) (s : Text) : trim (c :: s) = c :: trimRight s := by
  rw [trim, trimLeft_cons h, trimRight_cons h]

theorem length_trimRight_le (s : Text) : (trimRight s).length ≤ s.length := by
  induction s with
  | nil => simp [trimRight]
  | cons c s ih =>
      unfold trimRight
      split
      · split <;> simp
      · rename_i hne
        simpa using ih

theorem length_trimLeft_le (s : Text) : (trimLeft s).length ≤ s.length :=
  (List.dropWhile_sublist isBlank).length_le

theorem not_blank_head_of_trim {s : Text} (h : trim s = s) {c : Char} (hc : s.head? = some c) :
    isBlank c = false := by
  cases s with
  | nil => simp at hc
  | cons d s =>
      obtain rfl : d = c := by simpa using hc
      cases hd : isBlank d with
      | false => rfl
      | true =>
          have hlt : (trim (d :: s)).length < (d :: s).length := by
            have h₁ := length_trimRight_le (trimLeft s)
            have h₂ := length_trimLeft_le s
            have heq : trim (d :: s) = trimRight (trimLeft s) := by simp [trim, trimLeft, hd]
            rw [heq]
            simp only [List.length_cons]
            omega
          rw [h] at hlt
          omega

theorem not_blank_last_of_trimRight {s : Text} {c : Char} (hc : (trimRight s).getLast? = some c) :
    isBlank c = false := by
  induction s with
  | nil => simp [trimRight] at hc
  | cons d s ih =>
      cases hkept : trimRight s with
      | nil =>
          cases hd : isBlank d with
          | true => simp [trimRight, hkept, hd] at hc
          | false =>
              obtain rfl : d = c := by simpa [trimRight, hkept, hd] using hc
              exact hd
      | cons e kept =>
          apply ih
          simpa [trimRight, hkept] using hc

theorem not_blank_last_of_trim {s : Text} (h : trim s = s) {c : Char} (hc : s.getLast? = some c) :
    isBlank c = false := by
  rw [← h] at hc
  exact not_blank_last_of_trimRight hc

theorem exists_trimRight_append (s : Text) :
    ∃ after, s = trimRight s ++ after ∧ ∀ c ∈ after, isBlank c = true := by
  induction s with
  | nil => exact ⟨[], rfl, by simp⟩
  | cons c s ih =>
      obtain ⟨after, hs, hafter⟩ := ih
      cases hkept : trimRight s with
      | nil =>
          rw [hkept, List.nil_append] at hs
          subst hs
          cases hc : isBlank c with
          | true => exact ⟨c :: s, by simp [trimRight, hkept, hc], by simp [hc]; exact hafter⟩
          | false => exact ⟨s, by simp [trimRight, hkept, hc], hafter⟩
      | cons d kept =>
          refine ⟨after, ?_, hafter⟩
          have htrim : trimRight (c :: s) = c :: trimRight s := by simp [trimRight, hkept]
          rw [htrim, List.cons_append, ← hs]

theorem exists_trim (s : Text) :
    ∃ before after, s = before ++ (trim s ++ after) ∧ (∀ c ∈ before, isBlank c = true) ∧
      ∀ c ∈ after, isBlank c = true := by
  obtain ⟨after, hright, hafter⟩ := exists_trimRight_append (trimLeft s)
  refine ⟨s.takeWhile isBlank, after, ?_, fun c hc => ?_, hafter⟩
  · rw [trim, ← hright, trimLeft, List.takeWhile_append_dropWhile]
  · exact List.all_eq_true.1 List.all_takeWhile c hc

theorem trim_trim (s : Text) : trim (trim s) = trim s := by
  refine trim_eq_self (fun c hc => ?_) fun c hc => not_blank_last_of_trimRight hc
  obtain ⟨after, hright, -⟩ := exists_trimRight_append (trimLeft s)
  have hhead : (trimLeft s).head? = some c := by
    have hkept : (trimRight (trimLeft s)).head? = some c := hc
    rw [hright, List.head?_append, hkept, Option.some_or]
  have hnot := List.head?_dropWhile_not isBlank s
  rw [show s.dropWhile isBlank = trimLeft s from rfl, hhead] at hnot
  simpa using hnot

/-! ## Lines -/

theorem join_cons_cons (sep line next : Text) (rest : List Text) :
    join sep (line :: next :: rest) = line ++ sep ++ join sep (next :: rest) := by
  simp [join, List.intercalate, List.append_assoc]

theorem join_cons_of_ne_nil {rest : List Text} (h : rest ≠ []) (sep line : Text) :
    join sep (line :: rest) = line ++ sep ++ join sep rest := by
  obtain ⟨next, more, rfl⟩ := List.exists_cons_of_ne_nil h
  exact join_cons_cons sep line next more

theorem join_singleton (sep line : Text) : join sep [line] = line := by
  simp [join, List.intercalate]

theorem join_replicate_append {lines : List Text} (h : lines ≠ []) (sep : Char) (n : Nat) :
    join [sep] (List.replicate n [] ++ lines) = List.replicate n sep ++ join [sep] lines := by
  induction n with
  | zero => rfl
  | succ n ih =>
      rw [List.replicate_succ, List.cons_append, join_cons_of_ne_nil (by simp [h]), ih]
      rfl

theorem mem_join {c : Char} {sep : Text} {pieces : List Text} (h : c ∈ join sep pieces) :
    c ∈ sep ∨ ∃ piece ∈ pieces, c ∈ piece := by
  induction pieces with
  | nil => simp [join, List.intercalate] at h
  | cons piece pieces ih =>
      cases pieces with
      | nil => exact .inr ⟨piece, List.mem_cons_self, by rwa [join_singleton] at h⟩
      | cons next rest =>
          rw [join_cons_cons, List.mem_append, List.mem_append] at h
          rcases h with (h | h) | h
          · exact .inr ⟨piece, List.mem_cons_self, h⟩
          · exact .inl h
          · rcases ih h with h | ⟨other, hother, h⟩
            · exact .inl h
            · exact .inr ⟨other, List.mem_cons_of_mem _ hother, h⟩

theorem head?_join {sep piece : Text} (h : piece ≠ []) (rest : List Text) :
    (join sep (piece :: rest)).head? = piece.head? := by
  obtain ⟨c, s, rfl⟩ := List.exists_cons_of_ne_nil h
  cases rest with
  | nil => rw [join_singleton]
  | cons next rest => simp [join_cons_cons]

theorem getLast?_join {sep last : Text} (h : last ≠ []) (all : List Text) :
    (join sep (all ++ [last])).getLast? = last.getLast? := by
  induction all with
  | nil => rw [List.nil_append, join_singleton]
  | cons piece all ih =>
      obtain ⟨next, rest, hnext⟩ := List.exists_cons_of_ne_nil (show all ++ [last] ≠ [] by simp)
      have hsome : last.getLast?.isSome = true := by simpa using h
      rw [List.cons_append, hnext, join_cons_cons, List.getLast?_append, ← hnext, ih,
        Option.or_of_isSome hsome]

theorem lines_cons_of_not_break {c : Char} (hc : isBreak c = false) (s : Text) :
    lines (c :: s) =
      match lines s with
      | [] => [[c]]
      | line :: rest => (c :: line) :: rest := by
  have hreturn : c ≠ '\r' := ne_of_class hc (by decide)
  rw [lines.eq_3 c s fun _ heq _ => hreturn heq, hc]
  rfl

theorem lines_append_newline {line : Text} (h : ∀ c ∈ line, isBreak c = false) (rest : Text) :
    lines (line ++ '\n' :: rest) = line :: lines rest := by
  induction line with
  | nil => rfl
  | cons c line ih =>
      rw [List.cons_append, lines_cons_of_not_break (h c List.mem_cons_self),
        ih fun d hd => h d (List.mem_cons_of_mem _ hd)]

theorem lines_of_no_break {line : Text} (h : ∀ c ∈ line, isBreak c = false) (hne : line ≠ []) :
    lines line = [line] := by
  induction line with
  | nil => exact absurd rfl hne
  | cons c line ih =>
      rw [lines_cons_of_not_break (h c List.mem_cons_self)]
      cases line with
      | nil => rfl
      | cons d line =>
          rw [ih (fun e he => h e (List.mem_cons_of_mem _ he)) (List.cons_ne_nil d line)]

theorem lines_join {all : List Text} {last : Text}
    (h : ∀ line ∈ all ++ [last], ∀ c ∈ line, isBreak c = false) (hlast : last ≠ []) :
    lines (join ['\n'] (all ++ [last])) = all ++ [last] := by
  induction all with
  | nil =>
      rw [List.nil_append, join_singleton]
      exact lines_of_no_break (h last (by simp)) hlast
  | cons line all ih =>
      have hrest := ih fun other hother => h other (List.mem_cons_of_mem _ hother)
      obtain ⟨next, rest, hnext⟩ := List.exists_cons_of_ne_nil
        (show all ++ [last] ≠ [] by simp)
      rw [List.cons_append, hnext, join_cons_cons, List.append_assoc, List.singleton_append,
        lines_append_newline (h line (by simp)), ← hnext, hrest]

theorem lines_ne_nil {s : Text} (h : s ≠ []) : lines s ≠ [] := by
  unfold lines
  split
  · exact absurd rfl h
  · exact List.cons_ne_nil _ _
  · split
    · exact List.cons_ne_nil _ _
    · split <;> exact List.cons_ne_nil _ _

/-- Where the lines of a text stand in it: the first at its beginning, the others behind a break. -/
theorem lines_stand (s : Text) : ∀ {line rest}, lines s = line :: rest →
    line <+: s ∧ ∀ other ∈ rest, ∃ before c after, s = before ++ c :: after ∧ isBreak c = true ∧
      other <+: after := by
  -- Of the lines behind a break, the first begins right there and the others follow their own.
  have hbehind : ∀ {s : Text}, (∀ {line rest}, lines s = line :: rest →
      line <+: s ∧ ∀ other ∈ rest, ∃ before c after, s = before ++ c :: after ∧ isBreak c = true ∧
        other <+: after) →
      ∀ front c, isBreak c = true → ∀ other ∈ lines s, ∃ before d after,
        front ++ c :: s = before ++ d :: after ∧ isBreak d = true ∧ other <+: after := by
    intro s ih front c hc other hother
    obtain ⟨line, rest, hlines⟩ := List.exists_cons_of_ne_nil (List.ne_nil_of_mem hother)
    obtain ⟨hinitial, hrest⟩ := ih hlines
    rw [hlines] at hother
    rcases List.mem_cons.1 hother with rfl | hother
    · exact ⟨front, c, s, rfl, hc, hinitial⟩
    · obtain ⟨before, d, after, rfl, hd, hafter⟩ := hrest other hother
      exact ⟨front ++ c :: before, d, after, by simp, hd, hafter⟩
  induction s using lines.induct with
  | case1 => exact fun h => nomatch h
  | case2 s ih =>
      intro line rest h
      obtain ⟨rfl, rfl⟩ := List.cons.inj h
      exact ⟨List.nil_prefix, hbehind ih ['\r'] '\n' (by decide)⟩
  | case3 c s hreturn hc ih =>
      intro line rest h
      rw [lines.eq_3 c s hreturn, if_pos hc] at h
      obtain ⟨rfl, rfl⟩ := List.cons.inj h
      exact ⟨List.nil_prefix, hbehind ih [] c hc⟩
  | case4 c s hreturn hc hlines ih =>
      intro line rest h
      rw [lines_cons_of_not_break (by simpa using hc), hlines] at h
      obtain ⟨rfl, rfl⟩ := List.cons.inj h
      exact ⟨List.cons_prefix_cons.2 ⟨rfl, List.nil_prefix⟩, List.forall_mem_nil _⟩
  | case5 c s hreturn hc first more hlines ih =>
      intro line rest h
      rw [lines_cons_of_not_break (by simpa using hc), hlines] at h
      obtain ⟨rfl, rfl⟩ := List.cons.inj h
      obtain ⟨hinitial, hrest⟩ := ih hlines
      refine ⟨List.cons_prefix_cons.2 ⟨rfl, hinitial⟩, fun other hother => ?_⟩
      obtain ⟨before, d, after, rfl, hd, hafter⟩ := hrest other hother
      exact ⟨c :: before, d, after, rfl, hd, hafter⟩

theorem mem_lines_unbroken {s line : Text} (h : line ∈ lines s) :
    ∀ c ∈ line, isBreak c = false := by
  induction s using lines.induct generalizing line with
  | case1 => cases h
  | case2 s ih =>
      rcases List.mem_cons.1 h with rfl | h
      · exact List.forall_mem_nil _
      · exact ih h
  | case3 c s hreturn hc ih =>
      rw [lines.eq_3 c s hreturn, if_pos hc] at h
      rcases List.mem_cons.1 h with rfl | h
      · exact List.forall_mem_nil _
      · exact ih h
  | case4 c s hreturn hc hlines ih =>
      rw [lines_cons_of_not_break (by simpa using hc), hlines] at h
      rw [List.mem_singleton.1 h]
      exact List.forall_mem_singleton.2 (by simpa using hc)
  | case5 c s hreturn hc first more hlines ih =>
      rw [lines_cons_of_not_break (by simpa using hc), hlines] at h
      rw [hlines] at ih
      rcases List.mem_cons.1 h with rfl | h
      · exact List.forall_mem_cons.2 ⟨by simpa using hc, ih List.mem_cons_self⟩
      · exact ih (List.mem_cons_of_mem _ h)

theorem splitWhere_cons_of_not {p : Char → Bool} {c : Char} (h : p c = false) (s : Text) :
    splitWhere p (c :: s) =
      match splitWhere p s with
      | [] => [[c]]
      | piece :: pieces => (c :: piece) :: pieces := by
  rw [splitWhere, h]
  rfl

theorem splitWhere_of_none {p : Char → Bool} {s : Text} (h : ∀ c ∈ s, p c = false) :
    splitWhere p s = [s] := by
  induction s with
  | nil => rfl
  | cons c s ih =>
      rw [splitWhere_cons_of_not (h c List.mem_cons_self),
        ih fun d hd => h d (List.mem_cons_of_mem _ hd)]

theorem splitWhere_append_cons {p : Char → Bool} {s : Text} (h : ∀ c ∈ s, p c = false) {sep : Char}
    (hsep : p sep = true) (rest : Text) :
    splitWhere p (s ++ sep :: rest) = s :: splitWhere p rest := by
  induction s with
  | nil => simp [splitWhere, hsep]
  | cons c s ih =>
      rw [List.cons_append, splitWhere_cons_of_not (h c List.mem_cons_self),
        ih fun d hd => h d (List.mem_cons_of_mem _ hd)]

theorem split_join {sep : Char} {pieces : List Text} (hne : pieces ≠ [])
    (h : ∀ piece ∈ pieces, sep ∉ piece) : split sep (join [sep] pieces) = pieces := by
  have hclean : ∀ piece ∈ pieces, ∀ c ∈ piece, (c == sep) = false := by
    intro piece hpiece c hc
    rw [beq_eq_false_iff_ne]
    rintro rfl
    exact h piece hpiece hc
  induction pieces with
  | nil => exact absurd rfl hne
  | cons piece pieces ih =>
      cases pieces with
      | nil =>
          rw [join_singleton]
          exact splitWhere_of_none (hclean piece List.mem_cons_self)
      | cons next rest =>
          have hrest := ih (List.cons_ne_nil _ _)
            (fun other hother => h other (List.mem_cons_of_mem _ hother))
            (fun other hother => hclean other (List.mem_cons_of_mem _ hother))
          rw [join_cons_cons, List.append_assoc, List.singleton_append, split,
            splitWhere_append_cons (hclean piece List.mem_cons_self) (beq_self_eq_true sep)]
          exact congrArg _ hrest

theorem splitWhere_ne_nil (p : Char → Bool) (s : Text) : splitWhere p s ≠ [] := by
  cases s with
  | nil => simp [splitWhere]
  | cons c s =>
      unfold splitWhere
      split
      · simp
      · split <;> simp

theorem split_ne_nil (sep : Char) (s : Text) : split sep s ≠ [] := splitWhere_ne_nil _ s

theorem join_split (sep : Char) (s : Text) : join [sep] (split sep s) = s := by
  unfold split
  induction s with
  | nil => rfl
  | cons c s ih =>
      obtain ⟨piece, pieces, hpieces⟩ :=
        List.exists_cons_of_ne_nil (splitWhere_ne_nil (· == sep) s)
      unfold splitWhere
      rw [hpieces] at ih ⊢
      split
      · rename_i hsep
        rw [join_cons_cons, ih, eq_of_beq hsep]
        rfl
      · cases pieces with
        | nil =>
            rw [join_singleton] at ih ⊢
            rw [ih]
        | cons next rest =>
            rw [join_cons_cons] at ih ⊢
            rw [List.cons_append, List.cons_append, ih]

theorem splitWhere_append_sep {p : Char → Bool} {sep : Char} (hsep : p sep = true) (s rest : Text) :
    splitWhere p (s ++ sep :: rest) = splitWhere p s ++ splitWhere p rest := by
  induction s with
  | nil => simp [splitWhere, hsep]
  | cons c s ih =>
      obtain ⟨piece, pieces, hpieces⟩ := List.exists_cons_of_ne_nil (splitWhere_ne_nil p s)
      rw [List.cons_append, splitWhere, splitWhere, ih, hpieces]
      split <;> rfl

theorem splitWhere_cons_of_sep {p : Char → Bool} {c : Char} (h : p c = true) (s : Text) :
    splitWhere p (c :: s) = [] :: splitWhere p s := by
  rw [splitWhere, if_pos h]

theorem words_cons_blank {c : Char} (h : isBlank c = true) (s : Text) :
    words (c :: s) = words s := by
  rw [words, splitWhere_cons_of_sep h]
  rfl

theorem words_append_blank {c : Char} (h : isBlank c = true) (s rest : Text) :
    words (s ++ c :: rest) = words s ++ words rest := by
  rw [words, splitWhere_append_sep h, List.filter_append]
  rfl

theorem words_eq_singleton {s : Text} (hne : s ≠ []) (h : ∀ c ∈ s, isBlank c = false) :
    words s = [s] := by
  rw [words, splitWhere_of_none h]
  simp [hne]

theorem not_mem_of_mem_splitWhere {p : Char → Bool} {s piece : Text} (h : piece ∈ splitWhere p s) :
    ∀ c ∈ piece, p c = false := by
  induction s generalizing piece with
  | nil => simp_all [splitWhere]
  | cons d s ih =>
      cases hd : p d with
      | true =>
          rw [splitWhere_cons_of_sep hd] at h
          rcases List.mem_cons.1 h with rfl | h
          · exact List.forall_mem_nil _
          · exact ih h
      | false =>
          obtain ⟨first, pieces, hpieces⟩ := List.exists_cons_of_ne_nil (splitWhere_ne_nil p s)
          rw [splitWhere_cons_of_not hd, hpieces] at h
          rw [hpieces] at ih
          rcases List.mem_cons.1 h with rfl | h
          · exact List.forall_mem_cons.2 ⟨hd, ih List.mem_cons_self⟩
          · exact ih (List.mem_cons_of_mem first h)

theorem not_mem_of_mem_split {sep : Char} {s line : Text} (h : line ∈ split sep s) :
    sep ∉ line := by
  intro hmem
  simpa using not_mem_of_mem_splitWhere h sep hmem

theorem length_split (sep : Char) (s : Text) : (split sep s).length = s.count sep + 1 := by
  rw [split]
  induction s with
  | nil => rfl
  | cons c s ih =>
      by_cases hc : c = sep
      · subst hc
        rw [splitWhere_cons_of_sep (p := (· == c)) (beq_self_eq_true c), List.length_cons, ih,
          List.count_cons_self]
      · have hsep : (c == sep) = false := beq_eq_false_iff_ne.2 hc
        obtain ⟨first, pieces, hpieces⟩ :=
          List.exists_cons_of_ne_nil (splitWhere_ne_nil (· == sep) s)
        rw [hpieces] at ih
        rw [splitWhere_cons_of_not (p := (· == sep)) hsep, hpieces, List.count_cons_of_ne hc, ← ih]
        rfl

theorem flatMap_cons_eq {pieces : List Text} (hne : pieces ≠ []) (sep : Char) :
    pieces.flatMap (sep :: ·) = sep :: join [sep] pieces := by
  induction pieces with
  | nil => exact absurd rfl hne
  | cons piece pieces ih =>
      cases pieces with
      | nil => simp [join_singleton]
      | cons next rest =>
          rw [List.flatMap_cons, ih (List.cons_ne_nil next rest), join_cons_cons, List.append_assoc]
          rfl

theorem flatMap_split (sep : Char) (s : Text) : (split sep s).flatMap (sep :: ·) = sep :: s := by
  rw [flatMap_cons_eq (split_ne_nil sep s), join_split]

theorem split_join_eq {sep : Char} {lines : List Text} (hne : lines ≠ []) :
    split sep (join [sep] lines) = lines.flatMap (split sep) := by
  induction lines with
  | nil => exact absurd rfl hne
  | cons line lines ih =>
      cases lines with
      | nil => simp [join_singleton]
      | cons next rest =>
          have hparts := splitWhere_append_sep (p := (· == sep)) (beq_self_eq_true sep) line
            (join [sep] (next :: rest))
          rw [join_cons_cons, List.append_assoc, List.singleton_append, List.flatMap_cons,
            ← ih (List.cons_ne_nil next rest)]
          exact hparts

theorem mem_split_join {sep : Char} {lines : List Text} {line : Text} (h : line ∈ lines)
    (hline : sep ∉ line) : line ∈ split sep (join [sep] lines) := by
  rw [split_join_eq (List.ne_nil_of_mem h)]
  have hsplit : split sep line = [line] := splitWhere_of_none fun c hc => by
    rw [beq_eq_false_iff_ne]
    rintro rfl
    exact hline hc
  exact List.mem_flatMap.2 ⟨line, h, hsplit ▸ List.mem_cons_self⟩

end Flowchart.Text
