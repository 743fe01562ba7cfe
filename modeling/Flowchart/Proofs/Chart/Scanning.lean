import Flowchart.Proofs.Chart.Confined
import Flowchart.Proofs.Chart.Headings

/-!
# Line by line

A body that is read in one go says what its lines say, and where it is broken it is broken in the
same line.
-/

namespace Flowchart.Chart.Cursor

theorem endsStatement_eq {c : Char} (h : c ≠ '\n') : endsStatement c = isSeparator c := by
  rw [endsStatement, beq_eq_false_iff_ne.2 h, Bool.false_or]

theorem skipBlanks_terminator {c : Char} (h : c ∈ terminators) (s : Text) :
    skipBlanks (c :: s) = c :: s := by
  simp only [terminators, List.mem_cons, List.not_mem_nil, or_false] at h
  rcases h with rfl | rfl | rfl <;> rfl

def andThen (t : Text) (line : Line) : Except Halt (List Statement) :=
  match line.ending with
  | .broken fault => .error (halt fault t)
  | _ => (statements t).map (line.statements ++ ·)

theorem andThen_nil (t : Text) (ending : Ending) (h : ∀ fault, ending ≠ .broken fault) :
    andThen t { ending := ending } = statements t := by
  have hmap : (statements t).map (([] : List Statement) ++ ·) = statements t := by
    cases statements t <;> rfl
  cases ending with
  | broken fault => exact absurd rfl (h fault)
  | _ => exact hmap

theorem andThen_push (t : Text) (statement : Statement) (line : Line) :
    andThen t (line.push statement) = (andThen t line).map (statement :: ·) := by
  rw [andThen, andThen, Line.push]
  cases line.ending with
  | broken fault => rfl
  | _ => cases statements t <;> rfl

theorem statements_cons {s rest : Text} {c : Char} (h : skipBlanks s = c :: rest) :
    statements s =
      if endsStatement c then statements rest
      else if isSkipped (c :: rest) then statements (dropLine rest)
      else
        match afterEnd? (c :: rest) with
        | some after => statements (settle after)
        | none =>
          match read? (c :: rest) with
          | .error halt => .error halt
          | .ok none => statements (dropLine rest)
          | .ok (some (statement, after)) =>
            if after.length ≤ rest.length then (statements (settle after)).map (statement :: ·)
            else .ok [statement] := by
  rw [statements.eq_def]
  split
  · rename_i heq
    rw [h] at heq
    cases heq
  · rename_i d tail heq
    rw [h] at heq
    cases heq
    split
    · rfl
    · split
      · rfl
      · split <;> rename_i hend <;> generalize afterEnd? (c :: rest) = found at hend ⊢ <;>
          subst hend <;> rfl

theorem statements_of_blank {s : Text} (h : skipBlanks s = []) : statements s = .ok [] := by
  rw [statements.eq_def]
  split
  · rfl
  · rename_i heq
    rw [h] at heq
    cases heq

theorem statements_of_ends {s rest : Text} {c : Char} (h : skipBlanks s = c :: rest)
    (hc : endsStatement c = true) : statements s = statements rest := by
  rw [statements_cons h, if_pos hc]

theorem statements_feed (s : Text) : statements ('\n' :: s) = statements s :=
  statements_of_ends (skipBlanks_terminator (by decide) s) (by decide)

section Below

variable {t : Text} (ht : Below t)

include ht

theorem Below.statements_of_skipBlanks {s : Text} (h : skipBlanks s = t) :
    statements s = statements t := by
  cases t with
  | nil => rw [statements_of_blank h, statements_of_blank rfl]
  | cons c t =>
      obtain rfl := ht c rfl
      rw [statements_of_ends h (by decide), statements_feed]

theorem Below.settle_append_of_blank {s : Text} (hs : '\n' ∉ s) (h : Chart.skipBlanks s = []) :
    settle (s ++ t) = t := by
  rw [settle, ht.skipBlanks_append hs, h, List.nil_append]
  cases t with
  | nil => rfl
  | cons c t =>
      obtain rfl := ht c rfl
      rfl

section Statement

variable {s rest : Text} {c : Char} (hs : '\n' ∉ s) (h : Chart.skipBlanks s = c :: rest)

include hs h

theorem Below.skipBlanks_append_cons : skipBlanks (s ++ t) = c :: (rest ++ t) := by
  rw [ht.skipBlanks_append hs, h, List.cons_append]

theorem Below.statements_append_of_separator (hc : isSeparator c = true) (free : Bool) :
    statements (if free then s ++ t else settle (s ++ t)) = statements (rest ++ t) := by
  have hends : endsStatement c = true := by rw [endsStatement, hc, Bool.or_true]
  have hblanks := ht.skipBlanks_append_cons hs h
  cases free with
  | true => exact statements_of_ends hblanks hends
  | false =>
      have hsettle : settle (s ++ t) = c :: (rest ++ t) := by
        rw [settle, hblanks]
        exact if_pos hends
      rw [if_neg Bool.false_ne_true, hsettle]
      exact statements_of_ends (skipBlanks_terminator (mem_terminators_of_separator hc) _) hends

theorem Below.settle_append_of_trailing (hc : ¬ isSeparator c = true) : settle (s ++ t) = t := by
  have hline : '\n' ∉ c :: rest := not_mem_of_suffix hs (h ▸ suffix_skipBlanks s)
  have hends : ¬ endsStatement c = true := by
    rwa [endsStatement_eq fun heq => hline (heq ▸ List.mem_cons_self)]
  rw [settle, ht.skipBlanks_append_cons hs h, ← List.cons_append, ht.dropLine_append hline]
  exact if_neg hends

theorem Below.statements_append_of_begun (hc : ¬ isSeparator c = true) {free : Bool}
    (hfree : ¬ (!free) = true) :
    statements (if free then s ++ t else settle (s ++ t)) =
      if isSkipped (c :: rest) then statements t
      else
        match afterEnd? (c :: rest) with
        | some after => statements (settle (after ++ t))
        | none =>
          match Statement.read? (c :: rest) with
          | .error fault => .error (halt fault t)
          | .ok none => statements t
          | .ok (some (statement, after)) =>
            (statements (settle (after ++ t))).map (statement :: ·) := by
  have hline : '\n' ∉ c :: rest := not_mem_of_suffix hs (h ▸ suffix_skipBlanks s)
  have hrest : '\n' ∉ rest := not_mem_of_suffix hline (List.suffix_cons c rest)
  have hends : ¬ endsStatement c = true := by
    rwa [endsStatement_eq fun heq => hline (heq ▸ List.mem_cons_self)]
  have hfree : free = true := by simpa using hfree
  rw [if_pos hfree, statements_cons (ht.skipBlanks_append_cons hs h), if_neg hends,
    ht.dropLine_append hrest, ← List.cons_append, ht.detached.isSkipped_append,
    ht.detached.afterEnd?_append, ht.read?_append hline]
  split
  · rfl
  · cases afterEnd? (c :: rest) with
    | some after => rfl
    | none =>
        cases hread : Statement.read? (c :: rest) with
        | error fault => rfl
        | ok found =>
            cases found with
            | none => rfl
            | some found =>
                -- Every statement takes something away, so the scan goes on behind it.
                have hshorter : (found.2 ++ t).length ≤ (rest ++ t).length := by
                  have := Statement.length_of_read? hread
                  simp only [List.length_append, List.length_cons] at *
                  omega
                simp only [Option.map_none, carried, Option.map_some, behind, if_pos hshorter]

end Statement

/-- Where the reader stands on a line, the lines below make no difference to it. -/
theorem Below.statements_append (free : Bool) {s : Text} (hs : '\n' ∉ s) :
    statements (if free then s ++ t else settle (s ++ t)) = andThen t (Line.readFrom free s) := by
  -- The cases are those of the reader of a line; the one of the whole text takes the same way.
  fun_induction Line.readFrom free s with
  | case1 free s hblank =>
    rw [andThen_nil t _ (by simp)]
    cases free with
    | true =>
        have hblanks : skipBlanks (s ++ t) = t := by
          rw [ht.skipBlanks_append hs, hblank, List.nil_append]
        exact ht.statements_of_skipBlanks hblanks
    | false => rw [if_neg Bool.false_ne_true, ht.settle_append_of_blank hs hblank]
  | case2 free s c rest hblanks hc ih =>
    have hrest : '\n' ∉ rest :=
      not_mem_of_suffix hs ((List.suffix_cons c rest).trans (hblanks ▸ suffix_skipBlanks s))
    rw [ht.statements_append_of_separator hs hblanks hc, ← ih hrest]
    rfl
  | case3 free s c rest hblanks hc hfree =>
    rw [Bool.not_eq_true'] at hfree
    rw [hfree, if_neg Bool.false_ne_true, ht.settle_append_of_trailing hs hblanks hc,
      andThen_nil t _ (by simp)]
  | case4 free s c rest hblanks hc hfree hskipped =>
    rw [ht.statements_append_of_begun hs hblanks hc hfree, if_pos hskipped,
      andThen_nil t _ (by simp)]
  | case5 free s c rest hblanks hc hfree hskipped after hafter ih =>
    have hmore : '\n' ∉ after := not_mem_of_suffix hs
      ((suffix_of_after? (Option.filter_eq_some_iff.1 hafter).1).trans
        (hblanks ▸ suffix_skipBlanks s))
    rw [ht.statements_append_of_begun hs hblanks hc hfree, if_neg hskipped, hafter]
    exact ih hmore
  | case6 free s c rest hblanks hc hfree hskipped hnone fault hfault =>
    rw [ht.statements_append_of_begun hs hblanks hc hfree, if_neg hskipped, hnone, hfault]
    rfl
  | case7 free s c rest hblanks hc hfree hskipped hnone hstatement =>
    rw [ht.statements_append_of_begun hs hblanks hc hfree, if_neg hskipped, hnone,
      hstatement, andThen_nil t _ (by simp)]
  | case8 free s c rest hblanks hc hfree hskipped hnone statement after hstatement ih =>
    have hmore : '\n' ∉ after := not_mem_of_suffix hs
      ((Statement.suffix_of_read? hstatement).trans (hblanks ▸ suffix_skipBlanks s))
    rw [ht.statements_append_of_begun hs hblanks hc hfree, if_neg hskipped, hnone,
      hstatement, andThen_push, ← ih hmore]
    rfl

end Below

def feedLines (lines : List Text) : Text := lines.flatMap ('\n' :: ·)

theorem feedLines_cons (line : Text) (lines : List Text) :
    feedLines (line :: lines) = '\n' :: (line ++ feedLines lines) := rfl

theorem below_feedLines (lines : List Text) : Below (feedLines lines) := by
  cases lines with
  | nil => exact below_nil
  | cons line lines => exact below_feed _

theorem newlines_feedLines {lines : List Text} (h : ∀ line ∈ lines, '\n' ∉ line) :
    Text.newlines (feedLines lines) = lines.length := by
  induction lines with
  | nil => rfl
  | cons line lines ih =>
      obtain ⟨hline, hlines⟩ := List.forall_mem_cons.1 h
      rw [Text.newlines] at ih ⊢
      rw [feedLines_cons, List.count_cons_self, List.count_append,
        List.count_eq_zero_of_not_mem hline, ih hlines, Nat.zero_add, List.length_cons]

theorem statements_feedLines {lines : List Text} (h : ∀ line ∈ lines, '\n' ∉ line) (number : Nat) :
    (statements (feedLines lines)).mapError (Halt.lineFault (number + lines.length - 1)) =
      statementsOf number lines := by
  -- The number of the first line and the number of lines below it always come to the same sum.
  induction lines generalizing number with
  | nil =>
      rw [feedLines, List.flatMap_nil, statements_of_blank rfl]
      rfl
  | cons line lines ih =>
      obtain ⟨hline, hlines⟩ := List.forall_mem_cons.1 h
      have hread : statements (line ++ feedLines lines) =
          andThen (feedLines lines) (Line.read line) :=
        (below_feedLines lines).statements_append true hline
      have htotal : number + (line :: lines).length - 1 = number + 1 + lines.length - 1 := by
        rw [List.length_cons]
        omega
      have hahead : number + 1 + lines.length - 1 - lines.length = number := by omega
      rw [feedLines_cons, statements_feed, hread, andThen, statementsOf, htotal, ← ih hlines]
      cases (Line.read line).ending with
      | broken fault =>
          dsimp only
          rw [Except.mapError, Halt.lineFault, halt, newlines_feedLines hlines, hahead]
      | _ => cases statements (feedLines lines) <;> rfl

theorem skipLines_eq (s : Text) :
    skipLines s =
      let rest := s.dropWhile fun c => Text.isGap c || c == '\r' || c == '\n'
      match Text.after? "%%".toList rest with
      | none => rest
      | some comment => skipLines (dropLine comment) := by
  rw [skipLines.eq_def]
  dsimp only
  split <;> rename_i hcomment <;> rw [hcomment]

theorem skipLines_nil : skipLines [] = [] := by
  rw [skipLines_eq]
  rfl

theorem skipLines_feed (s : Text) : skipLines ('\n' :: s) = skipLines s := by
  rw [skipLines_eq, skipLines_eq s]
  rfl

theorem Below.skipLines_append {s t : Text} (ht : Below t) (hs : '\n' ∉ s) :
    skipLines (s ++ t) =
      if skipHeaderGaps s = [] then skipLines t else skipHeaderGaps s ++ t := by
  have hgaps : s.dropWhile (fun c => Text.isGap c || c == '\r' || c == '\n') =
      s.dropWhile fun c => Text.isGap c || c == '\r' :=
    Text.dropWhile_congr fun c hc => by
      rw [beq_eq_false_iff_ne.2 (ne_of_mem_of_not_mem hc hs), Bool.or_false]
  rw [skipLines_eq, skipHeaderGaps]
  cases hrest : s.dropWhile fun c => Text.isGap c || c == '\r' with
  | nil =>
      rw [List.dropWhile_append, hgaps, hrest, skipLines_eq t]
      rfl
  | cons c rest =>
      rw [hrest] at hgaps
      rw [(Text.run_append_of_cons hgaps t).2, ← List.cons_append]
      dsimp only
      rw [ht.detached.after?_append (by decide), Text.startsWith]
      cases hcomment : Text.after? "%%".toList (c :: rest) with
      | none => rfl
      | some comment =>
          have hfeed : '\n' ∉ comment := not_mem_of_suffix hs
            ((suffix_of_after? hcomment).trans (hrest ▸ List.dropWhile_suffix _))
          simp only [Option.map_some, ht.dropLine_append hfeed]
          rfl

theorem splitHeader?_feedLines {lines : List Text} (h : ∀ line ∈ lines, '\n' ∉ line) :
    splitHeader? (feedLines lines) =
      (Chart.splitHeader? lines).map fun found => (found.1, feedLines found.2) := by
  induction lines with
  | nil =>
      rw [feedLines, List.flatMap_nil, splitHeader?, skipLines_nil]
      rfl
  | cons line lines ih =>
      obtain ⟨hline, hlines⟩ := List.forall_mem_cons.1 h
      have hbelow := below_feedLines lines
      have hskip := hbelow.skipLines_append hline
      rw [splitHeader?, feedLines_cons, skipLines_feed, hskip]
      by_cases hgaps : skipHeaderGaps line = []
      · rw [if_pos hgaps, splitHeader?_of_blank hgaps, ← ih hlines, splitHeader?]
      · have hfeed := not_mem_of_suffix hline (suffix_skipHeaderGaps line)
        rw [if_neg hgaps, splitHeader?_of_ne hgaps, hbelow.detached.header?_append,
          hbelow.dropLine_append hfeed, Option.map_map]
        rfl

theorem splitHeader?_eq (body : Text) :
    splitHeader? body =
      (Chart.splitHeader? (Text.split '\n' body)).map fun found =>
        (found.1, feedLines found.2) := by
  have hlines : ∀ line ∈ Text.split '\n' body, '\n' ∉ line := fun _ => Text.not_mem_of_mem_split
  rw [← splitHeader?_feedLines hlines, feedLines, Text.flatMap_split, splitHeader?, splitHeader?,
    skipLines_feed]

end Flowchart.Chart.Cursor

namespace Flowchart.Chart

/-- Both ways of reading a body come to the same. -/
theorem Sheet.scan_eq_read (body : Text) : scan body = read body := by
  have hlines : ∀ line ∈ Text.split '\n' body, '\n' ∉ line := fun _ => Text.not_mem_of_mem_split
  have hbody : Cursor.feedLines (Text.split '\n' body) = '\n' :: body :=
    Text.flatMap_split '\n' body
  have htotal : Text.newlines body + 1 = (Text.split '\n' body).length :=
    (Text.length_split '\n' body).symm
  rw [scan, read, layout, Cursor.splitHeader?_eq, htotal]
  cases hfound : splitHeader? (Text.split '\n' body) with
  | none =>
      have hstatements := Cursor.statements_feedLines hlines 1
      rw [hbody, Cursor.statements_feed, Nat.add_sub_cancel_left] at hstatements
      simp only [Option.map_none, Option.getD_none, hstatements]
  | some found =>
      have hsuffix := suffix_of_splitHeader? hfound
      have hstatements := Cursor.statements_feedLines (fun line hline =>
        hlines line (hsuffix.subset hline)) ((Text.split '\n' body).length - found.2.length + 1)
      have hnumber : (Text.split '\n' body).length - found.2.length + 1 + found.2.length - 1 =
          (Text.split '\n' body).length := by
        have := hsuffix.length_le
        omega
      rw [hnumber] at hstatements
      simp only [Option.map_some, Option.getD_some, hstatements]

end Flowchart.Chart
