import Flowchart.Proofs.Chart.Persistence
import Flowchart.Proofs.Chart.Remainder
import Mathlib.Data.List.TakeWhile

/-!
# Separators at the end

Separators close no quote, bracket or bar, and begin no stroke.  So what is read from a text is
read from it with separators behind it, and what is not found there is not found in them either.
-/

namespace Flowchart.Chart

def Idle (u : Text) : Prop := ∀ c ∈ u, c ∈ terminators

theorem Idle.detached {u : Text} (hu : Idle u) : Detached u :=
  fun c hc => hu c (List.mem_of_head? hc)

theorem quotedText_of_not_mem {quote : Char} {s : Text} (h : quote ∉ s) :
    quotedText quote s = .error .unclosedQuote := by
  induction s with
  | nil => rfl
  | cons c s ih =>
      rw [List.mem_cons, not_or] at h
      rw [quotedText, if_neg (Ne.symm h.1), ih h.2]

section Idle

variable {u : Text} (hu : Idle u)

include hu

theorem Idle.not_mem {c : Char} (hc : c ∉ terminators) : c ∉ u := fun hmem => hc (hu c hmem)

theorem Idle.after?_eq_none {p : Text} (hne : p ≠ []) (hp : ∀ c ∈ p, c ∉ terminators) :
    Text.after? p u = none := by
  obtain ⟨c, p, rfl⟩ := List.exists_cons_of_ne_nil hne
  exact hu.detached.after?_append hp []

theorem Idle.quotedText_append {quote : Char} (hquote : quote ∉ terminators) (s : Text) :
    quotedText quote (s ++ u) = (quotedText quote s).map (behind u) := by
  induction s with
  | nil =>
      rw [List.nil_append, quotedText_of_not_mem (hu.not_mem hquote)]
      rfl
  | cons c s ih =>
      rw [List.cons_append, quotedText, quotedText, ih]
      split
      · rfl
      · cases quotedText quote s <;> rfl

theorem Idle.bracketText?_eq_none {opener : Option Char} {closer : Text} (hne : closer ≠ [])
    (hcloser : ∀ c ∈ closer, c ∉ terminators) (depth : Nat) :
    bracketText? opener closer depth u = none := by
  induction u generalizing depth with
  | nil => rfl
  | cons c u ih =>
      have hopen : (if depth = 0 then Text.after? closer (c :: u) else none) = none := by
        rw [hu.after?_eq_none hne hcloser, ite_self]
      rw [bracketText?, hopen, ih fun d hd => hu d (List.mem_cons_of_mem c hd)]
      rfl

theorem Idle.bracketText?_append {opener : Option Char} {closer : Text} (hne : closer ≠ [])
    (hcloser : ∀ c ∈ closer, c ∉ terminators) (depth : Nat) (s : Text) :
    bracketText? opener closer depth (s ++ u) =
      (bracketText? opener closer depth s).map (behind u) := by
  induction s generalizing depth with
  | nil => rw [List.nil_append, hu.bracketText?_eq_none hne hcloser]; rfl
  | cons c s ih =>
      have hafter : (if depth = 0 then Text.after? closer (c :: (s ++ u)) else none) =
          (if depth = 0 then Text.after? closer (c :: s) else none).map (· ++ u) := by
        rw [← List.cons_append, hu.detached.after?_append hcloser]
        split <;> rfl
      rw [List.cons_append, bracketText?, bracketText?, hafter, ih]
      cases (if depth = 0 then Text.after? closer (c :: s) else none) with
      | some rest => rfl
      | none =>
          cases bracketText? opener closer (deepen opener (closer.headD ' ') depth c) s <;> rfl

theorem Idle.skipBlanks_append {s : Text} (h : skipBlanks s = []) :
    Idle (skipBlanks (s ++ u)) := by
  rw [hu.detached.skipBlanks_append, h, List.nil_append]
  split
  · exact List.forall_mem_nil _
  · exact hu

theorem Idle.shapeText_append {node closer : Text} (hne : closer ≠ [])
    (hcloser : ∀ c ∈ closer, c ∉ terminators) (s : Text) :
    shapeText node closer (s ++ u) = (shapeText node closer s).map (behind u) := by
  -- If only blanks are left of `s`, the text would have to stand in what is idle.
  cases hblanks : skipBlanks s with
  | nil =>
      have hidle := hu.skipBlanks_append hblanks
      rw [shapeText, shapeText, hblanks]
      cases hmore : skipBlanks (s ++ u) with
      | nil => rfl
      | cons c rest =>
          rw [hmore] at hidle
          have hquote : ¬ (c = '"' ∨ c = '\'') := by
            rintro (rfl | rfl) <;> exact absurd (hidle _ List.mem_cons_self) (by decide)
          dsimp only
          rw [if_neg hquote, hidle.bracketText?_eq_none hne hcloser]
          rfl
  | cons c inside =>
      rw [shapeText, shapeText, hu.detached.skipBlanks_append_of_ne (by simp [hblanks]), hblanks,
        List.cons_append]
      dsimp only
      split
      · rename_i hquote
        have hplain : c ∉ terminators := by rcases hquote with rfl | rfl <;> decide
        rw [hu.quotedText_append hplain]
        cases quotedText c inside with
        | error fault => rfl
        | ok r =>
            simp only [Except.map, behind]
            rw [hu.detached.after?_skipBlanks_append hne hcloser]
            cases Text.after? closer (skipBlanks r.2) <;> rfl
      · rw [← List.cons_append, hu.bracketText?_append hne hcloser]
        cases bracketText? (nesting? (closer.headD ' ')) closer 0 (c :: inside) <;> rfl

theorem Idle.shaped_append (id s : Text) :
    shaped id (s ++ u) = (shaped id s).map (behind u) := by
  have hclosers : ∀ shape : Shape, shape.closer ≠ [] ∧ ∀ c ∈ shape.closer, c ∉ terminators := by
    intro shape
    cases shape <;> decide
  rw [shaped, shaped, hu.detached.findShape_append]
  cases Shape.all.findSome? fun shape => (Text.after? shape.opener s).map (shape, ·) with
  | none => rfl
  | some found =>
      obtain ⟨shape, inside⟩ := found
      simp only [Option.map_some, behind]
      rw [hu.shapeText_append (hclosers shape).1 (hclosers shape).2]
      cases shapeText id shape.closer inside with
      | error fault => rfl
      | ok r =>
          simp only [Except.map, behind]
          cases decode r.1 <;> rfl

theorem Idle.mention?_append (s : Text) :
    mention? (s ++ u) = (mention? s).map (Option.map (behind u)) := by
  cases hmention : mention? s with
  | ok found =>
      cases found with
      | none => exact hu.detached.mention?_append_of_none hmention
      | some found => exact hu.detached.mention?_append hmention
  | error fault =>
      unfold mention? at hmention
      split at hmention
      · cases hmention
      · rename_i c inside hblanks
        rw [mention?, hu.detached.skipBlanks_append_of_ne (by simp [hblanks]), hblanks,
          List.cons_append]
        dsimp only
        split at hmention
        · rw [if_pos ‹_›, ← List.cons_append, hu.detached.nodeId_append, behind]
          dsimp only
          rw [hu.shaped_append]
          split at hmention
          · rename_i hshaped
            rw [hshaped]
            exact hmention
          · cases hmention
        · cases hmention

end Idle

theorem moreMentions_eq (s : Text) :
    moreMentions s =
      match Text.after? ['&'] (skipBlanks s) with
      | none => .ok ([], s)
      | some rest =>
        match mention? rest with
        | .error fault => .error fault
        | .ok none => .ok ([], s)
        | .ok (some (mention, after)) =>
          (moreMentions after).map fun r => (mention :: r.1, r.2) := by
  rw [moreMentions.eq_def]
  split
  · rename_i hand
    rw [hand]
  · rename_i rest hand
    rw [hand]
    dsimp only
    split <;> rename_i hmention <;> rw [hmention]
    rename_i after
    dsimp only
    cases moreMentions after <;> rfl

section Idle

variable {u : Text} (hu : Idle u)

include hu

theorem Idle.moreMentions_append (s : Text) :
    moreMentions (s ++ u) = (moreMentions s).map (behind u) := by
  have hand := hu.detached.after?_skipBlanks_append (List.cons_ne_nil '&' []) (by decide)
  fun_induction moreMentions s with
  | case1 s hnone =>
    rw [moreMentions_eq, hand, hnone]
    rfl
  | case2 s inside hsome fault hmention =>
    simp only [moreMentions_eq (s ++ u), hand, hsome, Option.map_some, hu.mention?_append, hmention]
    rfl
  | case3 s inside hsome hmention =>
    simp only [moreMentions_eq (s ++ u), hand, hsome, Option.map_some, hu.mention?_append, hmention]
    rfl
  | case4 s inside hsome mention after hmention fault hmore ih =>
    simp only [moreMentions_eq (s ++ u), hand, hsome, Option.map_some, hu.mention?_append, hmention,
      Except.map, behind, ih, hmore]
  | case5 s inside hsome mention after hmention mentions last hmore ih =>
    simp only [moreMentions_eq (s ++ u), hand, hsome, Option.map_some, hu.mention?_append, hmention,
      Except.map, behind, ih, hmore]

theorem Idle.group?_append (s : Text) :
    group? (s ++ u) = (group? s).map (Option.map (behind u)) := by
  rw [group?, group?, hu.mention?_append]
  cases mention? s with
  | error fault => rfl
  | ok found =>
      cases found with
      | none => rfl
      | some found =>
          simp only [Except.map, Option.map_some, behind]
          rw [hu.moreMentions_append]
          cases moreMentions found.2 <;> rfl

theorem Idle.labelBefore?_eq_none {stroke : Stroke} : labelBefore? stroke u = none := by
  induction u with
  | nil => rfl
  | cons c u ih =>
      have hmore : Idle u := fun d hd => hu d (List.mem_cons_of_mem c hd)
      have hpast : pastSpaced? stroke u = none := by
        cases u with
        | nil => rfl
        | cons d u => simp [pastSpaced?, hmore.detached.fails (p := Text.isGap) (by decide) rfl]
      rw [labelBefore?, hpast, ih hmore]
      rfl

theorem Idle.labelBefore?_append {stroke : Stroke} (hstroke : ∀ c ∈ stroke.chars, c ∉ terminators)
    (s : Text) : labelBefore? stroke (s ++ u) = (labelBefore? stroke s).map (behind u) := by
  induction s with
  | nil => exact hu.labelBefore?_eq_none
  | cons c s ih =>
      rw [List.cons_append, labelBefore?, labelBefore?, hu.detached.pastSpaced?_append hstroke, ih]
      cases pastSpaced? stroke s with
      | some rest => rfl
      | none => cases labelBefore? stroke s <;> rfl

theorem Idle.innerLabel?_append {start : Text} {stroke : Stroke}
    (hstart : ∀ c ∈ start, c ∉ terminators) (hstroke : ∀ c ∈ stroke.chars, c ∉ terminators)
    (s : Text) :
    innerLabel? start stroke (s ++ u) = (innerLabel? start stroke s).map (behind u) := by
  have hgaps : ∀ c, u.head? = some c → Text.isGap c = false :=
    fun _ => hu.detached.fails (by decide)
  rw [innerLabel?, innerLabel?, hu.detached.after?_append hstart]
  cases Text.after? start s with
  | none => rfl
  | some inside =>
      simp only [Option.map_some, Text.takeWhile_append_of_head hgaps, hu.detached.skipGaps_append,
        hu.labelBefore?_append hstroke, hu.detached.past?_append hstroke]
      split
      · rfl
      · cases labelBefore? stroke (Text.skipGaps inside) with
        | some r => rfl
        | none =>
            simp only [Option.map_none]
            split
            · cases stroke.past? (Text.skipGaps inside) <;> rfl
            · rfl

theorem Idle.labelled?_append (s : Text) : labelled? (s ++ u) = (labelled? s).map (behind u) := by
  refine findSome?_behind fun arrow harrow => ?_
  obtain ⟨hstart, hstroke⟩ := (by decide : ∀ arrow ∈ labelledArrows,
    (∀ c ∈ arrow.2.1, c ∉ terminators) ∧ ∀ c ∈ arrow.2.2.chars, c ∉ terminators) arrow harrow
  rw [hu.innerLabel?_append hstart hstroke, Option.map_map, Option.map_map]
  rfl

theorem Idle.barLabel_append (s : Text) : barLabel (s ++ u) = (barLabel s).map (behind u) := by
  cases hbar : barLabel s with
  | ok r => exact hu.detached.barLabel_append hbar
  | error fault =>
      have hnobar : ∀ c ∈ u, (c != '|') = true := by
        intro c hc
        rw [bne_iff_ne]
        rintro rfl
        exact hu.not_mem (by decide) hc
      unfold barLabel at hbar
      split at hbar
      · cases hbar
      · rename_i inside hinside
        split at hbar
        · rename_i hend
          have hmore : (inside ++ u).dropWhile (· != '|') = [] := by
            rw [List.dropWhile_append, hend]
            exact List.dropWhile_eq_nil_iff.2 hnobar
          rw [barLabel, hu.detached.after?_skipBlanks_append (List.cons_ne_nil '|' []) (by decide),
            hinside]
          simp only [Option.map_some, hmore]
          rfl
        · cases hbar

theorem Idle.connector?_eq_none {s : Text} (h : skipBlanks s = u) : connector? s = .ok none := by
  have hlabelled : labelled? u = none := hu.labelled?_append []
  have hplain : plain? u = none := hu.detached.plain?_append []
  rw [connector?, h, hlabelled, hplain]

theorem Idle.connector?_append (s : Text) :
    connector? (s ++ u) = (connector? s).map (Option.map (behind u)) := by
  by_cases hblanks : skipBlanks s = []
  · rw [(hu.skipBlanks_append hblanks).connector?_eq_none rfl,
      Idle.connector?_eq_none (List.forall_mem_nil _) hblanks]
    rfl
  · rw [connector?, connector?, hu.detached.skipBlanks_append_of_ne hblanks, hu.labelled?_append,
      hu.detached.plain?_append]
    cases labelled? (skipBlanks s) with
    | some r => rfl
    | none =>
        cases plain? (skipBlanks s) with
        | none => rfl
        | some r =>
            simp only [Option.map_none, Option.map_some, behind]
            rw [hu.barLabel_append]
            cases barLabel r.2 <;> rfl

end Idle

theorem connections_eq (s : Text) :
    connections s =
      match connector? s with
      | .error _ => .error .unclosedLabel
      | .ok none => .ok ([], s)
      | .ok (some (connector, rest)) =>
        match group? rest with
        | .error fault => .error fault
        | .ok none => .ok ([], s)
        | .ok (some (targets, after)) =>
          (connections after).map fun r => ((connector, targets) :: r.1, r.2) := by
  rw [connections.eq_def]
  split <;> rename_i hconnector <;> rw [hconnector]
  rename_i rest
  dsimp only
  split <;> rename_i hgroup <;> rw [hgroup]
  rename_i after
  dsimp only
  cases connections after <;> rfl

section Idle

variable {u : Text} (hu : Idle u)

include hu

theorem Idle.connections_append (s : Text) :
    connections (s ++ u) = (connections s).map (behind u) := by
  fun_induction connections s with
  | case1 s fault hconnector =>
    simp only [connections_eq (s ++ u), hu.connector?_append, hconnector, Except.map]
  | case2 s hconnector =>
    simp only [connections_eq (s ++ u), hu.connector?_append, hconnector, Except.map,
      Option.map_none, behind]
  | case3 s connector inside hconnector fault hgroup =>
    simp only [connections_eq (s ++ u), hu.connector?_append, hconnector, Except.map,
      Option.map_some, behind, hu.group?_append, hgroup]
  | case4 s connector inside hconnector hgroup =>
    simp only [connections_eq (s ++ u), hu.connector?_append, hconnector, Except.map,
      Option.map_some, Option.map_none, behind, hu.group?_append, hgroup]
  | case5 s connector inside hconnector targets after hgroup fault hmore ih =>
    simp only [connections_eq (s ++ u), hu.connector?_append, hconnector, Except.map,
      Option.map_some, behind, hu.group?_append, hgroup, ih, hmore]
  | case6 s connector inside hconnector targets after hgroup more last hmore ih =>
    simp only [connections_eq (s ++ u), hu.connector?_append, hconnector, Except.map,
      Option.map_some, behind, hu.group?_append, hgroup, ih, hmore]

theorem Idle.read?_append (s : Text) :
    Statement.read? (s ++ u) = (Statement.read? s).map (Option.map (behind u)) := by
  rw [Statement.read?, Statement.read?, hu.group?_append]
  cases group? s with
  | error fault => rfl
  | ok found =>
      cases found with
      | none => rfl
      | some found =>
          simp only [Except.map, Option.map_some, behind]
          rw [hu.connections_append]
          cases connections found.2 with
          | error fault => rfl
          | ok r =>
              simp only [Except.map, behind]
              cases segmentsOf r.1 <;> rfl

end Idle

theorem mem_terminators_of_separator {c : Char} (h : isSeparator c = true) : c ∈ terminators := by
  rw [isSeparator, Bool.or_eq_true, beq_iff_eq, beq_iff_eq] at h
  rcases h with rfl | rfl <;> decide

theorem skipBlanks_separator {c : Char} (h : isSeparator c = true) (s : Text) :
    skipBlanks (c :: s) = c :: s := by
  have hplain : ∀ c ∈ terminators, Text.isGap c = false ∧ c ≠ '%' := by decide
  obtain ⟨hgap, hpercent⟩ := hplain c (mem_terminators_of_separator h)
  exact skipBlanks_cons hgap hpercent s

section Separators

variable {u : Text} (h : ∀ c ∈ u, isSeparator c = true)

include h

theorem Line.readFrom_of_separators {free : Bool} {s : Text} (hs : skipBlanks s = u) :
    Line.readFrom free s = {} := by
  induction u generalizing free s with
  | nil => exact Line.readFrom_of_blank hs
  | cons c u ih =>
      obtain ⟨hc, hu⟩ := List.forall_mem_cons.1 h
      rw [Line.readFrom_of_separator hs hc]
      cases u with
      | nil => exact Line.readFrom_nil true
      | cons d u => exact ih hu (skipBlanks_separator (hu d List.mem_cons_self) u)

theorem Line.readFrom_append (free : Bool) (s : Text) :
    Line.readFrom free (s ++ u) = Line.readFrom free s := by
  have hu : Idle u := fun c hc => mem_terminators_of_separator (h c hc)
  have hbehind : ∀ {s rest : Text} {c : Char}, skipBlanks s = c :: rest →
      skipBlanks (s ++ u) = c :: (rest ++ u) := by
    intro s rest c hs
    rw [hu.detached.skipBlanks_append_of_ne (by simp [hs]), hs, List.cons_append]
  have hskip : ∀ c (rest : Text), isSkipped (c :: (rest ++ u)) = isSkipped (c :: rest) :=
    fun c rest => hu.detached.isSkipped_append (c :: rest)
  have hend : ∀ c (rest : Text),
      afterEnd? (c :: (rest ++ u)) = (afterEnd? (c :: rest)).map (· ++ u) :=
    fun c rest => hu.detached.afterEnd?_append (c :: rest)
  have hread : ∀ c (rest : Text), Statement.read? (c :: (rest ++ u)) =
      (Statement.read? (c :: rest)).map (Option.map (behind u)) :=
    fun c rest => hu.read?_append (c :: rest)
  -- The separators come into play only where nothing else is left of the line.
  fun_induction Line.readFrom free s with
  | case1 free s hs =>
    by_cases hcomment : Text.startsWith (Text.skipGaps s) "%%".toList = true
    · exact Line.readFrom_of_blank (by rw [hu.detached.skipBlanks_append, if_pos hcomment])
    · exact Line.readFrom_of_separators h
        (by rw [hu.detached.skipBlanks_append, if_neg hcomment, hs, List.nil_append])
  | case2 free s c rest hs hc ih => rw [Line.readFrom_of_separator (hbehind hs) hc, ih]
  | case3 free s c rest hs hc hfree =>
    rw [Line.readFrom_cons (hbehind hs), if_neg hc, if_pos hfree]
  | case4 free s c rest hs hc hfree hskipped =>
    rw [Line.readFrom_cons (hbehind hs), if_neg hc, if_neg hfree, hskip, if_pos hskipped]
  | case5 free s c rest hs hc hfree hskipped after hafter ih =>
    rw [Line.readFrom_cons (hbehind hs), if_neg hc, if_neg hfree, hskip, if_neg hskipped, hend,
      hafter]
    exact ih
  | case6 free s c rest hs hc hfree hskipped hnone fault hfault =>
    rw [Line.readFrom_cons (hbehind hs), if_neg hc, if_neg hfree, hskip, if_neg hskipped, hend,
      hnone, hread, hfault]
    rfl
  | case7 free s c rest hs hc hfree hskipped hnone hstatement =>
    rw [Line.readFrom_cons (hbehind hs), if_neg hc, if_neg hfree, hskip, if_neg hskipped, hend,
      hnone, hread, hstatement]
    rfl
  | case8 free s c rest hs hc hfree hskipped hnone statement after hstatement ih =>
    rw [Line.readFrom_cons (hbehind hs), if_neg hc, if_neg hfree, hskip, if_neg hskipped, hend,
      hnone, hread, hstatement]
    exact congrArg (Line.push statement) ih

end Separators

end Flowchart.Chart
