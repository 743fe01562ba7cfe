import Flowchart.Proofs.Chart.Cursor
import Flowchart.Proofs.Chart.Idle

/-!
# Nothing reaches past a line

A reader that has the whole text before it does with the rest of a line what it would do if the text
ended there, and a fault shows in that line.
-/

namespace Flowchart.Chart.Cursor

def Below (t : Text) : Prop := ∀ c, t.head? = some c → c = '\n'

theorem below_nil : Below [] := fun _ h => nomatch h

theorem below_feed (t : Text) : Below ('\n' :: t) := fun _ h => (Option.some.inj h).symm

theorem Below.detached {t : Text} (ht : Below t) : Detached t :=
  fun c hc => ht c hc ▸ by decide

/-- What is read on a line, with the lines below still ahead. -/
def carried {α β : Type} (t : Text) (f : α → β) : Except Fault α → Except Halt β
  | .error fault => .error (halt fault t)
  | .ok r => .ok (f r)

theorem halt_append {s : Text} (hs : '\n' ∉ s) (fault : Fault) (t : Text) :
    halt fault (s ++ t) = halt fault t := by
  rw [halt, halt, Text.newlines, List.count_append, List.count_eq_zero_of_not_mem hs, Nat.zero_add]
  rfl

section Below

variable {t : Text} (ht : Below t)

include ht

theorem Below.dropLine_append {s : Text} (hs : '\n' ∉ s) : dropLine (s ++ t) = t := by
  have hline : ∀ c ∈ s, (c != '\n') = true := by
    intro c hc
    rw [bne_iff_ne]
    rintro rfl
    exact hs hc
  rw [dropLine, List.dropWhile_append_of_pos hline]
  cases t with
  | nil => rfl
  | cons c t =>
      obtain rfl := ht c rfl
      rfl

theorem Below.skipBlanks_append {s : Text} (hs : '\n' ∉ s) :
    skipBlanks (s ++ t) = Chart.skipBlanks s ++ t := by
  have hgaps : '\n' ∉ Text.skipGaps s := not_mem_of_suffix hs (List.dropWhile_suffix _)
  rw [skipBlanks, Chart.skipBlanks, ht.detached.skipGaps_append,
    ht.detached.startsWith_append (by decide)]
  split
  · exact ht.dropLine_append hgaps
  · rfl

theorem Below.quotedText_append {quote : Char} (hquote : quote ≠ '\n') {s : Text} (hs : '\n' ∉ s) :
    quotedText quote (s ++ t) = carried t (behind t) (Chart.quotedText quote s) := by
  induction s with
  | nil =>
      cases t with
      | nil => rfl
      | cons c t =>
          obtain rfl := ht c rfl
          rw [List.nil_append, quotedText, if_neg (Ne.symm hquote), if_pos rfl]
          rfl
  | cons c s ih =>
      rw [List.mem_cons, not_or] at hs
      rw [List.cons_append, quotedText, Chart.quotedText, ih hs.2, if_neg (Ne.symm hs.1)]
      split
      · rfl
      · cases Chart.quotedText quote s <;> rfl

theorem Below.bracketText_append {node closer : Text} {opener : Option Char}
    (hcloser : ∀ c ∈ closer, c ∉ terminators) (depth : Nat) {s : Text} (hs : '\n' ∉ s) :
    bracketText node opener closer depth (s ++ t) =
      match bracketText? opener closer depth s with
      | none => .error (halt (.unclosedShape node) t)
      | some r => .ok (behind t r) := by
  induction s generalizing depth with
  | nil =>
      cases t with
      | nil => rfl
      | cons c t =>
          obtain rfl := ht c rfl
          rw [List.nil_append, bracketText, if_pos rfl]
          rfl
  | cons c s ih =>
      rw [List.mem_cons, not_or] at hs
      have hafter : (if depth = 0 then Text.after? closer (c :: (s ++ t)) else none) =
          (if depth = 0 then Text.after? closer (c :: s) else none).map (· ++ t) := by
        rw [← List.cons_append, ht.detached.after?_append hcloser]
        split <;> rfl
      rw [List.cons_append, bracketText, bracketText?, hafter, if_neg (Ne.symm hs.1), ih _ hs.2]
      cases (if depth = 0 then Text.after? closer (c :: s) else none) with
      | some rest => rfl
      | none =>
          cases bracketText? opener closer (deepen opener (closer.headD ' ') depth c) s <;> rfl

theorem Below.shapeText_append {node closer : Text} (hcloser : ∀ c ∈ closer, c ∉ terminators)
    {s : Text} (hs : '\n' ∉ s) :
    shapeText node closer (s ++ t) = carried t (behind t) (Chart.shapeText node closer s) := by
  have hsuffix := suffix_skipBlanks s
  rw [shapeText, Chart.shapeText, ht.skipBlanks_append hs]
  -- If only blanks are left of the line, the break behind it comes before any text.
  cases hblanks : Chart.skipBlanks s with
  | nil =>
      cases t with
      | nil => rfl
      | cons c t =>
          obtain rfl := ht c rfl
          rw [List.nil_append]
          dsimp only
          rw [if_neg (by decide), bracketText, if_pos rfl]
          rfl
  | cons c inside =>
      rw [hblanks] at hsuffix
      have hinside : '\n' ∉ c :: inside := not_mem_of_suffix hs hsuffix
      rw [List.cons_append]
      dsimp only
      split
      · rename_i hquote
        have hc : c ≠ '\n' := by rcases hquote with rfl | rfl <;> decide
        rw [List.mem_cons, not_or] at hinside
        rw [ht.quotedText_append hc hinside.2]
        cases hquoted : Chart.quotedText c inside with
        | error fault => rfl
        | ok r =>
            have hrest : '\n' ∉ r.2 := not_mem_of_suffix hinside.2 (suffix_of_quotedText hquoted)
            have hgap : '\n' ∉ Chart.skipBlanks r.2 :=
              not_mem_of_suffix hrest (suffix_skipBlanks r.2)
            simp only [carried, behind]
            rw [ht.skipBlanks_append hrest, ht.detached.after?_append hcloser]
            cases Text.after? closer (Chart.skipBlanks r.2) with
            | some rest => rfl
            | none => simp only [Option.map_none, halt_append hgap]
      · rw [← List.cons_append, ht.bracketText_append hcloser 0 hinside]
        cases bracketText? (nesting? (closer.headD ' ')) closer 0 (c :: inside) <;> rfl

theorem Below.shaped_append (id : Text) {s : Text} (hs : '\n' ∉ s) :
    shaped id (s ++ t) = carried t (behind t) (Chart.shaped id s) := by
  have hclosers : ∀ shape : Shape, ∀ c ∈ shape.closer, c ∉ terminators := by
    intro shape
    cases shape <;> decide
  rw [shaped, Chart.shaped, ht.detached.findShape_append]
  cases hfind : Shape.all.findSome? fun shape => (Text.after? shape.opener s).map (shape, ·) with
  | none => rfl
  | some found =>
      obtain ⟨shape, inside⟩ := found
      have hinside : '\n' ∉ inside := by
        obtain ⟨other, -, hother⟩ := List.exists_of_findSome?_eq_some hfind
        obtain ⟨after, hafter, heq⟩ := Option.map_eq_some_iff.1 hother
        obtain ⟨-, rfl⟩ := Prod.mk.inj heq
        exact not_mem_of_suffix hs (suffix_of_after? hafter)
      simp only [Option.map_some, behind]
      rw [ht.shapeText_append (hclosers shape) hinside]
      cases htext : Chart.shapeText id shape.closer inside with
      | error fault => rfl
      | ok r =>
          have hrest : '\n' ∉ r.2 := not_mem_of_suffix hinside (suffix_of_shapeText htext)
          simp only [carried, behind]
          cases decode r.1 with
          | error code => simp only [halt_append hrest]
          | ok text => rfl

theorem Below.mention?_append {s : Text} (hs : '\n' ∉ s) :
    mention? (s ++ t) = carried t (Option.map (behind t)) (Chart.mention? s) := by
  have hsuffix := suffix_skipBlanks s
  rw [mention?, Chart.mention?, ht.skipBlanks_append hs]
  cases hblanks : Chart.skipBlanks s with
  | nil =>
      cases t with
      | nil => rfl
      | cons c t =>
          obtain rfl := ht c rfl
          rfl
  | cons c rest =>
      rw [hblanks] at hsuffix
      have hid : '\n' ∉ (nodeId (c :: rest)).2 :=
        not_mem_of_suffix hs ((suffix_nodeId _).trans hsuffix)
      rw [List.cons_append]
      dsimp only
      split
      · rw [← List.cons_append, ht.detached.nodeId_append, behind]
        dsimp only
        rw [ht.shaped_append _ hid]
        cases Chart.shaped (nodeId (c :: rest)).1 (nodeId (c :: rest)).2 with
        | error fault => rfl
        | ok r =>
            simp only [carried, Except.map, behind, ht.detached.skipClass_append, Option.map_some]
      · rfl

theorem Below.after?_and_append {s : Text} (hs : '\n' ∉ s) :
    Text.after? ['&'] (skipBlanks (s ++ t)) =
      (Text.after? ['&'] (Chart.skipBlanks s)).map (· ++ t) := by
  rw [ht.skipBlanks_append hs, ht.detached.after?_append (by decide)]

omit ht in
theorem not_mem_of_and {s rest : Text} (hs : '\n' ∉ s)
    (hand : Text.after? ['&'] (Chart.skipBlanks s) = some rest) : '\n' ∉ rest :=
  not_mem_of_suffix hs ((suffix_of_after? hand).trans (suffix_skipBlanks s))

theorem Below.moreMentions_of_some {s rest after : Text} {mention : Mention} (hs : '\n' ∉ s)
    (hand : Text.after? ['&'] (Chart.skipBlanks s) = some rest)
    (hmention : Chart.mention? rest = .ok (some (mention, after))) :
    moreMentions (s ++ t) = (moreMentions (after ++ t)).map fun r => (mention :: r.1, r.2) := by
  have hshorter : (after ++ t).length < (s ++ t).length := by
    have := length_of_mention? hmention
    have := length_of_after? hand
    have := Chart.length_skipBlanks_le s
    simp only [List.length_append]
    omega
  rw [moreMentions, ht.after?_and_append hs, hand, Option.map_some]
  simp only [ht.mention?_append (not_mem_of_and hs hand), hmention, carried, Option.map_some,
    behind, if_pos hshorter]

theorem Below.moreMentions_append {s : Text} (hs : '\n' ∉ s) :
    moreMentions (s ++ t) = carried t (behind t) (Chart.moreMentions s) := by
  fun_induction Chart.moreMentions s with
  | case1 s hnone =>
    rw [moreMentions, ht.after?_and_append hs, hnone]
    rfl
  | case2 s inside hsome fault hmention =>
    rw [moreMentions, ht.after?_and_append hs, hsome, Option.map_some]
    simp only [ht.mention?_append (not_mem_of_and hs hsome), hmention, carried]
  | case3 s inside hsome hmention =>
    rw [moreMentions, ht.after?_and_append hs, hsome, Option.map_some]
    simp only [ht.mention?_append (not_mem_of_and hs hsome), hmention, carried, Option.map_none,
      behind]
  | case4 s inside hsome mention after hmention fault hmore ih =>
    have hafter : '\n' ∉ after :=
      not_mem_of_suffix (not_mem_of_and hs hsome) (suffix_of_mention? hmention)
    rw [ht.moreMentions_of_some hs hsome hmention, ih hafter, hmore]
    rfl
  | case5 s inside hsome mention after hmention mentions last hmore ih =>
    have hafter : '\n' ∉ after :=
      not_mem_of_suffix (not_mem_of_and hs hsome) (suffix_of_mention? hmention)
    rw [ht.moreMentions_of_some hs hsome hmention, ih hafter, hmore]
    rfl

theorem Below.group?_append {s : Text} (hs : '\n' ∉ s) :
    group? (s ++ t) = carried t (Option.map (behind t)) (Chart.group? s) := by
  rw [group?, Chart.group?, ht.mention?_append hs]
  cases hmention : Chart.mention? s with
  | error fault => rfl
  | ok found =>
      cases found with
      | none => rfl
      | some found =>
          have hrest : '\n' ∉ found.2 := not_mem_of_suffix hs (suffix_of_mention? hmention)
          simp only [carried, Option.map_some, behind]
          rw [ht.moreMentions_append hrest]
          cases Chart.moreMentions found.2 <;> rfl

theorem Below.labelBefore?_append {stroke : Stroke} (hstroke : ∀ c ∈ stroke.chars, c ∉ terminators)
    {s : Text} (hs : '\n' ∉ s) :
    labelBefore? stroke (s ++ t) = (Chart.labelBefore? stroke s).map (behind t) := by
  induction s with
  | nil =>
      cases t with
      | nil => rfl
      | cons c t =>
          obtain rfl := ht c rfl
          rfl
  | cons c s ih =>
      rw [List.mem_cons, not_or] at hs
      rw [List.cons_append, labelBefore?, Chart.labelBefore?, if_neg (Ne.symm hs.1),
        ht.detached.pastSpaced?_append hstroke, ih hs.2]
      cases pastSpaced? stroke s with
      | some rest => rfl
      | none => cases Chart.labelBefore? stroke s <;> rfl

theorem Below.innerLabel?_append {start : Text} {stroke : Stroke}
    (hstart : ∀ c ∈ start, c ∉ terminators) (hstroke : ∀ c ∈ stroke.chars, c ∉ terminators)
    {s : Text} (hs : '\n' ∉ s) :
    innerLabel? start stroke (s ++ t) = (Chart.innerLabel? start stroke s).map (behind t) := by
  have hgaps : ∀ c, t.head? = some c → Text.isGap c = false :=
    fun _ => ht.detached.fails (by decide)
  rw [innerLabel?, Chart.innerLabel?, ht.detached.after?_append hstart]
  cases hinside : Text.after? start s with
  | none => rfl
  | some inside =>
      have hlabel : '\n' ∉ Text.skipGaps inside :=
        not_mem_of_suffix hs ((List.dropWhile_suffix _).trans (suffix_of_after? hinside))
      simp only [Option.map_some, Text.takeWhile_append_of_head hgaps, ht.detached.skipGaps_append,
        ht.labelBefore?_append hstroke hlabel, ht.detached.past?_append hstroke]
      split
      · rfl
      · cases Chart.labelBefore? stroke (Text.skipGaps inside) with
        | some r => rfl
        | none =>
            simp only [Option.map_none]
            split
            · cases stroke.past? (Text.skipGaps inside) <;> rfl
            · rfl

theorem Below.labelled?_append {s : Text} (hs : '\n' ∉ s) :
    labelled? (s ++ t) = (Chart.labelled? s).map (behind t) := by
  refine findSome?_behind fun arrow harrow => ?_
  obtain ⟨hstart, hstroke⟩ := (by decide : ∀ arrow ∈ labelledArrows,
    (∀ c ∈ arrow.2.1, c ∉ terminators) ∧ ∀ c ∈ arrow.2.2.chars, c ∉ terminators) arrow harrow
  rw [ht.innerLabel?_append hstart hstroke hs, Option.map_map, Option.map_map]
  rfl

theorem Below.barLabel_append {s : Text} (hs : '\n' ∉ s) :
    barLabel (s ++ t) = match Chart.barLabel s with
      | .error _ => .error (halt .unclosedLabel t)
      | .ok r => .ok (behind t r) := by
  rw [barLabel, Chart.barLabel, ht.skipBlanks_append hs, ht.detached.after?_append (by decide)]
  cases hinside : Text.after? ['|'] (Chart.skipBlanks s) with
  | none => rfl
  | some inside =>
      have hfeed : '\n' ∉ inside :=
        not_mem_of_suffix hs ((suffix_of_after? hinside).trans (suffix_skipBlanks s))
      simp only [Option.map_some, halt_append hfeed]
      cases hend : inside.dropWhile (· != '|') with
      | cons c rest =>
          obtain ⟨htake, hdrop⟩ := Text.run_append_of_cons hend t
          have hlabel : '\n' ∉ inside.takeWhile (· != '|') := fun hmem =>
            hfeed ((List.takeWhile_prefix _).subset hmem)
          simp only [hdrop, htake, if_neg hlabel, behind]
      | nil =>
          -- A bar in the lines below stands behind a line feed.
          have hwhole : ∀ c ∈ inside, (c != '|') = true := List.dropWhile_eq_nil_iff.1 hend
          rw [List.dropWhile_append_of_pos hwhole, List.takeWhile_append_of_pos hwhole]
          cases t with
          | nil => rfl
          | cons c t =>
              obtain rfl := ht c rfl
              cases ('\n' :: t).dropWhile (· != '|') with
              | nil => rfl
              | cons d rest =>
                  dsimp only
                  rw [if_pos]
                  exact List.mem_append_right _ List.mem_cons_self

theorem Below.connector?_append {s : Text} (hs : '\n' ∉ s) :
    connector? (s ++ t) = match Chart.connector? s with
      | .error _ => .error (halt .unclosedLabel t)
      | .ok r => .ok (r.map (behind t)) := by
  have hblanks : '\n' ∉ Chart.skipBlanks s := not_mem_of_suffix hs (suffix_skipBlanks s)
  rw [connector?, Chart.connector?, ht.skipBlanks_append hs, ht.labelled?_append hblanks,
    ht.detached.plain?_append]
  cases Chart.labelled? (Chart.skipBlanks s) with
  | some r => rfl
  | none =>
      cases hplain : plain? (Chart.skipBlanks s) with
      | none => rfl
      | some r =>
          have hrest : '\n' ∉ r.2 := not_mem_of_suffix hblanks (suffix_of_plain? hplain)
          simp only [Option.map_none, Option.map_some, behind]
          rw [ht.barLabel_append hrest]
          cases Chart.barLabel r.2 <;> rfl

theorem Below.connections_of_some {s rest after : Text} {connector : Connector}
    {targets : List Mention} (hs : '\n' ∉ s)
    (hconnector : Chart.connector? s = .ok (some (connector, rest)))
    (hgroup : Chart.group? rest = .ok (some (targets, after))) :
    connections (s ++ t) =
      (connections (after ++ t)).map fun r => ((connector, targets) :: r.1, r.2) := by
  have hrest : '\n' ∉ rest := not_mem_of_suffix hs (suffix_of_connector? hconnector)
  have hshorter : (after ++ t).length < (s ++ t).length := by
    have := length_of_group? hgroup
    have := length_of_connector? hconnector
    simp only [List.length_append]
    omega
  rw [connections]
  simp only [ht.connector?_append hs, hconnector, Option.map_some, behind, ht.group?_append hrest,
    hgroup, carried, if_pos hshorter]

theorem Below.connections_append {s : Text} (hs : '\n' ∉ s) :
    connections (s ++ t) = carried t (behind t) (Chart.connections s) := by
  fun_induction Chart.connections s with
  | case1 s fault hconnector =>
    rw [connections, ht.connector?_append hs, hconnector]
    rfl
  | case2 s hconnector =>
    rw [connections, ht.connector?_append hs, hconnector]
    rfl
  | case3 s connector inside hconnector fault hgroup =>
    have hinside : '\n' ∉ inside := not_mem_of_suffix hs (suffix_of_connector? hconnector)
    rw [connections]
    simp only [ht.connector?_append hs, hconnector, Option.map_some, behind,
      ht.group?_append hinside, hgroup, carried]
  | case4 s connector inside hconnector hgroup =>
    have hinside : '\n' ∉ inside := not_mem_of_suffix hs (suffix_of_connector? hconnector)
    rw [connections]
    simp only [ht.connector?_append hs, hconnector, Option.map_some, Option.map_none, behind,
      ht.group?_append hinside, hgroup, carried]
  | case5 s connector inside hconnector targets after hgroup fault hmore ih =>
    have hafter : '\n' ∉ after :=
      not_mem_of_suffix hs ((suffix_of_group? hgroup).trans (suffix_of_connector? hconnector))
    rw [ht.connections_of_some hs hconnector hgroup, ih hafter, hmore]
    rfl
  | case6 s connector inside hconnector targets after hgroup more last hmore ih =>
    have hafter : '\n' ∉ after :=
      not_mem_of_suffix hs ((suffix_of_group? hgroup).trans (suffix_of_connector? hconnector))
    rw [ht.connections_of_some hs hconnector hgroup, ih hafter, hmore]
    rfl

theorem Below.read?_append {s : Text} (hs : '\n' ∉ s) :
    read? (s ++ t) = carried t (Option.map (behind t)) (Statement.read? s) := by
  rw [read?, Statement.read?, ht.group?_append hs]
  cases hgroup : Chart.group? s with
  | error fault => rfl
  | ok found =>
      cases found with
      | none => rfl
      | some found =>
          have hrest : '\n' ∉ found.2 := not_mem_of_suffix hs (suffix_of_group? hgroup)
          simp only [carried, Option.map_some, behind]
          rw [ht.connections_append hrest]
          cases hchain : Chart.connections found.2 with
          | error fault => rfl
          | ok r =>
              have hlast : '\n' ∉ r.2 := not_mem_of_suffix hrest (suffix_of_connections hchain)
              simp only [carried, behind]
              cases segmentsOf r.1 with
              | error fault => simp only [halt_append hlast]
              | ok segments => rfl

end Below

end Flowchart.Chart.Cursor
