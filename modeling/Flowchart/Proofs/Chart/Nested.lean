import Flowchart.Proofs.Chart.Confined
import Flowchart.Proofs.Chart.Reading
import Mathlib.Data.List.Infix

/-!
# Nested brackets

The text of a shape may hold brackets of the kind that closes the shape, if they are balanced: it
goes to the closer outside of them.  A text without such a closer ends the reading where its line
ends, and no text makes it go on below.
-/

namespace Flowchart.Chart

/-- No part from the start closes more brackets than it opens, and the whole closes as many. -/
structure Balanced (opener close : Char) (s : Text) : Prop where
  never_more : ∀ start, start <+: s → start.count close ≤ start.count opener
  even : s.count close = s.count opener

theorem balanced_iff {opener close : Char} {s : Text} :
    Balanced opener close s ↔ (∀ start ∈ s.inits, start.count close ≤ start.count opener) ∧
      s.count close = s.count opener := by
  simp only [List.mem_inits]
  exact ⟨fun h => ⟨h.never_more, h.even⟩, fun h => ⟨h.1, h.2⟩⟩

instance (opener close : Char) (s : Text) : Decidable (Balanced opener close s) :=
  decidable_of_iff _ balanced_iff.symm

/-- The depth is what was opened before and not closed yet. -/
theorem levels_of_counts {opener close : Char} (hne : opener ≠ close) {depth : Nat} {s : Text}
    (hmore : ∀ start, start <+: s → start.count close ≤ start.count opener + depth)
    (heven : s.count close = s.count opener + depth) : Levels (some opener) close depth s := by
  -- On the text. The depth is how many closers are still missing.
  induction s generalizing depth with
  | nil => simpa [Levels, eq_comm] using heven
  | cons c s ih =>
      have htail : ∀ start, start <+: s →
          (c :: start).count close ≤ (c :: start).count opener + depth :=
        fun start hstart => hmore _ (List.prefix_cons_inj c |>.2 hstart)
      by_cases hopen : c = opener
      · subst hopen
        have hdepth : deepen (some c) close depth c = depth + 1 := if_pos rfl
        simp only [List.count_cons_self, List.count_cons_of_ne hne] at htail heven
        refine ⟨fun _ => hne, ?_⟩
        rw [hdepth]
        refine ih (fun start hstart => ?_) (by omega)
        have := htail start hstart
        omega
      · by_cases hclose : c = close
        · subst hclose
          have hdepth : deepen (some opener) c depth c = depth - 1 := by
            rw [deepen, if_neg (by simpa using Ne.symm hopen), if_pos rfl]
          simp only [List.count_cons_self, List.count_cons_of_ne hopen] at htail heven
          have hdeep := htail [] (List.nil_prefix)
          simp only [List.count_nil] at hdeep
          refine ⟨fun _ => by omega, ?_⟩
          rw [hdepth]
          refine ih (fun start hstart => ?_) (by omega)
          have := htail start hstart
          omega
        · have hdepth : deepen (some opener) close depth c = depth := by
            rw [deepen, if_neg (by simpa using Ne.symm hopen), if_neg hclose]
          simp only [List.count_cons_of_ne hopen, List.count_cons_of_ne hclose] at htail heven
          refine ⟨fun _ => hclose, ?_⟩
          rw [hdepth]
          exact ih htail heven

namespace Shape

/-- The first character of the closer. Where brackets of its kind nest, it closes them. -/
def close (shape : Shape) : Char := shape.closer.headD ' '

theorem closer_eq (shape : Shape) : shape.closer = shape.close :: shape.closer.tail := by
  cases shape <;> rfl

theorem close_bare (shape : Shape) : Text.isGap shape.close = false ∧ shape.close ≠ '%' ∧
    shape.close ≠ '"' ∧ shape.close ≠ '\'' := by
  cases shape <;> decide

theorem closer_inside (shape : Shape) : ∀ c ∈ shape.closer, c ∉ terminators := by
  cases shape <;> decide

theorem ne_of_nesting {shape : Shape} {opener : Char} (h : nesting? shape.close = some opener) :
    opener ≠ shape.close := by
  cases shape <;> simp_all [close, closer, nesting?] <;> exact h ▸ by decide

end Shape

/-- The beginning of a text that is taken as it stands: no gap, no quote and no comment. -/
structure Bare (s : Text) : Prop where
  unspaced : ∀ c, s.head? = some c → Text.isGap c = false
  unquoted : ∀ c, s.head? = some c → c ≠ '"' ∧ c ≠ '\''
  uncommented : ¬ "%%".toList <+: s

theorem bare_iff {s : Text} : Bare s ↔
    s.head?.all (fun c => !Text.isGap c && c != '"' && c != '\'') = true ∧ ¬ "%%".toList <+: s := by
  simp only [Option.all_eq_true, Bool.and_eq_true, Bool.not_eq_true', bne_iff_ne]
  exact ⟨fun h => ⟨fun c hc => ⟨⟨h.unspaced c hc, (h.unquoted c hc).1⟩, (h.unquoted c hc).2⟩,
      h.uncommented⟩,
    fun ⟨hhead, hcomment⟩ => ⟨fun c hc => (hhead c hc).1.1,
      fun c hc => ⟨(hhead c hc).1.2, (hhead c hc).2⟩, hcomment⟩⟩

instance (s : Text) : Decidable (Bare s) :=
  decidable_of_iff _ bare_iff.symm

/-- A line of text that the closer of the shape can stand behind. Clouds and hexagons, in which
nothing nests, hold any text without their closer. -/
structure Enclosed (shape : Shape) (s : Text) : Prop where
  feedless : '\n' ∉ s
  bare : Bare s
  closed : match nesting? shape.close with
    | some opener => Balanced opener shape.close s
    | none => ¬ shape.closer <:+: s

theorem closer_of_nothing_nests {shape : Shape} (h : nesting? shape.close = none) :
    shape.closer = [shape.close] := by
  cases shape <;> simp_all [Shape.close, Shape.closer, nesting?]

theorem Enclosed.levels {shape : Shape} {s : Text} (h : Enclosed shape s) :
    Levels (nesting? shape.close) shape.close 0 s := by
  have hclosed := h.closed
  cases hnesting : nesting? shape.close with
  | none =>
      rw [hnesting, closer_of_nothing_nests hnesting] at hclosed
      refine levels_of_bare (fun hmem => hclosed ?_) (by simp)
      obtain ⟨before, after, rfl⟩ := List.append_of_mem hmem
      exact ⟨before, after, by simp⟩
  | some opener =>
      rw [hnesting] at hclosed
      exact levels_of_counts (Shape.ne_of_nesting hnesting) hclosed.never_more hclosed.even

theorem Bare.append_closer {s : Text} (h : Bare s) (shape : Shape) (rest : Text) :
    Bare (s ++ shape.closer ++ rest) := by
  obtain ⟨hgap, hpercent, hquote, hapostrophe⟩ := shape.close_bare
  rw [shape.closer_eq]
  generalize shape.close = close at *
  cases s with
  | nil =>
      exact {
        unspaced := by simpa using hgap
        unquoted := by simpa using ⟨hquote, hapostrophe⟩
        uncommented := by simp [List.cons_prefix_cons, Ne.symm hpercent] }
  | cons c s =>
      exact {
        unspaced := by simpa using h.unspaced
        unquoted := by simpa using h.unquoted
        uncommented := by
          have hplain := h.uncommented
          cases s with
          | nil => simp [List.cons_prefix_cons, Ne.symm hpercent]
          | cons d s => simpa [List.cons_prefix_cons] using hplain }

theorem Bare.skipBlanks_eq {s : Text} (h : Bare s) : skipBlanks s = s := by
  apply skipBlanks_eq_self h.unspaced
  have hplain := h.uncommented
  cases hstarts : Text.startsWith s "%%".toList with
  | false => rfl
  | true =>
      obtain ⟨rest, hrest⟩ := Option.isSome_iff_exists.1 hstarts
      exact absurd ⟨rest, (Text.eq_append_of_after? hrest).symm⟩ hplain

theorem Bare.shapeText_eq {s : Text} (h : Bare s) (node : Text) (shape : Shape) :
    shapeText node shape.closer s =
      match bracketText? (nesting? shape.close) shape.closer 0 s with
      | some r => .ok r
      | none => .error (.unclosedShape node) := by
  rw [shapeText, h.skipBlanks_eq]
  cases s with
  | nil => rfl
  | cons c s =>
      obtain ⟨hquote, hapostrophe⟩ := h.unquoted c rfl
      dsimp only
      rw [if_neg (by simp [hquote, hapostrophe])]
      rfl

theorem Enclosed.shapeText_append {shape : Shape} {s : Text} (h : Enclosed shape s)
    (node rest : Text) :
    shapeText node shape.closer (s ++ shape.closer ++ rest) = .ok (s, rest) := by
  have htext := bracketText?_of_levels h.levels shape.closer.tail rest
  rw [← shape.closer_eq] at htext
  rw [(h.bare.append_closer shape rest).shapeText_eq, htext]

/-- Wherever the closer stands, a bracket is open. -/
def Unclosed (shape : Shape) (line : Text) : Prop :=
  ∀ before after, line = before ++ shape.closer ++ after →
    before.foldl (deepen (nesting? shape.close) shape.close) 0 ≠ 0

theorem bracketText?_eq_none_iff {opener : Option Char} {closer : Text} (hne : closer ≠ [])
    {depth : Nat} {s : Text} :
    bracketText? opener closer depth s = none ↔ ∀ before after, s = before ++ closer ++ after →
      before.foldl (deepen opener (closer.headD ' ')) depth ≠ 0 := by
  induction s generalizing depth with
  | nil => simp [bracketText?, hne]
  | cons c s ih =>
      rw [bracketText?]
      cases hhere : (if depth = 0 then Text.after? closer (c :: s) else none) with
      | some rest =>
          obtain ⟨hdepth, hafter⟩ : depth = 0 ∧ Text.after? closer (c :: s) = some rest := by
            simpa using hhere
          simp only [reduceCtorEq, false_iff]
          intro hall
          exact hall [] rest (Text.eq_append_of_after? hafter) hdepth
      | none =>
          simp only [Option.map_eq_none_iff]
          rw [ih]
          constructor
          · intro hall before after hline
            cases before with
            | nil =>
                rintro rfl
                rw [if_pos rfl, hline, List.nil_append, Text.after?_append] at hhere
                cases hhere
            | cons d before =>
                rw [List.cons_append, List.cons_append] at hline
                obtain ⟨rfl, hrest⟩ := List.cons.inj hline
                exact hall before after hrest
          · exact fun hall before after hline => hall (c :: before) after (congrArg (c :: ·) hline)

theorem Unclosed.shapeText_eq {shape : Shape} {line : Text} (h : Unclosed shape line)
    (hbare : Bare line) (node : Text) :
    shapeText node shape.closer line = .error (.unclosedShape node) := by
  have hne : shape.closer ≠ [] := by
    rw [shape.closer_eq]
    exact List.cons_ne_nil _ _
  rw [hbare.shapeText_eq, (bracketText?_eq_none_iff hne).2 h]

open Cursor (Below Halt halt carried)

/-- A reader that was put on this line is on it still: what it leaves begins here, and so does what
it stops at. -/
inductive OnLine (line below : Text) : Except Halt (Text × Text) → Prop
  | read {text left : Text} (h : left <:+ line) : OnLine line below (.ok (text, left ++ below))
  | stopped (fault : Fault) : OnLine line below (.error (halt fault below))

theorem onLine_shapeText {line below : Text} (hline : '\n' ∉ line) (hbelow : Below below)
    (shape : Shape) (node : Text) :
    OnLine line below (Cursor.shapeText node shape.closer (line ++ below)) := by
  rw [hbelow.shapeText_append shape.closer_inside hline]
  cases htext : shapeText node shape.closer line with
  | error fault => exact .stopped fault
  | ok r => exact .read (suffix_of_shapeText htext)

theorem exists_below (s : Text) : ∃ line below, s = line ++ below ∧ '\n' ∉ line ∧ Below below := by
  refine ⟨s.takeWhile (· != '\n'), s.dropWhile (· != '\n'), List.takeWhile_append_dropWhile.symm,
    fun hmem => ?_, fun c hc => ?_⟩
  · simpa using List.mem_takeWhile_imp hmem
  · have hhead := List.head?_dropWhile_not (· != '\n') s
    rw [hc] at hhead
    simpa using hhead

/-- A shape closes where its text does, whatever follows and on however many lines. A text that is
not closed is a fault in its own line, and nothing is read of the lines below. -/
theorem shapeText_closes (shape : Shape) (node : Text) :
    (∀ text rest, Enclosed shape text →
      shapeText node shape.closer (text ++ shape.closer ++ rest) = .ok (text, rest) ∧
      Cursor.shapeText node shape.closer (text ++ shape.closer ++ rest) = .ok (text, rest)) ∧
    (∀ line below, '\n' ∉ line → Below below → Bare line → Unclosed shape line →
      shapeText node shape.closer line = .error (.unclosedShape node) ∧
      Cursor.shapeText node shape.closer (line ++ below) =
        .error (halt (.unclosedShape node) below)) ∧
    ∀ line below, '\n' ∉ line → Below below →
      OnLine line below (Cursor.shapeText node shape.closer (line ++ below)) := by
  refine ⟨fun text rest h => ⟨h.shapeText_append node rest, ?_⟩,
    fun line below hline hbelow hbare hopen => ?_,
    fun line below hline hbelow => onLine_shapeText hline hbelow shape node⟩
  · obtain ⟨line, below, rfl, hline, hbelow⟩ := exists_below rest
    have hfeed : '\n' ∉ text ++ shape.closer ++ line := by
      have hcloser : '\n' ∉ shape.closer := fun hmem => shape.closer_inside _ hmem (by decide)
      simp [h.feedless, hcloser, hline]
    rw [← List.append_assoc, hbelow.shapeText_append shape.closer_inside hfeed,
      h.shapeText_append node line]
    rfl
  · have htext := hopen.shapeText_eq hbare node
    refine ⟨htext, ?_⟩
    rw [hbelow.shapeText_append shape.closer_inside hline, htext]
    rfl

/-- Brackets of the kind of its closer nest in this text of a circle, and others stand in it as
they come. In a rounded shape the next text would need one closer more than its line has. -/
theorem shapeText_closes_nested :
    (Enclosed .circle "f(g(x)) ]\x7b".toList ∧
      Cursor.shapeText "a".toList Shape.circle.closer
        ("f(g(x)) ]\x7b".toList ++ Shape.circle.closer ++ " --> b\n((c))".toList) =
          .ok ("f(g(x)) ]\x7b".toList, " --> b\n((c))".toList)) ∧
      ('\n' ∉ "f(x)".toList ∧ Below "\n)".toList ∧ Bare "f(x)".toList ∧
        Unclosed .rounded "f(x)".toList) ∧
      Cursor.shapeText "a".toList Shape.rounded.closer ("f(x)".toList ++ "\n)".toList) =
        .error ⟨.unclosedShape "a".toList, 1⟩ ∧
      OnLine "f(x)".toList "\n)".toList
        (Cursor.shapeText "a".toList Shape.rounded.closer ("f(x)".toList ++ "\n)".toList)) := by
  have henclosed : Enclosed .circle "f(g(x)) ]\x7b".toList :=
    ⟨by decide, by decide, show Balanced '(' ')' "f(g(x)) ]\x7b".toList by decide⟩
  have hbare : Bare "f(x)".toList := by decide
  have hnone : bracketText? (nesting? ')') Shape.rounded.closer 0 "f(x)".toList = none := by decide
  have hopen : Unclosed .rounded "f(x)".toList := (bracketText?_eq_none_iff (by decide)).1 hnone
  have hline : '\n' ∉ "f(x)".toList := by decide
  have hbelow : Below "\n)".toList := Cursor.below_feed _
  exact ⟨⟨henclosed, ((shapeText_closes .circle _).1 _ _ henclosed).2⟩,
    ⟨hline, hbelow, hbare, hopen⟩,
    ((shapeText_closes .rounded _).2.1 _ _ hline hbelow hbare hopen).2,
    (shapeText_closes .rounded _).2.2 _ _ hline hbelow⟩

end Flowchart.Chart
