import Flowchart.Proofs.Chart.Mentions
import Flowchart.Proofs.Chart.Scanning

/-!
# Charts below charts

A chart without a heading of its own may stand below another one.  Both are read as they are read
alone, the second with the numbers of the lines that it has there, and its nodes are added to those
above.
-/

namespace Flowchart.Chart

/-- One sheet below another. The heading of the first one counts. -/
def Sheet.above (top bottom : Sheet) : Sheet where
  direction := top.direction
  mentions := addMentions top.mentions bottom.mentions
  links := top.links ++ bottom.links

theorem Sheet.ofStatements_append (direction other : Direction)
    (statements more : List Statement) :
    ofStatements direction (statements ++ more) =
      (ofStatements direction statements).above (ofStatements other more) := by
  have hnone : (([] : List Mention).map Mention.id).Nodup := List.nodup_nil
  have hmentions := addMentions_addMentions hnone
    (addMentions [] (statements.flatMap Statement.mentions)) (more.flatMap Statement.mentions)
  rw [above, ofStatements, ofStatements, ofStatements, List.flatMap_append, List.flatMap_append,
    addMentions_append]
  exact congrArg (fun mentions => ({ direction, mentions, links := _ } : Sheet)) hmentions.symm

def LineFault.below (offset : Nat) (broken : LineFault) : LineFault :=
  { broken with line := broken.line + offset }

theorem statementsOf_add (number offset : Nat) (lines : List Text) :
    statementsOf (number + offset) lines =
      (statementsOf number lines).mapError (LineFault.below offset) := by
  induction lines generalizing number with
  | nil => rfl
  | cons line lines ih =>
      have hnext : number + offset + 1 = number + 1 + offset := Nat.add_right_comm _ _ _
      rw [statementsOf, statementsOf, hnext, ih]
      cases (Line.read line).ending with
      | broken fault => rfl
      | _ => cases statementsOf (number + 1) lines <;> rfl

theorem statementsOf_append (number : Nat) (lines more : List Text) :
    statementsOf number (lines ++ more) =
      match statementsOf number lines with
      | .error broken => .error broken
      | .ok statements => (statementsOf (number + lines.length) more).map (statements ++ ·) := by
  induction lines generalizing number with
  | nil =>
      rw [List.nil_append, List.length_nil, Nat.add_zero]
      cases statementsOf number more <;> rfl
  | cons line lines ih =>
      have hnext : number + 1 + lines.length = number + (line :: lines).length := by
        rw [List.length_cons]
        omega
      rw [List.cons_append, statementsOf, statementsOf, ih, hnext]
      cases (Line.read line).ending with
      | broken fault => rfl
      | _ =>
          cases statementsOf (number + 1) lines with
          | error broken => rfl
          | ok statements =>
              cases statementsOf (number + (line :: lines).length) more with
              | error broken => rfl
              | ok others => simp [Except.map]

theorem splitHeader?_append {more : List Text} (h : splitHeader? more = none) (lines : List Text) :
    splitHeader? (lines ++ more) =
      (splitHeader? lines).map fun found => (found.1, found.2 ++ more) := by
  induction lines with
  | nil => exact h
  | cons line lines ih =>
      by_cases hgaps : skipHeaderGaps line = []
      · rw [List.cons_append, splitHeader?_of_blank hgaps, splitHeader?_of_blank hgaps, ih]
      · rw [List.cons_append, splitHeader?_of_ne hgaps, splitHeader?_of_ne hgaps, Option.map_map]
        rfl

theorem sheet_append (direction : Direction) {number offset : Nat} {lines : List Text}
    (hnumber : number + lines.length = 1 + offset) (more : List Text) :
    (statementsOf number (lines ++ more)).map (Sheet.ofStatements direction) =
      match (statementsOf number lines).map (Sheet.ofStatements direction) with
      | .error broken => .error broken
      | .ok top =>
        (((statementsOf 1 more).map (Sheet.ofStatements .td)).mapError
          (LineFault.below offset)).map top.above := by
  rw [statementsOf_append, hnumber, statementsOf_add]
  cases statementsOf number lines with
  | error broken => rfl
  | ok statements =>
      cases statementsOf 1 more with
      | error broken => rfl
      | ok others => exact congrArg Except.ok (Sheet.ofStatements_append direction .td _ _)

theorem Sheet.read_append_feed {below : Text} (hbelow : splitHeader? (Text.split '\n' below) = none)
    (above : Text) :
    read (above ++ '\n' :: below) =
      match read above with
      | .error broken => .error broken
      | .ok top =>
        ((read below).mapError (LineFault.below (1 + Text.newlines above))).map top.above := by
  have hsplit : Text.split '\n' (above ++ '\n' :: below) =
      Text.split '\n' above ++ Text.split '\n' below :=
    Text.splitWhere_append_sep (p := (· == '\n')) (beq_self_eq_true '\n') above below
  have hlength : (Text.split '\n' above).length = 1 + Text.newlines above :=
    (Text.length_split '\n' above).trans (Nat.add_comm _ _)
  have hheader := splitHeader?_append hbelow (Text.split '\n' above)
  rw [read, read, read, layout, layout, layout, hsplit, hheader, hbelow]
  cases hfound : splitHeader? (Text.split '\n' above) with
  | none => exact sheet_append .td (congrArg (1 + ·) hlength) _
  | some found =>
      have hsuffix := (suffix_of_splitHeader? hfound).length_le
      have hnumber : (Text.split '\n' above).length - found.2.length + 1 + found.2.length =
          1 + (1 + Text.newlines above) := by
        omega
      have hsame : (Text.split '\n' above ++ Text.split '\n' below).length -
          (found.2 ++ Text.split '\n' below).length =
            (Text.split '\n' above).length - found.2.length := by
        simp only [List.length_append]
        omega
      simp only [Option.map_some, hsame]
      exact sheet_append found.1 hnumber _

/-- A body without a heading is read below another one as it is read alone.  This says something
about the notation, and not only about lines, as a body that is read in one go says the same. -/
theorem read_below {below : Text} (hbelow : Cursor.splitHeader? below = none) (above : Text) :
    ∀ reader ∈ [Sheet.read, Sheet.scan],
      reader (above ++ '\n' :: below) =
        match reader above with
        | .error broken => .error broken
        | .ok top =>
          ((reader below).mapError (LineFault.below (1 + Text.newlines above))).map top.above := by
  have hscan : Sheet.scan = Sheet.read := funext Sheet.scan_eq_read
  have hheader := Cursor.splitHeader?_eq below
  rw [hbelow] at hheader
  have hread := Sheet.read_append_feed (Option.map_eq_none_iff.1 hheader.symm) above
  rw [hscan]
  exact List.forall_mem_cons.2 ⟨hread, List.forall_mem_singleton.2 hread⟩

def tornLines : Text := "    B[Open] --> A\n    A[\"Start".toList

theorem read_below_torn :
    Cursor.splitHeader? tornLines = none ∧
    ∀ reader ∈ [Sheet.read, Sheet.scan],
      reader ("graph LR\n    A --> B".toList ++ '\n' :: tornLines) =
        match reader "graph LR\n    A --> B".toList with
        | .error broken => .error broken
        | .ok top => ((reader tornLines).mapError (LineFault.below 2)).map top.above := by
  have hheader : Cursor.splitHeader? tornLines = none := by
    rw [Cursor.splitHeader?_eq]
    decide
  exact ⟨hheader, read_below hheader "graph LR\n    A --> B".toList⟩

end Flowchart.Chart
