import Flowchart.Proofs.Chart.RowLines
import Flowchart.Proofs.Yaml.Lines

/-!
# Front matter taken off again

Whatever title and description a flow has, what is written for them ends where it was written to:
below it, the lines of the chart are read.
-/

namespace Flowchart.Chart

theorem afterNewline?_cons_of_ne {c : Char} (h : Text.isBreak c = false) (s : Text) :
    afterNewline? (c :: s) = none := by
  have hreturn : c ≠ '\r' := Text.ne_of_class h (by decide)
  have hfeed : c ≠ '\n' := Text.ne_of_class h (by decide)
  unfold afterNewline?
  split <;> simp_all

theorem splitClosing?_unbroken {line : Text} (h : ∀ c ∈ line, Text.isBreak c = false) (s : Text) :
    splitClosing? (line ++ s) = (splitClosing? s).map fun r => (line ++ r.1, r.2) := by
  induction line with
  | nil => cases hclosing : splitClosing? s <;> simp [hclosing]
  | cons c line ih =>
      obtain ⟨hc, hline⟩ := List.forall_mem_cons.1 h
      have hopen : afterClosing? (c :: (line ++ s)) = none := by
        rw [afterClosing?, afterNewline?_cons_of_ne hc]
        rfl
      rw [List.cons_append, splitClosing?, hopen, ih hline]
      cases splitClosing? s <;> rfl

theorem afterClosing?_dashes {rest : Text} :
    afterClosing? ('\n' :: ("---".toList ++ '\n' :: rest)) = some rest := rfl

theorem afterClosing?_of_not_dashes {line : Text} (h : ¬ "---".toList <+: line) (rest : Text) :
    afterClosing? ('\n' :: (line ++ '\n' :: rest)) = none := by
  have hafter : Text.after? "---".toList (line ++ '\n' :: rest) = none := by
    rw [Option.eq_none_iff_forall_ne_some]
    intro behind hbehind
    have hdashes : "---".toList <+: line ++ '\n' :: rest :=
      ⟨behind, (Text.eq_append_of_after? hbehind).symm⟩
    rcases List.prefix_or_prefix_of_prefix hdashes (List.prefix_append line _) with hline | hline
    · exact h hline
    · -- The feed behind the line would be a dash.
      obtain ⟨more, hmore⟩ := hline
      rw [← hmore, List.prefix_append_right_inj] at hdashes
      cases more with
      | nil =>
          rw [List.append_nil] at hmore
          exact h (hmore ▸ List.prefix_rfl)
      | cons c more =>
          have hmem : c ∈ "---".toList := hmore ▸ by simp
          rw [(List.cons_prefix_cons.1 hdashes).1] at hmem
          exact absurd hmem (by decide)
  change (do
    let rest ← Text.after? "---".toList (line ++ '\n' :: rest)
    _) = none
  rw [hafter]
  rfl

theorem splitClosing?_lines {first : Text} {rest below : List Text} (hbelow : below ≠ [])
    (hlines : ∀ line ∈ first :: rest, ∀ c ∈ line, Text.isBreak c = false)
    (hdashes : ∀ line ∈ rest, ¬ "---".toList <+: line) :
    splitClosing? (Text.join ['\n'] (first :: (rest ++ "---".toList :: below))) =
      some (Text.join ['\n'] (first :: rest), Text.join ['\n'] below) := by
  induction rest generalizing first with
  | nil =>
      have hfirst := hlines first List.mem_cons_self
      rw [List.nil_append, Text.join_cons_of_ne_nil (by simp), List.append_assoc,
        splitClosing?_unbroken hfirst, Text.join_cons_of_ne_nil hbelow, List.append_assoc,
        List.singleton_append, List.singleton_append, splitClosing?, afterClosing?_dashes,
        Text.join_singleton]
      simp
  | cons line rest ih =>
      obtain ⟨hfirst, hrest⟩ := List.forall_mem_cons.1 hlines
      obtain ⟨hline, hothers⟩ := List.forall_mem_cons.1 hdashes
      have hbehind : Text.join ['\n'] (line :: (rest ++ "---".toList :: below)) =
          line ++ '\n' :: Text.join ['\n'] (rest ++ "---".toList :: below) := by
        rw [Text.join_cons_of_ne_nil (by simp), List.append_assoc, List.singleton_append]
      have hstep := ih hrest hothers
      rw [hbehind] at hstep
      rw [List.cons_append, Text.join_cons_cons, List.append_assoc, splitClosing?_unbroken hfirst,
        hbehind, List.singleton_append, splitClosing?, afterClosing?_of_not_dashes hline, hstep,
        Text.join_cons_cons]
      simp

def frontFields (flow : Flow) : Fields :=
  Fields.unlessVoid "title".toList flow.title ++
    Fields.unlessVoid "description".toList flow.description

theorem key_of_mem_frontFields {flow : Flow} {field : Text × Json} (h : field ∈ frontFields flow) :
    field.1 ∈ ["title".toList, "description".toList] := by
  have hkey : ∀ key value, field ∈ Fields.unlessVoid key value → field.1 = key := by
    intro key value h
    unfold Fields.unlessVoid at h
    split at h
    · cases h
    · rw [List.mem_singleton.1 h]
  rcases List.mem_append.1 h with h | h
  · rw [hkey _ _ h]
    exact List.mem_cons_self
  · rw [hkey _ _ h]
    exact List.mem_cons_of_mem _ List.mem_cons_self

theorem writeText_key {key : Text} (h : key ∈ ["title".toList, "description".toList]) :
    Yaml.isShortKey key = true ∧ Yaml.writeText true 0 0 key = key ∧
      ∀ c ∈ key, Text.isBlank c = false ∧ c ≠ '-' := by
  simp only [List.mem_cons, List.not_mem_nil, or_false] at h
  rcases h with rfl | rfl <;> decide

theorem sheltered_frontFields (flow : Flow) : Yaml.Sheltered (Yaml.write (frontFields flow)) := by
  apply Yaml.sheltered_write
  intro field hfield
  obtain ⟨hshort, hwritten, hplain⟩ := writeText_key (key_of_mem_frontFields hfield)
  have hne : field.1 ≠ [] := by
    intro hnil
    simp [Yaml.isShortKey, hnil] at hshort
  obtain ⟨c, s, hkey⟩ := List.exists_cons_of_ne_nil hne
  rw [hwritten]
  refine ⟨hshort, ?_, Yaml.sheltered_of_unbroken fun d hd =>
    Text.not_break_of_not_blank (hplain d hd).1⟩
  rw [hkey] at hplain ⊢
  exact Yaml.opened_cons (hplain c List.mem_cons_self).2 s

theorem colon_mem_frontFields {flow : Flow} (h : frontFields flow ≠ []) :
    ':' ∈ Text.trim (Yaml.write (frontFields flow)) := by
  obtain ⟨field, fields, hfields⟩ := List.exists_cons_of_ne_nil h
  have hmem : field ∈ frontFields flow := hfields ▸ List.mem_cons_self
  refine mem_trim_of_not_blank ?_ (by decide)
  rw [hfields, Yaml.write, Yaml.writeFields, if_pos (writeText_key (key_of_mem_frontFields hmem)).1]
  simp

theorem frontLines_cases (flow : Flow) : frontLines flow = [] ∨
    ∃ first rest, frontLines flow = "---".toList :: first :: (rest ++ ["---".toList, []]) ∧
      (∀ line ∈ first :: rest, ∀ c ∈ line, Text.isBreak c = false) ∧
      ∀ line ∈ rest, ¬ "---".toList <+: line := by
  have heq : frontLines flow = if (frontFields flow).isEmpty then [] else
      ["---".toList] ++ Text.lines (Text.trim (Yaml.write (frontFields flow))) ++
        ["---".toList, []] := rfl
  rw [heq]
  by_cases hnone : frontFields flow = []
  · exact .inl (by rw [hnone]; rfl)
  · right
    obtain ⟨first, rest, hlines⟩ := List.exists_cons_of_ne_nil
      (Text.lines_ne_nil (List.ne_nil_of_mem (colon_mem_frontFields hnone)))
    refine ⟨first, rest, by simp [hlines, hnone], fun line hline => ?_, fun line hline => ?_⟩
    · exact Text.mem_lines_unbroken (hlines ▸ hline)
    · obtain ⟨before, c, after, htrim, hc, hinitial⟩ := (Text.lines_stand _ hlines).2 line hline
      obtain ⟨blanks, more, htext, -⟩ := Text.exists_trim (Yaml.write (frontFields flow))
      have hsheltered := sheltered_frontFields flow
      rw [htext, htrim] at hsheltered
      intro hdashes
      have hbehind : Yaml.Sheltered (blanks ++ before ++ c :: (after ++ more)) := by
        simpa using hsheltered
      exact hbehind.not_dashes hc ((hdashes.trans hinitial).trans (List.prefix_append _ _))

theorem join_append_of_ne_nil {below : List Text} (h : below ≠ []) (sep : Text)
    (above : List Text) :
    Text.join sep (above ++ below) = above.flatMap (· ++ sep) ++ Text.join sep below := by
  induction above with
  | nil => rfl
  | cons line above ih =>
      rw [List.cons_append, Text.join_cons_of_ne_nil (List.append_ne_nil_of_right_ne_nil _ h), ih,
        List.flatMap_cons, List.append_assoc, List.append_assoc, List.append_assoc]

theorem splitBlock?_dashes (s : Text) : splitBlock? ("---".toList ++ '\n' :: s) = splitClosing? s :=
  rfl

theorem frontMatter_below {first : Text} {rest below : List Text} (hbelow : below ≠ [])
    (hlines : ∀ line ∈ first :: rest, ∀ c ∈ line, Text.isBreak c = false)
    (hdashes : ∀ line ∈ rest, ¬ "---".toList <+: line) :
    FrontMatter.read (Text.join ['\n'] ("---".toList :: first :: (rest ++ ["---".toList]) ++ below)) =
      (Yaml.Document.load (Text.join ['\n'] (first :: rest))).map fun document =>
        ⟨document, List.replicate (Text.newlines
          (("---".toList :: first :: (rest ++ ["---".toList])).flatMap (· ++ ['\n']))) '\n' ++
            Text.join ['\n'] below⟩ := by
  have hblock : splitBlock? (Text.join ['\n']
      ("---".toList :: first :: (rest ++ ["---".toList]) ++ below)) =
        some (Text.join ['\n'] (first :: rest), Text.join ['\n'] below) := by
    rw [← splitClosing?_lines hbelow hlines hdashes, ← splitBlock?_dashes]
    simp [Text.join_cons_cons]
  generalize "---".toList :: first :: (rest ++ ["---".toList]) = above at *
  have hnewlines : Text.newlines (Text.join ['\n'] (above ++ below)) -
      Text.newlines (Text.join ['\n'] below) = Text.newlines (above.flatMap (· ++ ['\n'])) := by
    rw [join_append_of_ne_nil hbelow, Text.newlines, Text.newlines, List.count_append,
      Nat.add_sub_cancel, Text.newlines]
  rw [FrontMatter.read, hblock]
  simp only [hnewlines]
  cases Yaml.Document.load (Text.join ['\n'] (first :: rest)) <;> rfl

/-- Whatever stands below it, a front is refused, or it is read as one document and leaves as many
empty lines in its place. -/
theorem frontMatter_cases (flow : Flow) :
    (∃ fault, ∀ direction lines,
      FrontMatter.read (Text.join ['\n'] (frontLines flow ++ framed direction lines)) =
        .error fault) ∨
      ∃ document gap, ∀ direction lines,
        FrontMatter.read (Text.join ['\n'] (frontLines flow ++ framed direction lines)) =
          .ok ⟨document, Text.join ['\n'] (List.replicate gap [] ++ framed direction lines)⟩ := by
  rcases frontLines_cases flow with hnone | ⟨first, rest, hfront, hlines, hdashes⟩
  · refine .inr ⟨{}, 0, fun direction lines => ?_⟩
    rw [hnone, List.nil_append, frontMatter_framed]
    rfl
  · have hread := fun direction lines =>
      frontMatter_below (List.cons_ne_nil [] (framed direction lines)) hlines hdashes
    have htext : ∀ direction lines, frontLines flow ++ framed direction lines =
        "---".toList :: first :: (rest ++ ["---".toList]) ++ [] :: framed direction lines := by
      intro direction lines
      simp [hfront]
    cases hload : Yaml.Document.load (Text.join ['\n'] (first :: rest)) with
    | error fault =>
        refine .inl ⟨fault, fun direction lines => ?_⟩
        rw [htext, hread, hload]
        rfl
    | ok document =>
        refine .inr ⟨document, Text.newlines
          (("---".toList :: first :: (rest ++ ["---".toList])).flatMap (· ++ ['\n'])) + 1,
          fun direction lines => ?_⟩
        have hframed : framed direction lines ≠ [] := List.cons_ne_nil _ _
        rw [htext, hread, hload, Except.map, Text.join_replicate_append hframed,
          Text.join_cons_of_ne_nil hframed, List.replicate_succ', List.nil_append,
          List.append_assoc]

theorem splitHeader?_below (gap : Nat) (direction : Direction) (lines : List Text) :
    splitHeader? (List.replicate gap [] ++ framed direction lines) = some (direction, lines) := by
  induction gap with
  | zero => exact splitHeader?_framed direction lines
  | succ gap ih => exact ih

theorem sheet_below (gap : Nat) (direction : Direction) {lines : List Text}
    (hfeeds : ∀ line ∈ lines, '\n' ∉ line) :
    Sheet.read (Text.join ['\n'] (List.replicate gap [] ++ framed direction lines)) =
      (statementsOf (gap + 2) lines).map (Sheet.ofStatements direction) := by
  have hheader : '\n' ∉ "flowchart ".toList ++ direction.name := by cases direction <;> decide
  have hsplit : Text.split '\n' (Text.join ['\n'] (List.replicate gap [] ++ framed direction lines)) =
      List.replicate gap [] ++ framed direction lines := by
    rw [Text.split_join (by simp [framed])]
    refine List.forall_mem_append.2 ⟨fun line hline => ?_,
      List.forall_mem_cons.2 ⟨hheader, hfeeds⟩⟩
    rw [List.eq_of_mem_replicate hline]
    exact List.not_mem_nil
  have hnumber : (List.replicate gap [] ++ framed direction lines).length - lines.length + 1 =
      gap + 2 := by
    rw [List.length_append, List.length_replicate, framed, List.length_cons]
    omega
  rw [Sheet.read, layout, hsplit, splitHeader?_below]
  simp only [hnumber]

/-- A chart is refused for its front, or its lines are read from the same number on, and title and
description are the same, whatever its lines are. -/
theorem read_cases (flow : Flow) :
    (∃ fault, ∀ direction lines,
      read (Text.join ['\n'] (frontLines flow ++ framed direction lines)) = .error fault) ∨
      ∃ (number : Nat) (texts : Except ReadFault (Option Text × Option Text)),
        ∀ direction lines, (∀ line ∈ lines, '\n' ∉ line) →
          read (Text.join ['\n'] (frontLines flow ++ framed direction lines)) =
            match statementsOf number lines with
            | .error broken => .error (.line broken)
            | .ok statements => texts.map fun found =>
              (Sheet.ofStatements direction statements).toFlow found.1 found.2 := by
  rcases frontMatter_cases flow with ⟨fault, hfault⟩ | ⟨document, gap, hread⟩
  · exact .inl ⟨.frontMatter fault, fun direction lines => by rw [read, hfault]⟩
  · have hbody : ∀ (body key : Text), FrontMatter.text? ⟨document, body⟩ key =
        FrontMatter.text? ⟨document, []⟩ key := fun _ _ => rfl
    refine .inr ⟨gap + 2, Except.mapError .frontMatter do
      let title ← FrontMatter.text? ⟨document, []⟩ "title".toList
      let description ← FrontMatter.text? ⟨document, []⟩ "description".toList
      return (title, description), fun direction lines hfeeds => ?_⟩
    rw [read, hread]
    simp only [sheet_below gap direction hfeeds, hbody]
    cases statementsOf (gap + 2) lines with
    | error broken => rfl
    | ok statements =>
        cases FrontMatter.text? ⟨document, []⟩ "title".toList with
        | error fault => rfl
        | ok title =>
            cases FrontMatter.text? ⟨document, []⟩ "description".toList <;> rfl

theorem exists_statements_of_read {flow : Flow} {direction : Direction} {lines : List Text}
    {again : Flow} (hfeeds : ∀ line ∈ lines, '\n' ∉ line)
    (h : read (Text.join ['\n'] (frontLines flow ++ framed direction lines)) = .ok again) :
    ∃ number statements title description, statementsOf number lines = .ok statements ∧
      again = (Sheet.ofStatements direction statements).toFlow title description := by
  rcases read_cases flow with ⟨fault, hfault⟩ | ⟨number, texts, hread⟩
  · rw [hfault] at h
    cases h
  · rw [hread direction lines hfeeds] at h
    split at h
    · cases h
    · rename_i statements hstatements
      obtain ⟨⟨title, description⟩, -, rfl⟩ := Except.exists_of_map_eq_ok h
      exact ⟨number, statements, title, description, hstatements, rfl⟩

end Flowchart.Chart
