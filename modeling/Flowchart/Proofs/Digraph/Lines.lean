import Flowchart.Proofs.Digraph.Statements

/-!
# Lines of digraphs

Every line is one statement, up to its line feed. Between braces the lines are read in their order.
-/

namespace Flowchart.Digraph

/-- How a line begins, and what closes the last one. -/
def Opens (c : Char) : Prop := (isIdChar c = true ∨ c = '"') ∨ c = '\x7d'

theorem Opens.ne {c d : Char} (h : Opens c) (hd : isIdChar d = false)
    (hother : d ∉ ['"', '\x7d']) : c ≠ d := by
  rintro rfl
  rcases h with (h | rfl) | rfl
  · simp [hd] at h
  · simp at hother
  · simp at hother

/-- A line that is read as a statement, wherever another line or the end follows. -/
structure Reads (line : Text) (statement : Statement) : Prop where
  opens : ∃ c, (isIdChar c = true ∨ c = '"') ∧ ∀ rest, Leads c (line ++ rest)
  reads : ∀ depth c s, Leads c s → Opens c →
    statement? (depth + 1) (line ++ '\n' :: s) = some (statement, '\n' :: s)

theorem exists_attributes (pairs : List (Text × Text)) :
    ∃ inner, attributes pairs = ' ' :: '[' :: inner := ⟨_, rfl⟩

theorem statement?_spelled {word : Text} (h : Spelled word) (hunlike : Unlike "subgraph".toList word)
    {pairs : List (Text × Text)} (statement : Statement) {rest : Text}
    (halone : ∀ s, attributes pairs ++ rest = ' ' :: '[' :: s →
      alone (word ++ ' ' :: '[' :: s) (.node word [], ' ' :: '[' :: s) = (statement, rest))
    (depth : Nat) :
    statement? (depth + 1) (word ++ attributes pairs ++ rest) = some (statement, rest) := by
  obtain ⟨inner, hinner⟩ := exists_attributes pairs
  have hs : Leads '[' ('[' :: (inner ++ rest)) := Leads.solid (by decide) _
  have hmany : many (fun s => (arrow? s).bind (terminal? (statement? depth)))
      (' ' :: '[' :: (inner ++ rest)) = ([], ' ' :: '[' :: (inner ++ rest)) := by
    refine many_of_none ?_
    simp [arrow?, mark?_space (c := ' ') rfl, hs.mark?_eq_none]
  have hrest := halone (inner ++ rest) (by simp [hinner])
  rw [hinner, List.append_assoc, List.cons_append, List.cons_append, statement?,
    assignment?_spelled h rfl hs (by decide) (by decide), Option.none_or,
    terminal?_spelled h rfl hs (by decide) hunlike (by decide) (by decide)]
  simp only [hmany, hrest]

section Line

variable {pairs : List (Text × Text)} (hne : pairs ≠ [])
  (hpairs : ∀ pair ∈ pairs, ReadablePair pair)

include hne hpairs

theorem reads_node {id : Text} (h : Named id) :
    Reads ('\t' :: id ++ attributes pairs) (.node id (pairs.map attributeOf)) where
  opens := by
    obtain ⟨c, hc, hleads⟩ := h.opens
    exact ⟨c, hc, fun rest => by simpa using (hleads _).space rfl⟩
  reads := by
    intro depth c s hs hc
    rw [List.cons_append, List.cons_append, statement?_space rfl]
    refine statement?_spelled h.toSpelled (h.unlike _ (by decide)) _ ?_ depth
    intro inner hinner
    have hnext := hs.space (d := '\n') rfl
    have hread := brackets_attributes hne hpairs hnext (hc.ne (by decide) (by decide))
    rw [hinner] at hread
    rw [alone]
    simp only [h.defaults?_eq_none (d := ' ') rfl, hread,
      skipMark_of_none (hnext.mark?_eq_none (hc.ne (d := ';') (by decide) (by decide)).symm [])]

theorem defaults?_word (subject : Subject) {c : Char} {rest : Text} (hrest : Leads c rest)
    (hc : c ≠ '[') :
    defaults? (subject.word ++ (attributes pairs ++ rest)) =
      some (.defaults subject (pairs.map attributeOf), rest) := by
  have hself := keyword?_self subject.word_word (attributes pairs ++ rest)
  have hbracket := bracket?_attributes hne hpairs rest
  have hbrackets := brackets_attributes hne hpairs hrest hc
  have hother := fun other (hne : other ≠ subject) =>
    subject.keyword?_of_ne hne (attributes pairs ++ rest)
  cases subject <;> simp [defaults?, Subject.all, hself, hbracket, hbrackets, hother]

theorem reads_defaults (subject : Subject) :
    Reads ('\t' :: subject.word ++ attributes pairs)
      (.defaults subject (pairs.map attributeOf)) where
  opens := by
    obtain ⟨c, hc, hleads⟩ := subject.word_word.spelled.opens
    exact ⟨c, hc, fun rest => by simpa using (hleads _).space rfl⟩
  reads := by
    intro depth c s hs hc
    rw [List.cons_append, List.cons_append, statement?_space rfl]
    refine statement?_spelled subject.word_word.spelled subject.unlike_subgraph _ ?_ depth
    intro inner hinner
    have hread := defaults?_word hne hpairs subject (hs.space (d := '\n') rfl)
      (hc.ne (by decide) (by decide))
    rw [hinner] at hread
    rw [alone, hread]

end Line

def optional (pairs : List (Text × Text)) : Text :=
  if pairs = [] then [] else attributes pairs

theorem brackets_optional {pairs : List (Text × Text)} {c : Char} {rest : Text}
    (hpairs : ∀ pair ∈ pairs, ReadablePair pair) (hrest : Leads c rest) (hc : c ≠ '[') :
    brackets (optional pairs ++ rest) = (pairs.map attributeOf, rest) := by
  unfold optional
  split
  · rename_i hnil
    rw [hnil]
    exact brackets_of_leads hrest hc
  · rename_i hne
    exact brackets_attributes hne hpairs hrest hc

theorem exists_optional (pairs : List (Text × Text)) {c : Char} {s : Text} (hs : Leads c s)
    (hc : Opens c) :
    ∃ d e rest, optional pairs ++ '\n' :: s = d :: rest ∧ isSpace d = true ∧ Leads e rest ∧
      (e = '[' ∨ Opens e) := by
  unfold optional
  split
  · exact ⟨'\n', c, s, rfl, rfl, hs, .inr hc⟩
  · exact ⟨' ', '[', _, rfl, rfl, Leads.solid (by decide) _, .inl rfl⟩

theorem arrow?_arrow (s : Text) : arrow? (' ' :: '-' :: '>' :: s) = some s := by
  simp [arrow?, mark?_space (c := ' ') rfl, mark?_solid (c := '-') (by decide), Text.after?]

theorem reads_edge {pairs : List (Text × Text)} {source target : Text} (hsource : Named source)
    (htarget : Named target) (hpairs : ∀ pair ∈ pairs, ReadablePair pair) :
    Reads ('\t' :: source ++ " -> ".toList ++ target ++ optional pairs)
      (.edges (.node source []) [.node target []] (pairs.map attributeOf)) where
  opens := by
    obtain ⟨c, hc, hleads⟩ := hsource.opens
    exact ⟨c, hc, fun rest => by simpa using (hleads _).space rfl⟩
  reads := by
    intro depth c s hs hc
    obtain ⟨d, e, rest, hrest, hd, he, hopens⟩ := exists_optional pairs hs hc
    -- Whatever opens the next line, it cannot go on with the target: there is no arrow or port.
    have hlast : ∀ mark, isIdChar mark = false → mark ≠ '[' → mark ∉ ['"', '\x7d'] → e ≠ mark := by
      intro mark hmark hbracket hother
      rcases hopens with rfl | hopens
      · exact hbracket.symm
      · exact hopens.ne hmark hother
    have hstop : arrow? (d :: rest) = none := by
      have hdash := (hlast '-' (by decide) (by decide) (by decide)).symm
      rw [arrow?, mark?_space hd, mark?_space hd]
      simp [he.mark?_eq_none hdash]
    have hend : terminal? (statement? depth) (' ' :: (target ++ d :: rest)) =
        some (.node target [], d :: rest) := by
      rw [terminal?_space rfl]
      exact terminal?_spelled htarget.toSpelled hd he (hlast '+' (by decide) (by decide) (by decide))
        (htarget.unlike _ (by decide)) (hlast ':' (by decide) (by decide) (by decide))
        (hlast '\x7b' (by decide) (by decide) (by decide)) _
    have hmany : many (fun s => (arrow? s).bind (terminal? (statement? depth)))
        (' ' :: '-' :: '>' :: ' ' :: (target ++ d :: rest)) =
          ([.node target []], d :: rest) := by
      refine many_of_some ?_ ?_ (many_of_none ?_)
      · rw [arrow?_arrow, Option.bind_some, hend]
      · simp only [List.length_cons, List.length_append]
        omega
      · rw [hstop]
        rfl
    have hread := brackets_optional hpairs (hs.space (d := '\n') rfl)
      (hc.ne (by decide) (by decide))
    have htext : '\t' :: source ++ " -> ".toList ++ target ++ optional pairs ++ '\n' :: s =
        '\t' :: (source ++ ' ' :: '-' :: '>' :: ' ' :: (target ++ d :: rest)) := by
      simp [hrest]
    have harrow : Leads '-' ('-' :: '>' :: ' ' :: (target ++ d :: rest)) :=
      Leads.solid (by decide) _
    rw [hrest] at hread
    rw [htext, statement?_space rfl, statement?,
      assignment?_spelled hsource.toSpelled rfl harrow (by decide) (by decide), Option.none_or,
      terminal?_spelled hsource.toSpelled rfl harrow (by decide) (hsource.unlike _ (by decide))
        (by decide) (by decide)]
    simp only [hmany, hread]

def block (lines : List Text) : Text := lines.flatMap ('\n' :: ·) ++ "\n\x7d\n".toList

theorem exists_block {lines : List (Text × Statement)} (h : ∀ line ∈ lines, Reads line.1 line.2) :
    ∃ c s, block (lines.map Prod.fst) = '\n' :: s ∧ Leads c s ∧ Opens c := by
  cases lines with
  | nil => exact ⟨'\x7d', _, rfl, Leads.solid (by decide) _, .inr rfl⟩
  | cons line lines =>
      obtain ⟨c, hc, hleads⟩ := (h line List.mem_cons_self).opens
      exact ⟨c, line.1 ++ block (lines.map Prod.fst), by simp [block], hleads _, .inl hc⟩

theorem statement?_close (depth : Nat) (s : Text) :
    statement? (depth + 1) ('\n' :: '\x7d' :: s) = none := by
  have hclose : Leads '\x7d' ('\x7d' :: s) := Leads.solid (by decide) s
  have hid := hclose.id?_eq_none (by decide) (by decide) (by decide)
  have hkeyword : keyword? "subgraph".toList ('\x7d' :: s) = none :=
    keyword?_of_leads hclose (by decide) (by decide) (by decide)
  have hbraces : braces? (statement? depth) ('\x7d' :: s) = none := by
    rw [braces?, hclose.mark?_eq_none (by decide)]
  have hgroup : group? (statement? depth) ('\x7d' :: s) = none := by
    rw [group?, hkeyword, hbraces]
    rfl
  rw [statement?_space rfl, statement?]
  simp [assignment?, terminal?, hgroup, nodeTerminal?, hid]

theorem many_block {lines : List (Text × Statement)} (h : ∀ line ∈ lines, Reads line.1 line.2)
    (depth : Nat) :
    many (fun s => (statement? (depth + 1) s).map fun r => (r.1, skipMark [';'] r.2))
        (block (lines.map Prod.fst)) =
      (lines.map Prod.snd, "\n\x7d\n".toList) := by
  induction lines with
  | nil =>
      refine many_of_none ?_
      change Option.map _ (statement? (depth + 1) ('\n' :: '\x7d' :: ['\n'])) = none
      rw [statement?_close]
      rfl
  | cons line lines ih =>
      obtain ⟨hline, hlines⟩ := List.forall_mem_cons.1 h
      obtain ⟨c, s, hblock, hs, hc⟩ := exists_block hlines
      have htext : block ((line :: lines).map Prod.fst) =
          '\n' :: (line.1 ++ block (lines.map Prod.fst)) := by
        simp [block]
      have hsemicolon := (hs.space (d := '\n') rfl).mark?_eq_none
        (hc.ne (d := ';') (by decide) (by decide)).symm []
      rw [htext]
      refine many_of_some ?_ ?_ (ih hlines)
      · rw [statement?_space rfl, hblock, hline.reads depth c s hs hc, Option.map_some,
          skipMark_of_none hsemicolon]
      · simp only [List.length_cons, List.length_append]
        omega

theorem braces?_block {lines : List (Text × Statement)} (h : ∀ line ∈ lines, Reads line.1 line.2)
    (depth : Nat) :
    braces? (statement? (depth + 1)) (' ' :: '\x7b' :: block (lines.map Prod.fst)) =
      some (lines.map Prod.snd, ['\n']) := by
  have hopen : mark? ['\x7b'] (' ' :: '\x7b' :: block (lines.map Prod.fst)) =
      some (block (lines.map Prod.fst)) := by
    rw [mark?_space rfl, mark?_solid (by decide)]
    rfl
  have hclose : mark? ['\x7d'] "\n\x7d\n".toList = some ['\n'] := by
    change mark? ['\x7d'] ['\n', '\x7d', '\n'] = _
    rw [mark?_space rfl, mark?_solid (by decide)]
    rfl
  have hsemicolon : mark? [';'] ['\n'] = none := by
    rw [mark?_space rfl, mark?, skipSpace_nil]
    rfl
  rw [braces?, hopen]
  simp only [many_block h depth, hclose, Option.map_some, skipMark_of_none hsemicolon]

theorem graphKeyword?_digraph (rest : Text) :
    graphKeyword? ((keyword? "strict".toList ("digraph".toList ++ rest)).getD
      ("digraph".toList ++ rest)) = some ("digraph".toList, rest) := by
  have hleads : Leads 'd' ("digraph".toList ++ rest) := Leads.solid (by decide) _
  have hstrict : keyword? "strict".toList ("digraph".toList ++ rest) = none :=
    keyword?_of_leads hleads (by decide) (by decide) (by decide)
  have hgraph : keyword? "graph".toList ("digraph".toList ++ rest) = none :=
    keyword?_of_leads hleads (by decide) (by decide) (by decide)
  have hword : Word "digraph".toList := by decide
  rw [hstrict, Option.getD_none, graphKeyword?, List.findSome?_cons, hgraph, Option.map_none,
    List.findSome?_cons, keyword?_self hword]
  rfl

theorem drawing?_feed : drawing? ['\n'] = none := by
  have hnone : ∀ word ∈ ["strict".toList, "graph".toList, "digraph".toList],
      keyword? word ['\n'] = none := by
    simp only [List.forall_mem_cons, keyword?_space (c := '\n') rfl]
    exact ⟨keyword?_nil (by decide) _, keyword?_nil (by decide) _, keyword?_nil (by decide) _,
      fun _ h => absurd h List.not_mem_nil⟩
  simp only [List.forall_mem_cons] at hnone
  obtain ⟨hstrict, hgraph, hdigraph, -⟩ := hnone
  rw [drawing?, hstrict, Option.getD_none, graphKeyword?, List.findSome?_cons, hgraph,
    Option.map_none, List.findSome?_cons, hdigraph]
  rfl

/-- What is written for the name of a graph is read as a word, up to blanks before the brace. -/
def Heading (text word : Text) : Prop :=
  ∃ gap : Text, (∀ c ∈ gap, isSpace c = true) ∧
    ∀ s, Leads '\x7b' s → id? (text ++ ' ' :: s) = some (word, gap ++ ' ' :: s)

theorem Spelled.heading {name : Text} (h : Spelled name) : Heading name name :=
  ⟨[], fun _ hc => absurd hc List.not_mem_nil, fun _ hs => h.read rfl hs (by decide)⟩

theorem braces?_gap {gap : Text} (h : ∀ c ∈ gap, isSpace c = true)
    (statement? : Text → Option (Statement × Text)) (s : Text) :
    braces? statement? (gap ++ s) = braces? statement? s := by
  induction gap with
  | nil => rfl
  | cons c gap ih =>
      obtain ⟨hc, hgap⟩ := List.forall_mem_cons.1 h
      rw [← ih hgap, List.cons_append, braces?, braces?, mark?_space hc]

theorem drawings_block {text word : Text} (hname : Heading text word)
    {lines : List (Text × Statement)} (h : ∀ line ∈ lines, Reads line.1 line.2) :
    drawings ("digraph ".toList ++ text ++ " \x7b".toList ++ block (lines.map Prod.fst)) =
      [⟨"digraph".toList, some word, lines.map Prod.snd⟩] := by
  obtain ⟨gap, hgap, hread⟩ := hname
  have htext : "digraph ".toList ++ text ++ " \x7b".toList ++ block (lines.map Prod.fst) =
      "digraph".toList ++ ' ' :: (text ++ ' ' :: '\x7b' :: block (lines.map Prod.fst)) := by
    simp
  generalize hrest : ' ' :: (text ++ ' ' :: '\x7b' :: block (lines.map Prod.fst)) = rest at htext
  have hname : name? rest = (some word, gap ++ ' ' :: '\x7b' :: block (lines.map Prod.fst)) := by
    have hopen : Leads '\x7b' ('\x7b' :: block (lines.map Prod.fst)) := Leads.solid (by decide) _
    rw [name?, ← hrest, id?_space rfl, hread _ hopen]
  have hlength : ("digraph".toList ++ rest).length = (6 + rest.length) + 1 := by
    rw [List.length_append]
    change 7 + _ = _
    omega
  have hdrawing : drawing? ("digraph".toList ++ rest) =
      some (⟨"digraph".toList, some word, lines.map Prod.snd⟩, ['\n']) := by
    rw [drawing?, graphKeyword?_digraph]
    simp only [hname, hlength, braces?_gap hgap, braces?_block h, Option.map_some]
  rw [htext, drawings, many_of_some hdrawing ?_ (many_of_none drawing?_feed)]
  simp

end Flowchart.Digraph
