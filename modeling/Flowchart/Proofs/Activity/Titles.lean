import Flowchart.Proofs.Activity.Asides
import Flowchart.Proofs.Activity.NormalForm
import Flowchart.Proofs.Activity.Soundness
import Flowchart.Proofs.Outcome
import Mathlib.Data.List.Flatten

/-!
# Titles of diagrams

A title is written as it stands, but it is read like any other text: its escapes are taken away and
its words are joined by single spaces.
-/

namespace Flowchart.Text

def respaced (s : Text) : Text := join [' '] (words s)

theorem mem_words {s word : Text} (h : word ∈ words s) :
    word ≠ [] ∧ ∀ c ∈ word, isBlank c = false := by
  obtain ⟨hpiece, hne⟩ := List.mem_filter.1 h
  exact ⟨by simpa using hne, not_mem_of_mem_splitWhere hpiece⟩

theorem mem_respaced {s : Text} {c : Char} (h : c ∈ respaced s) : c = ' ' ∨ isBlank c = false := by
  rcases mem_join h with h | ⟨word, hword, hc⟩
  · exact .inl (List.mem_singleton.1 h)
  · exact .inr ((mem_words hword).2 c hc)

theorem trim_respaced (s : Text) : trim (respaced s) = respaced s := by
  have hends : ∀ word ∈ words s, ∀ c, word.head? = some c ∨ word.getLast? = some c →
      isBlank c = false := by
    rintro word hword c (hc | hc)
    · exact (mem_words hword).2 c (List.mem_of_mem_head? hc)
    · exact (mem_words hword).2 c (List.mem_of_mem_getLast? hc)
  refine trim_eq_self (fun c hc => ?_) fun c hc => ?_
  · cases hwords : words s with
    | nil => simp [respaced, hwords, join] at hc
    | cons word more =>
        have hword : word ∈ words s := hwords ▸ List.mem_cons_self
        rw [respaced, hwords, head?_join (mem_words hword).1] at hc
        exact hends word hword c (.inl hc)
  · rcases List.eq_nil_or_concat (words s) with hwords | ⟨more, word, hwords⟩
    · simp [respaced, hwords, join] at hc
    · rw [List.concat_eq_append] at hwords
      have hword : word ∈ words s := by simp [hwords]
      rw [respaced, hwords, getLast?_join (mem_words hword).1] at hc
      exact hends word hword c (.inr hc)

theorem length_flatMap_splitWhere (p : Char → Bool) (s : Text) :
    ((splitWhere p s).flatMap (' ' :: ·)).length = s.length + 1 := by
  induction s with
  | nil => rfl
  | cons c s ih =>
      cases hc : p c with
      | true =>
          rw [splitWhere_cons_of_sep hc, List.flatMap_cons, List.length_append, ih]
          simp [Nat.add_comm]
      | false =>
          obtain ⟨piece, pieces, hpieces⟩ := List.exists_cons_of_ne_nil (splitWhere_ne_nil p s)
          rw [hpieces] at ih
          rw [splitWhere_cons_of_not hc, hpieces, List.length_cons, ← ih]
          simp [List.flatMap_cons]

theorem length_respaced_le (s : Text) : (respaced s).length ≤ s.length := by
  by_cases hwords : words s = []
  · simp [respaced, hwords, join]
  · have hspaced := congrArg List.length (flatMap_cons_eq hwords ' ')
    have hsub : ((words s).flatMap (' ' :: ·)).length ≤
        ((splitWhere isBlank s).flatMap (' ' :: ·)).length :=
      (List.filter_sublist.flatMap (' ' :: ·)).length_le
    rw [hspaced, length_flatMap_splitWhere, List.length_cons] at hsub
    exact Nat.le_of_succ_le_succ hsub

theorem replace_of_not_mem {old : Char} {s : Text} (h : old ∉ s) (new : Text) :
    replace old new s = s := by
  induction s with
  | nil => rfl
  | cons c s ih =>
      rw [List.mem_cons, not_or] at h
      have hc : (c == old) = false := beq_eq_false_iff_ne.2 (Ne.symm h.1)
      rw [replace, List.flatMap_cons, hc]
      exact congrArg (c :: ·) (ih h.2)

end Flowchart.Text

namespace Flowchart.Activity

/-- No backslash stands before a character that it would change. -/
def Escapeless (s : Text) : Prop :=
  List.IsChain (fun c d => c = '\\' → d ∉ ['n', 'N', ';', ':', '\\']) s

instance (s : Text) : Decidable (Escapeless s) :=
  inferInstanceAs (Decidable (List.IsChain _ s))

theorem unescape_of_escapeless {s : Text} (h : Escapeless s) : unescape s = s := by
  fun_induction unescape s with
  | case1 | case2 | case3 | case4 | case5 =>
      exact absurd ((List.isChain_cons_cons.1 h).1 rfl) (by simp)
  | case6 c s _ _ _ _ _ ih => rw [ih (List.isChain_cons.1 h).2]
  | case7 => rfl

theorem length_unescape_le (s : Text) : (unescape s).length ≤ s.length := by
  fun_induction unescape s with
  | case1 s ih | case2 s ih | case3 s ih | case4 s ih | case5 s ih =>
      simp only [List.length_cons]
      omega
  | case6 c s _ _ _ _ _ ih => exact Nat.succ_le_succ ih
  | case7 => exact Nat.le_refl 0

theorem length_unescape_lt {s : Text} (h : ¬ Escapeless s) : (unescape s).length < s.length := by
  fun_induction unescape s with
  | case1 s | case2 s | case3 s | case4 s | case5 s =>
      have hle := length_unescape_le s
      simp only [List.length_cons]
      omega
  | case6 c s hn hN hsemicolon hcolon hbackslash ih =>
      have hrest : ¬ Escapeless s := by
        intro hrest
        refine h (List.isChain_cons.2 ⟨fun d hd hc hmem => ?_, hrest⟩)
        cases s with
        | nil => cases hd
        | cons e s =>
            obtain rfl : e = d := by simpa using hd
            simp only [List.mem_cons, List.not_mem_nil, or_false] at hmem
            rcases hmem with rfl | rfl | rfl | rfl | rfl
            · exact hn s hc rfl
            · exact hN s hc rfl
            · exact hsemicolon s hc rfl
            · exact hcolon s hc rfl
            · exact hbackslash s hc rfl
      simpa using ih hrest
  | case7 => exact absurd .nil h

/-- A title of words with single spaces between them that begins no comment. -/
structure Headline (title : Text) : Prop where
  filled : title ≠ []
  spaced : Text.respaced title = title
  uncommented : Text.occursIn "/'".toList title = false

instance (title : Text) : Decidable (Headline title) :=
  decidable_of_iff (title ≠ [] ∧ Text.respaced title = title ∧
      Text.occursIn "/'".toList title = false)
    ⟨fun ⟨hfilled, hspaced, huncommented⟩ => ⟨hfilled, hspaced, huncommented⟩,
      fun h => ⟨h.filled, h.spaced, h.uncommented⟩⟩

def heard (title : Text) : Text :=
  if Text.respaced (unescape title) = [] then givenTitle else Text.respaced (unescape title)

namespace Headline

variable {title : Text} (h : Headline title)

include h

theorem unbroken : ∀ c ∈ title, Text.isBreak c = false := by
  intro c hc
  rw [← h.spaced] at hc
  rcases Text.mem_respaced hc with rfl | hblank
  · decide
  · exact Text.not_break_of_not_blank hblank

theorem spoken : Spoken title where
  unbroken c hc hbreak := absurd hbreak (by simp [h.unbroken c hc])
  uncommented := h.uncommented

theorem commentless : Commentless ("title ".toList ++ title) :=
  (commentless_of_occursIn h.uncommented).after (by decide)

theorem unbroken_line : ∀ c ∈ "title ".toList ++ title, Text.isBreak c = false :=
  List.forall_mem_append.2 ⟨Text.none_of_all rfl, h.unbroken⟩

theorem trimmed : Text.trim title = title := by
  rw [← h.spaced, Text.trim_respaced]

theorem trim_line : Text.trim ("title ".toList ++ title) = "title ".toList ++ title := by
  refine Text.trim_eq_self (fun c hc => ?_) fun c hc => ?_
  · obtain rfl : 't' = c := Option.some.inj hc
    decide
  · have hsome : title.getLast?.isSome = true := by simpa using h.filled
    rw [List.getLast?_append, Option.or_of_isSome hsome] at hc
    exact Text.not_blank_last_of_trim h.trimmed hc

theorem title?_line :
    title? ("title ".toList ++ title) = some (Text.respaced (unescape title)) := by
  obtain ⟨c, rest, rfl⟩ := List.exists_cons_of_ne_nil h.filled
  have hc : Text.isBlank c = false := Text.not_blank_head_of_trim h.trimmed rfl
  have hraw : Text.trimLeft (c :: rest) = c :: rest := Text.trimLeft_cons hc rest
  have hafter : Text.after? "title".toList ("title ".toList ++ c :: rest) = some (' ' :: c :: rest) :=
    Text.after?_append "title".toList (' ' :: c :: rest)
  rw [title?, hafter]
  simp only [hraw]
  rfl

theorem heard_eq_self_iff : heard title = title ↔ Escapeless title := by
  constructor
  · intro heq
    by_contra hescapes
    have hlength : (Text.respaced (unescape title)).length < title.length :=
      (Text.length_respaced_le _).trans_lt (length_unescape_lt hescapes)
    rw [heard] at heq
    split at heq
    · rw [← heq] at hescapes
      exact hescapes (by decide)
    · rw [heq] at hlength
      exact Nat.lt_irrefl _ hlength
  · intro hescapeless
    rw [heard, unescape_of_escapeless hescapeless, h.spaced, if_neg h.filled]

end Headline

section Titled

variable {flow : Flow} {title text : Text}

theorem titleLines_titled (htitle : flow.title = .str title) (h : Headline title) :
    titleLines flow = .ok ["title ".toList ++ title] := by
  have hvoid : flow.title.isVoid = false := by
    rw [htitle]
    simpa [Json.isVoid] using h.filled
  have hreplace : Text.replace '\n' [' '] title = title :=
    Text.replace_of_not_mem (fun hfeed => absurd (h.unbroken '\n' hfeed) (by decide)) [' ']
  rw [titleLines, hvoid, htitle]
  simp only [hreplace]
  rfl

theorem exists_join_of_write (htitle : flow.title = .str title) (h : Headline title)
    (hwrite : write flow = .ok text) :
    ∃ more, text = Text.join ['\n'] (["@startuml".toList, "title ".toList ++ title] ++ more) := by
  obtain ⟨titles, htitles, hwrite⟩ := Except.exists_of_bind_eq_ok hwrite
  rw [titleLines_titled htitle h] at htitles
  obtain rfl := Except.ok.inj htitles
  split at hwrite
  · exact ⟨[[], "@enduml".toList], (Except.ok.inj hwrite).symm⟩
  · obtain ⟨graph, -, hwrite⟩ := Except.exists_of_bind_eq_ok hwrite
    obtain ⟨lines, -, hwrite⟩ := Except.exists_of_bind_eq_ok hwrite
    exact ⟨[[]] ++ (lines ++ [[]]) ++ ["@enduml".toList], (Except.ok.inj hwrite).symm⟩

theorem keptLines_titled (h : Headline title) (more : List Text) :
    keptLines (Text.join ['\n'] (["@startuml".toList, "title ".toList ++ title] ++ more)) =
      ("title ".toList ++ title) :: keptLines (Text.join ['\n'] more) := by
  have hopen : Leaves "@startuml".toList "@startuml".toList := by decide
  have hline := leaves_of_commentless h.commentless h.unbroken_line
  rw [keptLines_join (by simpa using ⟨hopen.whole, hline.whole⟩), List.flatMap_cons,
    List.flatMap_singleton, hopen.keptLines_eq, hline.keptLines_eq, h.trim_line]
  rfl

theorem title_of_read {script : Script} (h : Headline title) {more : List Text}
    (hscript : Script.read (Text.join ['\n']
      (["@startuml".toList, "title ".toList ++ title] ++ more)) = .ok script) :
    script.title = some (Text.respaced (unescape title)) := by
  have hnote : opensNote ("title ".toList ++ title) = false := rfl
  have hwhole : (Text.startsWith ("title ".toList ++ title) [':'] &&
      !Text.endsWith ("title ".toList ++ title) [';']) = false := rfl
  rw [Script.read_eq, keptLines_titled h, dropNotes, hnote, if_neg Bool.false_ne_true,
    joinActivities, hwhole, if_neg Bool.false_ne_true] at hscript
  cases hjoined : joinActivities [] (dropNotes false (keptLines (Text.join ['\n'] more))) with
  | error fault => simp [hjoined, Except.map] at hscript
  | ok lines =>
      rw [hjoined] at hscript
      obtain rfl := Except.ok.inj hscript
      simp only [Script.ofLines, List.findSome?_cons, h.title?_line]

theorem title_toFlow (m : Machine) (title : Text) :
    (m.toFlow (some (Text.respaced (unescape title)))).title = .str (heard title) := by
  rw [heard]
  cases Text.respaced (unescape title) <;> rfl

theorem exists_read_of_empty (htitle : flow.title = .str title) (h : Headline title)
    (hnodes : flow.nodes = []) : ∃ text again, write flow = .ok text ∧ read text = .ok again := by
  let more : List Text := [[], "@enduml".toList]
  let text := Text.join ['\n'] (["@startuml".toList, "title ".toList ++ title] ++ more)
  have hwrite : write flow = .ok text := by
    rw [write, titleLines_titled htitle h, hnodes]
    rfl
  have hdiagram : isDiagram text = true := by
    have hoccurs : Text.occursIn "@startuml".toList text = true := rfl
    rw [isDiagram, hoccurs, Bool.true_or]
  have hkept : keptLines text = ["title ".toList ++ title] := keptLines_titled h more
  let script := Script.ofLines ["title ".toList ++ title]
  have hscript : Script.read text = .ok script := by
    rw [Script.read_eq, hkept]
    rfl
  refine ⟨text, script.run.toFlow script.title, hwrite, ?_⟩
  rw [read, hdiagram, hscript]
  rfl

/-- Whenever the diagram of a flow with such a title is read, the title is what was heard of it: the
title itself exactly if it has no escapes.  It is read where the nodes can be told. -/
theorem read_titled (htitle : flow.title = .str title) (h : Headline title) :
    (∀ text again, write flow = .ok text → read text = .ok again →
      again.title = .str (heard title) ∧ (again.title = flow.title ↔ Escapeless title)) ∧
    ((∀ node ∈ flow.nodes, SpokenNode node) →
      ∃ text again, write flow = .ok text ∧ read text = .ok again) := by
  refine ⟨fun text again hwrite hread => ?_, fun hspoken => ?_⟩
  · obtain ⟨more, rfl⟩ := exists_join_of_write htitle h hwrite
    obtain ⟨script, hscript, rfl⟩ := exists_script_of_read hread
    rw [title_of_read h hscript, title_toFlow, htitle]
    exact ⟨rfl, (Json.str.injEq _ _).to_iff.trans h.heard_eq_self_iff⟩
  · by_cases hnodes : flow.nodes = []
    · exact exists_read_of_empty htitle h hnodes
    · have hflow : SpokenFlow flow := ⟨.inr ⟨title, htitle, h.spoken⟩, hspoken⟩
      obtain ⟨text, again, hwrite, hread, -⟩ := exists_read_of_spoken hflow hnodes
      exact ⟨text, again, hwrite, hread⟩

end Titled

/-- The backslashes of its title stand before no character that they would change. -/
def windowFlow : Flow where
  id := "window".toList
  title := .str "title \\o/ : start; \\'".toList
  start := "go".toList
  nodes := [{ id := "go".toList, title := .str "Go \\now".toList }]

theorem spoken_windowFlow : ∀ node ∈ windowFlow.nodes, SpokenNode node := by
  have hplain : PlainLine "Go \\now".toList := by decide
  refine List.forall_mem_singleton.2 ?_
  exact {
    caption := ⟨"Go \\now".toList, rfl, hplain.spoken⟩
    question := ⟨"Go \\now".toList, rfl, hplain.spoken⟩
    labelled := List.forall_mem_nil _
    keyed := List.forall_mem_nil _ }

theorem read_titled_window :
    windowFlow.title = .str "title \\o/ : start; \\'".toList ∧
      Headline "title \\o/ : start; \\'".toList ∧
      (∀ node ∈ windowFlow.nodes, SpokenNode node) ∧
      ∃ text again, write windowFlow = .ok text ∧ read text = .ok again ∧
        again.title = windowFlow.title := by
  have hline : Headline "title \\o/ : start; \\'".toList := by decide
  have htitle : windowFlow.title = .str "title \\o/ : start; \\'".toList := rfl
  obtain ⟨hheard, hread⟩ := read_titled htitle hline
  obtain ⟨text, again, hwrite, hagain⟩ := hread spoken_windowFlow
  exact ⟨htitle, hline, spoken_windowFlow, text, again, hwrite, hagain,
    (hheard text again hwrite hagain).2.2 (by decide)⟩

/-- A folder whose name begins with an n. -/
example : heard "C:\\new".toList = "C: ew".toList := by decide

end Flowchart.Activity
