import Flowchart.Chart.Line
import Flowchart.Chart.Writer
import Flowchart.Proofs.Flow.Branches
import Flowchart.Proofs.Text.Lines

/-!
# Plain flows

Flows that can be written as charts without loss: texts and labels are short enough and hold
nothing the notation gives a meaning to, and no id is a word that begins a skipped statement.
-/

namespace Flowchart.Chart

def Fits (limit : Int) (s : Text) : Prop := limit ≤ 3 ∨ (s.length : Int) ≤ limit

instance (limit : Int) (s : Text) : Decidable (Fits limit s) :=
  inferInstanceAs (Decidable (limit ≤ 3 ∨ (s.length : Int) ≤ limit))

def isTextMarkup (c : Char) : Bool := ['&', '#', '"', '|', '<'].contains c

/-- Trimmed lines that are not empty, free of markup; the first one opens no quote and is no
comment. -/
structure PlainText (s : Text) : Prop where
  lined : ∀ line ∈ Text.split '\n' s, line ≠ [] ∧ Text.trim line = line
  bare : ∀ c ∈ s, isTextMarkup c = false
  unquoted : s.head? ≠ some '\''
  uncommented : Text.startsWith s "%%".toList = false

instance (s : Text) : Decidable (PlainText s) :=
  decidable_of_iff
    (((Text.split '\n' s).all fun line => !line.isEmpty && Text.trim line == line) = true ∧
      (s.all fun c => !isTextMarkup c) = true ∧ s.head? ≠ some '\'' ∧
      Text.startsWith s "%%".toList = false)
    ⟨fun ⟨hlined, hbare, hquote, hcomment⟩ =>
        ⟨by simpa using hlined, Text.none_of_all hbare, hquote, hcomment⟩,
      fun h => ⟨by simpa using h.lined, Text.none_iff_all.1 h.bare, h.unquoted, h.uncommented⟩⟩

def oneLine (s : Text) : Text := s.flatMap nodeChar

theorem oneLine_cons (c : Char) (s : Text) : oneLine (c :: s) = nodeChar c ++ oneLine s :=
  List.flatMap_cons

def isMarkMarkup (c : Char) : Bool :=
  ['|', '(', ')', '[', ']', '\x7b', '\x7d', '&', '#', '"'].contains c

theorem blanks_iff_all {s : Text} :
    (∀ c ∈ s, Text.isBlank c = true → c = ' ') ↔
      (s.all fun c => !Text.isBlank c || c == ' ') = true := by
  rw [List.all_eq_true]
  refine forall₂_congr fun c _ => ?_
  cases Text.isBlank c <;> simp

/-- Words with single spaces between them, free of markup and not in quotes. -/
structure PlainMark (s : Text) : Prop where
  nonempty : s ≠ []
  trimmed : Text.trim s = s
  spaced : ∀ c ∈ s, Text.isBlank c = true → c = ' '
  single : Text.occursIn [' ', ' '] s = false
  bare : ∀ c ∈ s, isMarkMarkup c = false
  unwrapped : s.head? = some '\'' → s.getLast? = some '\'' → s.length ≤ 1

instance (s : Text) : Decidable (PlainMark s) :=
  decidable_of_iff
    ((s ≠ [] ∧ Text.trim s = s) ∧ (s.all fun c => !Text.isBlank c || c == ' ') = true ∧
      Text.occursIn [' ', ' '] s = false ∧ (s.all fun c => !isMarkMarkup c) = true ∧
      (s.head? = some '\'' → s.getLast? = some '\'' → s.length ≤ 1))
    ⟨fun ⟨⟨hne, htrim⟩, hspaced, hsingle, hbare, hwrap⟩ =>
        ⟨hne, htrim, blanks_iff_all.2 hspaced, hsingle, Text.none_of_all hbare, hwrap⟩,
      fun h => ⟨⟨h.nonempty, h.trimmed⟩, blanks_iff_all.1 h.spaced, h.single,
        Text.none_iff_all.1 h.bare, h.unwrapped⟩⟩

def PlainLabel (limit : Int) (label : Json) : Prop :=
  label.isVoid = true ∨ ∃ s, label = .str s ∧ PlainMark s ∧ Fits limit s

instance (limit : Int) (label : Json) : Decidable (PlainLabel limit label) :=
  Json.decideLabel (fun s => PlainMark s ∧ Fits limit s) label

def Styled (outlet : Outlet) : Prop :=
  outlet.metadata.isVoid = true ∨ outlet.metadata.fields?.isSome = true

instance (outlet : Outlet) : Decidable (Styled outlet) :=
  inferInstanceAs (Decidable (outlet.metadata.isVoid = true ∨ _))

structure PlainNode (limit : Int) (node : Node) : Prop where
  worded : ∃ s, node.caption = .str s ∧ PlainText s ∧ Fits limit (oneLine s)
  labelled : ∀ branch ∈ node.branches, PlainLabel limit branch.2
  keyed : ∀ outlet ∈ node.outlets, outlet.Keyed
  styled : ∀ outlet ∈ node.outlets, Styled outlet

structure PlainFlow (limit : Int) (flow : Flow) : Prop where
  untitled : flow.title.isVoid = true
  undescribed : flow.description.isVoid = true
  distinct : flow.nodeIds.Nodup
  ordinary : ∀ id ∈ flow.nodeIds, safeId id ∉ skippedWords
  started : flow.start ∈ flow.nodeIds
  resolved : ∀ node ∈ flow.nodes, ∀ outlet ∈ node.outlets, outlet.target ∈ flow.nodeIds
  nodes : ∀ node ∈ flow.nodes, PlainNode limit node

namespace PlainText

variable {s : Text} (h : PlainText s)

include h

theorem head : ∃ c rest, s = c :: rest ∧ Text.isBlank c = false := by
  obtain ⟨line, lines, hlines⟩ := List.exists_cons_of_ne_nil (Text.split_ne_nil '\n' s)
  obtain ⟨hne, htrim⟩ := h.lined line (by simp [hlines])
  have hhead : s.head? = line.head? := by
    rw [← Text.join_split '\n' s, hlines]
    exact Text.head?_join hne lines
  obtain ⟨c, line, rfl⟩ := List.exists_cons_of_ne_nil hne
  obtain ⟨rest, rfl⟩ := List.head?_eq_some_iff.1 hhead
  exact ⟨c, rest, rfl, Text.not_blank_head_of_trim htrim rfl⟩

theorem last : ∃ init c, s = init ++ [c] ∧ Text.isBlank c = false := by
  have hlines := List.dropLast_concat_getLast (Text.split_ne_nil '\n' s)
  generalize (Text.split '\n' s).getLast _ = line at hlines
  have hmem : line ∈ Text.split '\n' s := by
    rw [← hlines]
    exact List.mem_append_right _ List.mem_cons_self
  obtain ⟨hne, htrim⟩ := h.lined line hmem
  have hlast : s.getLast? = line.getLast? := by
    rw [← Text.join_split '\n' s, ← hlines]
    exact Text.getLast?_join hne _
  have hend := List.getLast?_eq_some_getLast hne
  generalize line.getLast hne = c at hend
  rw [hend] at hlast
  obtain ⟨init, rfl⟩ := List.getLast?_eq_some_iff.1 hlast
  exact ⟨init, c, rfl, Text.not_blank_last_of_trim htrim hend⟩

end PlainText

end Flowchart.Chart
