import Flowchart.Proofs.Chart.Dashed
import Flowchart.Proofs.Chart.Wording

/-!
# Documents

What a chart may be made of: a header, and lines that each hold a chain of groups of nodes with
connectors between them. Every document has its text, and says what stands in its sheet.
-/

namespace Flowchart.Chart

structure Unmarked (marks : List Char) (s : Text) : Prop where
  nonempty : s ≠ []
  trimmed : Text.trim s = s
  bare : ∀ c ∈ s, c ∉ marks

instance (marks : List Char) (s : Text) : Decidable (Unmarked marks s) :=
  decidable_of_iff (s ≠ [] ∧ Text.trim s = s ∧ (s.all fun c => !marks.contains c) = true)
    ⟨fun ⟨hne, htrim, hbare⟩ => ⟨hne, htrim, by simpa using hbare⟩,
      fun h => ⟨h.nonempty, h.trimmed, by simpa using h.bare⟩⟩

def textMarks : List Char := ['"', '&', '#', '\n']

def labelMarks : List Char := ['|', '&', '#', '"', '\'', '\n']

structure NodeRef where
  id : Text
  shaped : Option (Shape × Text) := none
  deriving DecidableEq, Repr

namespace NodeRef

def bracketed (shaped : Shape × Text) : Text :=
  shaped.1.opener ++ '"' :: shaped.2 ++ '"' :: shaped.1.closer

def text (ref : NodeRef) : Text := ref.id ++ (ref.shaped.map bracketed).getD []

def mention (ref : NodeRef) : Mention where
  id := ref.id
  text := ref.shaped.map Prod.snd
  shape := (ref.shaped.map Prod.fst).getD .rectangle

structure Regular (ref : NodeRef) : Prop where
  dashed : IsDashed ref.id
  worded : ∀ shaped ∈ ref.shaped, Unmarked textMarks shaped.2 ∧ ¬ IsWrapped shaped.2

instance (ref : NodeRef) : Decidable ref.Regular :=
  decidable_of_iff
    (IsDashed ref.id ∧
      ∀ shaped ∈ ref.shaped, Unmarked textMarks shaped.2 ∧ ¬ IsWrapped shaped.2)
    ⟨fun ⟨hdashed, hworded⟩ => ⟨hdashed, hworded⟩, fun h => ⟨h.dashed, h.worded⟩⟩

end NodeRef

/-- The kinds of lines between groups, with a head or without. -/
inductive Rod where
  | arrow
  | thick
  | dotted
  | line
  | thickLine
  | dottedLine
  deriving DecidableEq, Repr

namespace Rod

def text (extra : Nat) : Rod → Text
  | arrow => List.replicate (extra + 2) '-' ++ ['>']
  | thick => List.replicate (extra + 2) '=' ++ ['>']
  | dotted => '-' :: List.replicate (extra + 1) '.' ++ ['-', '>']
  | line => List.replicate (extra + 3) '-'
  | thickLine => List.replicate (extra + 3) '='
  | dottedLine => '-' :: List.replicate (extra + 1) '.' ++ ['-']

def style : Rod → EdgeStyle
  | arrow => .arrow
  | thick | thickLine => .thick
  | dotted | dottedLine => .dotted
  | line => .line

end Rod

/-- The lines with a head, which may have a label inside. -/
inductive Shaft where
  | arrow
  | thick
  | dotted
  deriving DecidableEq, Repr

namespace Shaft

def opening : Shaft → Text
  | arrow => ['-', '-']
  | thick => ['=', '=']
  | dotted => ['-', '.']

def closing (extra : Nat) : Shaft → Text
  | arrow => List.replicate (extra + 2) '-' ++ ['>']
  | thick => List.replicate (extra + 2) '=' ++ ['>']
  | dotted => '.' :: List.replicate (extra + 1) '-' ++ ['>']

def style : Shaft → EdgeStyle
  | arrow => .arrow
  | thick => .thick
  | dotted => .dotted

/-- Nowhere in the label is a gap followed by what would close the line. -/
def Spares (shaft : Shaft) (label : Text) : Prop :=
  ∀ gap extra, Text.isGap gap = true → ¬ gap :: shaft.closing extra <:+: label

end Shaft

/-- A connector: a line with a label between bars or none, or one with a label inside. -/
inductive Tie where
  | plain (rod : Rod) (extra : Nat) (label : Option Text)
  | inner (shaft : Shaft) (extra : Nat) (label : Text)
  deriving DecidableEq, Repr

namespace Tie

def barred (label : Text) : Text := '|' :: label ++ ['|']

def text : Tie → Text
  | plain rod extra label => rod.text extra ++ (label.map barred).getD []
  | inner shaft extra label => shaft.opening ++ ' ' :: label ++ ' ' :: shaft.closing extra

def style : Tie → EdgeStyle
  | plain rod _ _ => rod.style
  | inner shaft _ _ => shaft.style

def label : Tie → Option Text
  | plain _ _ label => label
  | inner _ _ label => some label

def Regular : Tie → Prop
  | plain _ _ label => ∀ s ∈ label, Unmarked labelMarks s
  | inner shaft _ label => Unmarked labelMarks label ∧ shaft.Spares label

end Tie

structure Group where
  first : NodeRef
  others : List NodeRef := []
  deriving DecidableEq, Repr

namespace Group

def refs (group : Group) : List NodeRef := group.first :: group.others

def text (group : Group) : Text := Text.join " & ".toList (group.refs.map NodeRef.text)

def mentions (group : Group) : List Mention := group.refs.map NodeRef.mention

end Group

structure Chain where
  first : Group
  links : List (Tie × Group) := []
  deriving DecidableEq, Repr

namespace Chain

def linkText (link : Tie × Group) : Text := ' ' :: link.1.text ++ ' ' :: link.2.text

def text (chain : Chain) : Text := chain.first.text ++ chain.links.flatMap linkText

def groups (chain : Chain) : List Group := chain.first :: chain.links.map Prod.snd

def mentions (chain : Chain) : List Mention := chain.groups.flatMap Group.mentions

/-- The edges of a connector: from every node before it to every node behind it. -/
def product (source : Group) (link : Tie × Group) : List Link :=
  source.refs.flatMap fun a => link.2.refs.map fun b =>
    ⟨a.id, b.id, link.1.label, link.1.style⟩

def edges (chain : Chain) : List Link :=
  (chain.groups.zip chain.links).flatMap fun pair => product pair.1 pair.2

structure Regular (chain : Chain) : Prop where
  refs : ∀ group ∈ chain.groups, ∀ ref ∈ group.refs, ref.Regular
  ties : ∀ link ∈ chain.links, link.1.Regular
  ordinary : ¬ IsReserved chain.first.first.id

end Chain

structure Document.Row where
  indent : Nat := 4
  chain : Chain
  deriving DecidableEq, Repr

def Document.Row.text (row : Document.Row) : Text := Text.spaces row.indent ++ row.chain.text

/-- The word that begins a chart and the word for its direction, both in any case. -/
structure Heading where
  keyword : Text
  gap : Nat := 0
  way : Text
  deriving DecidableEq, Repr

namespace Heading

def text (heading : Heading) : Text :=
  heading.keyword ++ Text.spaces (heading.gap + 1) ++ heading.way

def direction (heading : Heading) : Direction := (Direction.ofWord? heading.way).getD .td

structure Regular (heading : Heading) : Prop where
  opens : heading.keyword.map Char.toLower ∈ ["flowchart".toList, "graph".toList]
  short : heading.way.length = 2
  known : (Direction.ofWord? heading.way).isSome

instance (heading : Heading) : Decidable heading.Regular :=
  decidable_of_iff
    (["flowchart".toList, "graph".toList].contains (heading.keyword.map Char.toLower) = true ∧
      heading.way.length = 2 ∧ (Direction.ofWord? heading.way).isSome)
    ⟨fun ⟨hopens, hshort, hknown⟩ => ⟨List.contains_iff_mem.1 hopens, hshort, hknown⟩,
      fun h => ⟨List.contains_iff_mem.2 h.opens, h.short, h.known⟩⟩

end Heading

structure Document where
  heading : Heading
  rows : List Document.Row
  deriving DecidableEq, Repr

namespace Document

def text (document : Document) : Text :=
  Text.join ['\n'] (document.heading.text :: document.rows.map Document.Row.text)

/-- What an id is shown with: the first text that it is mentioned with, and the shape around
that. -/
def entry (mentions : List Mention) (id : Text) : Mention :=
  (mentions.find? fun mention => mention.id = id ∧ mention.text.isSome).getD { id := id }

def entries (mentions : List Mention) : List Mention :=
  (mentions.map Mention.id).eraseDups.map (entry mentions)

def sheet (document : Document) : Sheet where
  direction := document.heading.direction
  mentions := entries (document.rows.flatMap fun row => row.chain.mentions)
  links := document.rows.flatMap fun row => row.chain.edges

structure Regular (document : Document) : Prop where
  headed : document.heading.Regular
  rows : ∀ row ∈ document.rows, row.chain.Regular

end Document

end Flowchart.Chart
