import Mathlib.Data.List.TakeWhile
import Flowchart.Proofs.Caption
import Flowchart.Proofs.Digraph.Soundness
import Flowchart.Proofs.Digraph.Statements

/-!
# Drafts of digraphs

Statements of nodes draft them in their order, and statements of edges between drafted nodes add
nothing but links. What stands in a statement may be more than the name it stands for, such as one
in quotes. Ids that are names stand for themselves, and stay what they are.
-/

namespace Flowchart.Digraph

theorem takeWhile_colon {s : Text} (h : ':' ∉ s) : s.takeWhile (· != ':') = s := by
  rw [List.takeWhile_eq_self_iff]
  intro c hc
  simpa using fun heq : c = ':' => h (heq ▸ hc)

theorem nodeName_append {word rest : Text} (hne : word ≠ [])
    (hword : ∀ c ∈ word, Text.isBlank c = false ∧ c ≠ '"' ∧ c ≠ ':')
    (hrest : rest = [] ∨ ∃ ports, rest = ':' :: ports) : nodeName (word ++ rest) = word := by
  obtain ⟨c, tail, rfl⟩ := List.exists_cons_of_ne_nil hne
  obtain ⟨hblank, hquote, -⟩ := hword c List.mem_cons_self
  have hcolon : ∀ d ∈ c :: tail, (d != ':') = true := fun d hd => bne_iff_ne.2 (hword d hd).2.2
  have hkept : ∃ kept, Text.trim (c :: tail ++ rest) = c :: tail ++ kept ∧
      ∀ d, kept.head? = some d → (d != ':') = false := by
    rcases hrest with rfl | ⟨ports, rfl⟩
    · refine ⟨[], ?_, by simp⟩
      rw [List.append_nil]
      exact Text.trim_eq_self (fun d hd => (hword d (List.mem_of_mem_head? hd)).1)
        fun d hd => (hword d (List.mem_of_getLast? hd)).1
    · refine ⟨':' :: Text.trimRight ports, ?_, by simp⟩
      rw [Text.trim, List.cons_append, Text.trimLeft_cons hblank, ← List.cons_append,
        Text.trimRight_append_cons (by decide)]
  obtain ⟨kept, htrim, hends⟩ := hkept
  rw [nodeName, htrim]
  simp only [(Text.run_append hcolon hends).1]
  simp [hquote]

section Plain

variable {word : Text} (h : ∀ c ∈ word, UniqueIds.isPlain c = true ∨ c = '.')

include h

theorem plain_not_mem {c : Char} (hc : UniqueIds.isPlain c = false) (hpoint : c ≠ '.') :
    c ∉ word := by
  intro hmem
  rcases h c hmem with hplain | heq
  · simp [hplain] at hc
  · exact hpoint heq

theorem nodeKey_of_plain : nodeKey word = word := by
  unfold nodeKey
  split
  · rfl
  · exact takeWhile_colon (plain_not_mem h (by decide) (by decide))

theorem nodeName_of_plain : nodeName word = word := by
  rcases eq_or_ne word [] with rfl | hne
  · rfl
  · have hword : ∀ c ∈ word, Text.isBlank c = false ∧ c ≠ '"' ∧ c ≠ ':' := fun c hc => by
      rcases h c hc with hplain | rfl
      · exact ⟨UniqueIds.not_blank_of_isPlain hplain, Text.ne_of_class hplain (by decide),
          Text.ne_of_class hplain (by decide)⟩
      · decide
    have hname := nodeName_append hne hword (.inl rfl)
    rwa [List.append_nil] at hname

end Plain

namespace Ident

variable {id : Text} (h : Ident id)

include h

theorem plain : ∀ c ∈ id, UniqueIds.isPlain c = true ∨ c = '.' :=
  fun c hc => .inl (isPlain_of_isNameChar (h.chars c hc))

theorem nodeKey : nodeKey id = id := nodeKey_of_plain h.plain

theorem nodeName : nodeName id = id := nodeName_of_plain h.plain

theorem not_subject : isSubject id = false := by
  have hlower : ∀ subject ∈ Subject.all, subject.word.map Char.toLower ∈ keywords := by decide
  rw [isSubject, List.any_eq_false]
  intro subject hsubject heq
  have hkeyword := h.ordinary
  rw [← eq_of_beq heq, isKeyword] at hkeyword
  simp [hlower subject hsubject] at hkeyword

theorem sanitize : UniqueIds.sanitize id = id :=
  UniqueIds.sanitize_eq_self h.word.nonempty fun c hc => isPlain_of_isNameChar (h.chars c hc)

end Ident

/-- A word that is read as an id, and names a node. -/
structure Stands (word name : Text) : Prop extends Named word where
  key : nodeKey word = word
  ordinary : isSubject word = false
  named : nodeName word = name

theorem Stands.namesOf {word name : Text} (h : Stands word name) :
    namesOf (.node word []) = [name] := by
  rw [Digraph.namesOf, withPorts, List.flatMap_nil, List.append_nil, h.named]

theorem Ident.stands {id : Text} (h : Ident id) : Stands id id where
  toNamed := h.named
  key := h.nodeKey
  ordinary := h.not_subject
  named := h.nodeName

namespace Draft

section AddNode

variable {name : Text} {nodes : List (Text × Option Text)}

theorem addNode_of_not_mem (h : name ∉ nodes.map Prod.fst) (label : Option Text) :
    addNode name label nodes = nodes ++ [(name, label)] := by
  induction nodes with
  | nil => rfl
  | cons known nodes ih =>
      rw [List.map_cons, List.mem_cons, not_or] at h
      rw [addNode, if_neg (Ne.symm h.1), ih h.2, List.cons_append]

theorem addNode_of_mem (h : name ∈ nodes.map Prod.fst) : addNode name none nodes = nodes := by
  induction nodes with
  | nil => exact absurd h List.not_mem_nil
  | cons known nodes ih =>
      rw [addNode]
      by_cases heq : known.1 = name
      · simp [heq]
      · rw [if_neg heq, ih (List.mem_of_ne_of_mem (Ne.symm heq) h)]

end AddNode

theorem addStatements_append (draft : Draft) (before after : List Statement) :
    draft.addStatements (before ++ after) = (draft.addStatements before).addStatements after := by
  induction before generalizing draft with
  | nil => rfl
  | cons statement before ih => exact ih (draft.addStatement statement)

theorem addStatements_nodes {α : Type} (word name : α → Text) (attributes : α → Attributes)
    {as : List α} (hstands : ∀ a ∈ as, Stands (word a) (name a)) (hnodup : (as.map name).Nodup)
    (draft : Draft) (hfresh : ∀ a ∈ as, name a ∉ draft.names) :
    draft.addStatements (as.map fun a => .node (word a) (attributes a)) =
      { draft with nodes := draft.nodes ++ as.map fun a => (name a, labelOf (attributes a)) } := by
  induction as generalizing draft with
  | nil => simp [addStatements]
  | cons a as ih =>
      obtain ⟨ha, has⟩ := List.forall_mem_cons.1 hstands
      obtain ⟨hnew, hothers⟩ := List.forall_mem_cons.1 hfresh
      rw [List.map_cons, List.nodup_cons] at hnodup
      have hstep : draft.addStatement (.node (word a) (attributes a)) =
          { draft with nodes := draft.nodes ++ [(name a, labelOf (attributes a))] } := by
        rw [addStatement, ha.key, ha.ordinary, ha.named, addNode_of_not_mem hnew]
        rfl
      rw [List.map_cons, addStatements, hstep, ih has hnodup.2]
      · simp
      · intro b hb hmem
        rw [names, List.map_append, List.mem_append] at hmem
        rcases hmem with hmem | hmem
        · exact hothers b hb hmem
        · have heq : name b = name a := List.mem_singleton.1 hmem
          exact hnodup.1 (heq ▸ List.mem_map_of_mem hb)

theorem addLink_of_mem {draft : Draft} {link : Link} (hsource : link.source ∈ draft.names)
    (htarget : link.target ∈ draft.names) :
    draft.addLink link = { draft with links := draft.links ++ [link] } := by
  rw [addLink, addNode_of_mem hsource, addNode_of_mem htarget]

theorem addStatements_edges {α : Type} (source target : α → Text × Text)
    (attributes : α → Attributes) {as : List α}
    (hstands : ∀ a ∈ as, Stands (source a).1 (source a).2 ∧ Stands (target a).1 (target a).2)
    (draft : Draft)
    (hnames : ∀ a ∈ as, (source a).2 ∈ draft.names ∧ (target a).2 ∈ draft.names) :
    draft.addStatements
        (as.map fun a =>
          .edges (.node (source a).1 []) [.node (target a).1 []] (attributes a)) =
      { draft with
        links := draft.links ++ as.map fun a =>
          (⟨(source a).2, (target a).2, labelOf (attributes a)⟩ : Link) } := by
  induction as generalizing draft with
  | nil => simp [addStatements]
  | cons a as ih =>
      obtain ⟨⟨hsource, htarget⟩, has⟩ := List.forall_mem_cons.1 hstands
      obtain ⟨⟨hmem, hmem'⟩, hothers⟩ := List.forall_mem_cons.1 hnames
      have hstep : draft.addStatement
          (.edges (.node (source a).1 []) [.node (target a).1 []] (attributes a)) =
            { draft with
              links := draft.links ++
                [⟨(source a).2, (target a).2, labelOf (attributes a)⟩] } := by
        rw [addStatement, addEdges, hsource.namesOf, htarget.namesOf]
        exact addLink_of_mem hmem hmem'
      have hrest := ih has
        ⟨draft.nodes,
          draft.links ++ [⟨(source a).2, (target a).2, labelOf (attributes a)⟩]⟩ hothers
      rw [List.map_cons, addStatements, hstep, hrest]
      simp

theorem idOf_idsOf {draft : Draft} (hident : ∀ name ∈ draft.names, Ident name)
    (hdistinct : draft.names.Nodup) {name : Text} (h : name ∈ draft.names) :
    draft.idsOf.idOf name = name := by
  have hids : draft.idsOf = draft.names.map fun name => (name, name) :=
    UniqueIds.addAll_eq_self hdistinct fun name hname => (hident name hname).sanitize
  rw [hids]
  exact UniqueIds.idOf_self h

theorem content_node (draft : Draft) (ids : UniqueIds) (name : Text) (label : Option Text) :
    (draft.node ids name label).content = .str (caption name label).content := by
  rw [node, Node.kept_foldl Node.content]
  intro node link
  rfl

theorem outlets_node (draft : Draft) (ids : UniqueIds) (name : Text) (label : Option Text) :
    (draft.node ids name label).outlets.map (fun outlet => (outlet.target, outlet.label)) =
      (draft.links.filter (·.source = name)).map fun link =>
        (ids.idOf link.target, (Json.ofText? link.label).orElse .null) := by
  rw [node, Node.map_outlets_foldl (fun outlet => (outlet.target, outlet.label)) fun link : Link =>
    (ids.idOf link.target, (Json.ofText? link.label).orElse .null)]
  · rfl
  · intro node link
    simp [Node.addOutlet, Node.nextOutlet]

theorem caption_of_lined {s : Text} (h : s.Lined) (hopen : '<' ∉ s) (name : Text) :
    caption name (some s) = ⟨(Text.split '\n' s).headD [], s⟩ := by
  have hne : s ≠ [] := by
    rintro rfl
    exact (h [] List.mem_cons_self).1 rfl
  rw [caption, ← Caption.ofText_of_lined h hopen]
  simp [Option.filter, hne]

end Draft

end Flowchart.Digraph
