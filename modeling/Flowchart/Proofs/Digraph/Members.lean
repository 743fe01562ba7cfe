import Flowchart.Proofs.Digraph.Soundness
import Mathlib.Data.List.ProdSigma

/-!
# Members of groups

A statement of edges links every name of one end to every name of the next. A group at an end stands
for the names that stand in it, outside of groups of its own. They are all names that occur in it,
each once, exactly if groups within it add none and no node is stated under two keys.
-/

namespace Flowchart.Digraph

mutual

def Statement.names : Statement → List Text
  | .assignment .. | .defaults .. => []
  | .node id _ => if isSubject (nodeKey id) then [] else [nodeName (nodeKey id)]
  | .edges first others _ => first.names ++ namesOfTerminals others
  | .group statements => namesOfStatements statements

def Terminal.names : Terminal → List Text
  | .node id ports => [nodeName (withPorts id ports)]
  | .group statements => namesOfStatements statements

def namesOfTerminals : List Terminal → List Text
  | [] => []
  | terminal :: rest => terminal.names ++ namesOfTerminals rest

def namesOfStatements : List Statement → List Text
  | [] => []
  | statement :: rest => statement.names ++ namesOfStatements rest

end

def Statement.standing : Statement → List Text
  | .node id _ => if isSubject (nodeKey id) then [] else [nodeName (nodeKey id)]
  | .edges first others _ => terminalNames (first :: others)
  | .assignment .. | .defaults .. | .group _ => []

namespace Terminal

def standing : Terminal → List Text
  | .node id ports => [nodeName (withPorts id ports)]
  | .group statements => statements.flatMap Statement.standing

def keys : Terminal → List Text
  | .node .. => []
  | .group statements =>
    (statements.filterMap fun statement => match statement with
      | .node id _ => some (nodeKey id)
      | _ => none).eraseDups.filter (!isSubject ·)

theorem nodup_keys (terminal : Terminal) : terminal.keys.Nodup := by
  cases terminal with
  | node id ports => exact List.nodup_nil
  | group statements => exact (nodup_eraseDups _).filter _

/-- No name has two keys. -/
def Apart (terminal : Terminal) : Prop :=
  ∀ key ∈ terminal.keys, ∀ other ∈ terminal.keys, nodeName key = nodeName other → key = other

/-- No name occurs in groups within the end alone. -/
def Shallow (terminal : Terminal) : Prop := ∀ name ∈ terminal.names, name ∈ terminal.standing

instance (terminal : Terminal) : Decidable terminal.Apart :=
  inferInstanceAs (Decidable (∀ key ∈ terminal.keys, ∀ other ∈ terminal.keys,
    nodeName key = nodeName other → key = other))

instance (terminal : Terminal) : Decidable terminal.Shallow :=
  inferInstanceAs (Decidable (∀ name ∈ terminal.names, name ∈ terminal.standing))

end Terminal

theorem terminalNames_subset (terminals : List Terminal) :
    terminalNames terminals ⊆ namesOfTerminals terminals := by
  induction terminals with
  | nil => exact List.Subset.refl _
  | cons terminal rest ih =>
      cases terminal with
      | node id ports => exact List.cons_subset_cons _ ih
      | group statements => exact List.subset_append_of_subset_right _ ih

theorem Statement.standing_subset (statement : Statement) : statement.standing ⊆ statement.names := by
  cases statement with
  | assignment | defaults | group => exact List.nil_subset _
  | node id attributes => exact List.Subset.refl _
  | edges first others attributes => exact terminalNames_subset (first :: others)

theorem Terminal.standing_subset (terminal : Terminal) : terminal.standing ⊆ terminal.names := by
  cases terminal with
  | node id ports => exact List.Subset.refl _
  | group statements =>
      induction statements with
      | nil => exact List.Subset.refl _
      | cons statement rest ih =>
          refine List.append_subset.2 ⟨?_, ?_⟩
          · exact List.subset_append_of_subset_left _ statement.standing_subset
          · exact List.subset_append_of_subset_right _ ih

section Members

variable {statements : List Statement} {name : Text}

theorem statedNames_eq (statements : List Statement) :
    statedNames statements = (Terminal.group statements).keys.map nodeName := rfl

theorem members_eq (statements : List Statement) :
    members statements = (edgeNames statements).foldl enroll (statedNames statements) := by
  rw [members]
  congr 1
  funext names name
  simp [enroll]

theorem mem_statedNames :
    name ∈ statedNames statements ↔ ∃ id attributes, .node id attributes ∈ statements ∧
      isSubject (nodeKey id) = false ∧ nodeName (nodeKey id) = name := by
  rw [statedNames_eq, Terminal.keys, List.mem_map]
  constructor
  · rintro ⟨key, hkey, rfl⟩
    rw [List.mem_filter, List.mem_eraseDups, List.mem_filterMap] at hkey
    obtain ⟨⟨statement, hstatement, hsome⟩, hordinary⟩ := hkey
    cases statement with
    | node id attributes =>
        obtain rfl := Option.some.inj hsome
        exact ⟨id, attributes, hstatement, by simpa using hordinary, rfl⟩
    | assignment | defaults | edges | group => cases hsome
  · rintro ⟨id, attributes, hstatement, hordinary, rfl⟩
    refine ⟨nodeKey id, ?_, rfl⟩
    rw [List.mem_filter, List.mem_eraseDups, List.mem_filterMap]
    exact ⟨⟨_, hstatement, rfl⟩, by simp [hordinary]⟩

theorem mem_members :
    name ∈ members statements ↔ name ∈ (Terminal.group statements).standing := by
  rw [members_eq, mem_foldl_enroll, Terminal.standing, List.mem_flatMap, mem_statedNames, edgeNames,
    List.mem_flatMap]
  constructor
  · rintro (⟨id, attributes, hstatement, hordinary, rfl⟩ | ⟨statement, hstatement, hname⟩)
    · refine ⟨_, hstatement, ?_⟩
      rw [Statement.standing, if_neg (by simp [hordinary])]
      exact List.mem_singleton_self _
    · refine ⟨statement, hstatement, ?_⟩
      cases statement with
      | edges first others attributes => exact hname
      | assignment | defaults | node | group => exact absurd hname List.not_mem_nil
  · rintro ⟨statement, hstatement, hname⟩
    cases statement with
    | node id attributes =>
        rw [Statement.standing] at hname
        split at hname
        · exact absurd hname List.not_mem_nil
        · rename_i hordinary
          exact .inl ⟨id, attributes, hstatement, by simpa using hordinary,
            (List.mem_singleton.1 hname).symm⟩
    | edges first others attributes => exact .inr ⟨_, hstatement, hname⟩
    | assignment | defaults | group => exact absurd hname List.not_mem_nil

theorem nodup_members : (members statements).Nodup ↔ (Terminal.group statements).Apart := by
  rw [members_eq, statedNames_eq]
  constructor
  · intro h key hkey other hother heq
    have hstated := (sublist_foldl_enroll _ _).nodup h
    exact List.inj_on_of_nodup_map hstated hkey hother heq
  · intro h
    exact nodup_foldl_enroll ((Terminal.nodup_keys _).map_on h)

end Members

namespace Terminal

variable (terminal : Terminal)

theorem mem_namesOf {name : Text} : name ∈ namesOf terminal ↔ name ∈ terminal.standing := by
  cases terminal with
  | node id ports => exact Iff.rfl
  | group statements => exact mem_members

theorem nodup_namesOf : (namesOf terminal).Nodup ↔ terminal.Apart := by
  cases terminal with
  | node id ports =>
      exact iff_of_true (List.nodup_singleton _) fun _ h => absurd h List.not_mem_nil
  | group statements => exact nodup_members

/-- An end stands for all names that occur in it exactly if none occurs in inner groups alone. -/
theorem shallow_iff : terminal.Shallow ↔ ∀ name, name ∈ namesOf terminal ↔ name ∈ terminal.names := by
  simp only [mem_namesOf]
  exact ⟨fun h name => ⟨fun hname => terminal.standing_subset hname, h name⟩,
    fun h name hname => (h name).2 hname⟩

end Terminal

def linksBetween (label : Option Text) (ends : Terminal × Terminal) : List Link :=
  (namesOf ends.1).flatMap fun source => (namesOf ends.2).map fun target => ⟨source, target, label⟩

mutual

def Statement.links : Statement → List Link
  | .assignment .. | .defaults .. | .node .. => []
  | .edges first others attributes =>
    ((first :: others).zip others).flatMap (linksBetween (labelOf attributes))
  | .group statements => linksOfStatements statements

def linksOfStatements : List Statement → List Link
  | [] => []
  | statement :: rest => statement.links ++ linksOfStatements rest

end

theorem mem_linksBetween {label : Option Text} {ends : Terminal × Terminal} {link : Link} :
    link ∈ linksBetween label ends ↔
      link.label = label ∧ link.source ∈ namesOf ends.1 ∧ link.target ∈ namesOf ends.2 := by
  simp only [linksBetween, List.mem_flatMap, List.mem_map]
  constructor
  · rintro ⟨source, hsource, target, htarget, rfl⟩
    exact ⟨rfl, hsource, htarget⟩
  · rintro ⟨rfl, hsource, htarget⟩
    exact ⟨link.source, hsource, link.target, htarget, rfl⟩

theorem nodup_linksBetween {label : Option Text} {ends : Terminal × Terminal}
    (hsource : (namesOf ends.1).Nodup) (htarget : (namesOf ends.2).Nodup) :
    (linksBetween label ends).Nodup := by
  have hpairs : linksBetween label ends =
      (List.product (namesOf ends.1) (namesOf ends.2)).map fun pair => ⟨pair.1, pair.2, label⟩ := by
    simp [linksBetween, List.product, List.map_flatMap, Function.comp_def]
  rw [hpairs]
  refine (hsource.product htarget).map fun pair other heq => ?_
  obtain ⟨hfirst, hsecond, -⟩ := Link.mk.inj heq
  exact Prod.ext hfirst hsecond

namespace Draft

theorem links_foldl (links : List Link) (draft : Draft) :
    (links.foldl addLink draft).links = draft.links ++ links := by
  induction links generalizing draft with
  | nil => exact (List.append_nil _).symm
  | cons link links ih => rw [List.foldl_cons, ih, addLink, List.append_assoc]; rfl

theorem links_addEdges (label : Option Text) (draft : Draft) (first : Terminal)
    (others : List Terminal) :
    (draft.addEdges label first others).links =
      draft.links ++ ((first :: others).zip others).flatMap (linksBetween label) := by
  induction others generalizing draft first with
  | nil => exact (List.append_nil _).symm
  | cons next rest ih =>
      rw [addEdges, ih, links_foldl, List.zip_cons_cons, List.flatMap_cons, List.append_assoc]
      rfl

mutual

theorem links_addStatement (draft : Draft) (statement : Statement) :
    (draft.addStatement statement).links = draft.links ++ statement.links := by
  cases statement with
  | assignment | defaults => exact (List.append_nil _).symm
  | node id attributes =>
      rw [addStatement]
      split <;> exact (List.append_nil _).symm
  | edges first others attributes => exact draft.links_addEdges _ first others
  | group statements => exact draft.links_addStatements statements

theorem links_addStatements (draft : Draft) (statements : List Statement) :
    (draft.addStatements statements).links = draft.links ++ linksOfStatements statements := by
  cases statements with
  | nil => exact (List.append_nil _).symm
  | cons statement rest =>
      rw [addStatements, (draft.addStatement statement).links_addStatements rest,
        draft.links_addStatement statement, linksOfStatements, List.append_assoc]

end

end Draft

/-- The links of a drawing are those of its statements. Between two ends that follow each other
there is one link for each name in the one and each name in the other, provided that the ends stand
for the names that occur in them, each once; and they do so exactly if no node is stated under two
keys and no name occurs in inner groups alone. -/
theorem links_draft (drawing : Drawing) :
    drawing.draft.links = linksOfStatements drawing.statements ∧
    (∀ terminal : Terminal, ((namesOf terminal).Nodup ↔ terminal.Apart) ∧
      ((∀ name, name ∈ namesOf terminal ↔ name ∈ terminal.names) ↔ terminal.Shallow)) ∧
    ∀ (label : Option Text) (source target : Terminal), source.Apart → source.Shallow →
      target.Apart → target.Shallow → ∀ link : Link,
        (linksBetween label (source, target)).count link =
          if link.label = label ∧ link.source ∈ source.names ∧ link.target ∈ target.names then 1
          else 0 := by
  refine ⟨Draft.links_addStatements {} drawing.statements,
    fun terminal => ⟨terminal.nodup_namesOf, terminal.shallow_iff.symm⟩, ?_⟩
  intro label source target hsource hdeep htarget hdeep' link
  have hnodup : (linksBetween label (source, target)).Nodup :=
    nodup_linksBetween (source.nodup_namesOf.2 hsource) (target.nodup_namesOf.2 htarget)
  have hmem : link ∈ linksBetween label (source, target) ↔
      link.label = label ∧ link.source ∈ source.names ∧ link.target ∈ target.names := by
    rw [mem_linksBetween, source.shallow_iff.1 hdeep, target.shallow_iff.1 hdeep']
  simp only [← hmem]
  exact hnodup.count

/-- Defaults, a node in quotes that an edge names again, a port, and a name that also occurs in an
inner group. -/
def crossing : Terminal :=
  .group [.defaults .node [], .node "\"b c\"".toList [],
    .edges (.node ['d'] [['p']]) [.node "\"b c\"".toList []] [], .group [.node ['d'] []]]

theorem links_draft_crossing :
    (⟨"digraph".toList, none, [.edges (.node ['a'] []) [crossing] []]⟩ : Drawing).draft.links =
        linksOfStatements [.edges (.node ['a'] []) [crossing] []] ∧
      crossing.Apart ∧ crossing.Shallow ∧
      (linksBetween none (.node ['a'] [], crossing)).count ⟨['a'], "b c".toList, none⟩ = 1 := by
  have hapart : crossing.Apart := by decide
  have hshallow : crossing.Shallow := by decide
  obtain ⟨hlinks, -, hcount⟩ := links_draft ⟨"digraph".toList, none,
    [.edges (.node ['a'] []) [crossing] []]⟩
  refine ⟨hlinks, hapart, hshallow, ?_⟩
  exact (hcount none (.node ['a'] []) crossing (by decide) (by decide) hapart hshallow _).trans
    (if_pos (by decide))

end Flowchart.Digraph
