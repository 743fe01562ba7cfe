import Flowchart.Proofs.Chart.Headings
import Flowchart.Proofs.Chart.Persistence
import Flowchart.Proofs.Chart.Remainder
import Mathlib.Data.List.Infix

/-!
# Statements in one line

Statements may stand beside each other with semicolons between them.  They are read as if each had
a line of its own, up to a statement that is passed over, which takes in the rest of the line, as a
header does.
-/

namespace Flowchart.Chart

theorem labelledArrows_eq : labelledArrows = [Shaft.arrow, .thick, .dotted].map fun shaft =>
    (shaft.style, shaft.opening, shaft.stroke) := rfl

theorem Shaft.innerLabel?_other {shaft : Shaft} {s rest : Text}
    (h : Text.after? shaft.opening s = some rest) (other : Shaft) (hne : other ≠ shaft) :
    innerLabel? other.opening other.stroke s = none := by
  obtain rfl := Text.eq_append_of_after? h
  have hopening : Text.after? other.opening (shaft.opening ++ rest) = none := by
    cases shaft <;> cases other <;> first | exact absurd rfl hne | rfl
  rw [innerLabel?, hopening]

theorem labelled?_eq_some_iff {s rest : Text} {connector : Connector} :
    labelled? s = some (connector, rest) ↔ ∃ shaft : Shaft, connector.style = shaft.style ∧
      innerLabel? shaft.opening shaft.stroke s = some (connector.label, rest) := by
  obtain ⟨style, label⟩ := connector
  rw [labelled?, labelledArrows_eq, List.findSome?_map]
  constructor
  · intro h
    obtain ⟨shaft, -, h⟩ := List.exists_of_findSome?_eq_some h
    obtain ⟨r, hr, heq⟩ := Option.map_eq_some_iff.1 h
    obtain ⟨hconnector, rfl⟩ := Prod.mk.inj heq
    obtain ⟨rfl, rfl⟩ := Connector.mk.inj hconnector
    exact ⟨shaft, rfl, hr⟩
  · rintro ⟨shaft, rfl, h⟩
    obtain ⟨inside, hinside⟩ : ∃ inside, Text.after? shaft.opening s = some inside := by
      rw [← Option.isSome_iff_exists, Option.isSome_iff_ne_none]
      intro hnone
      rw [innerLabel?, hnone] at h
      cases h
    have hothers := Shaft.innerLabel?_other hinside
    cases shaft <;> simp [h, hothers]

theorem Shaft.chars_stroke (shaft : Shaft) : ∀ c ∈ shaft.stroke.chars, c ∉ terminators := by
  cases shaft <;> decide

/-- A label that is more than a gap is found at the first place where it can end. -/
theorem Detached.innerLabel?_append {u : Text} (hu : Detached u) {shaft : Shaft}
    {s label rest : Text} (h : innerLabel? shaft.opening shaft.stroke s = some (label, rest))
    (hspoken : label ≠ []) :
    innerLabel? shaft.opening shaft.stroke (s ++ u) = some (label, rest ++ u) := by
  have hopening : ∀ c ∈ shaft.opening, c ∉ terminators := by cases shaft <;> decide
  have hgaps : ∀ c, u.head? = some c → Text.isGap c = false :=
    fun _ => hu.fails (by decide)
  unfold innerLabel? at h
  rw [innerLabel?, hu.after?_append hopening]
  split at h
  · cases h
  · rename_i inside hinside
    rw [hinside, Option.map_some]
    dsimp only at h ⊢
    rw [Text.takeWhile_append_of_head hgaps, hu.skipGaps_append]
    split at h
    · cases h
    · rw [if_neg ‹_›]
      split at h
      · rename_i r hr
        obtain rfl := Option.some.inj h
        rw [hu.labelBefore?_append shaft.chars_stroke hr]
      · split at h
        · obtain ⟨after, -, heq⟩ := Option.map_eq_some_iff.1 h
          exact absurd (Prod.mk.inj heq).1.symm hspoken
        · cases h

/-- A text that is read to its end, without separators or comments.  Arrows around a gap alone are
left out: they may take in an arrow that stands behind the text. -/
structure Item (s : Text) : Prop where
  plain : ∀ c ∈ s, c ∉ terminators
  uncommented : ¬ "%%".toList <:+: s
  spoken : ∀ t, t <:+ s → ∀ r ∈ labelled? t, r.1.label ≠ []
  whole : (Line.read s).ending = .complete

/-- What begins with a word that has no say takes in the rest of its line. -/
def opensSkipped (s : Text) : Bool := isSkipped (skipBlanks s)

section Item

variable {s : Text} (h : Item s)

include h

theorem Item.steady {u : Text} (hu : Detached u) : Steady u s := by
  intro t connector rest ht hlabelled
  have hspoken := h.spoken t ht _ hlabelled
  obtain ⟨shaft, hstyle, hinner⟩ := labelled?_eq_some_iff.1 hlabelled
  exact labelled?_eq_some_iff.2 ⟨shaft, hstyle, hu.innerLabel?_append hinner hspoken⟩

theorem Item.skipBlanks_append {u t : Text} (hu : Detached u) (ht : t <:+ s) :
    skipBlanks (t ++ u) = skipBlanks t ++ u := by
  rw [hu.skipBlanks_append, if_neg]
  intro hcomment
  obtain ⟨rest, hrest⟩ := Option.isSome_iff_exists.1 hcomment
  have hinside : "%%".toList <:+: Text.skipGaps t :=
    ⟨[], rest, (Text.eq_append_of_after? hrest).symm⟩
  exact h.uncommented (hinside.trans ((List.dropWhile_suffix _).trans ht).isInfix)

theorem Item.not_separator {t : Text} (ht : t <:+ s) : ∀ c ∈ t, isSeparator c = false := by
  intro c hc
  have hplain := h.plain c (ht.subset hc)
  simp only [terminators, List.mem_cons, List.not_mem_nil, or_false, not_or] at hplain
  exact Chart.not_separator hplain.1 hplain.2.1

theorem Item.blank_of_complete {t : Text} (ht : t <:+ s)
    (hwhole : (Line.readFrom false t).ending = .complete) : skipBlanks t = [] :=
  Line.blank_of_complete hwhole (h.not_separator ht)

end Item

/-- What two lines say one after the other, if the first ends well. -/
def Line.beside (line next : Line) : Line := ⟨line.statements ++ next.statements, next.ending⟩

theorem connector?_semicolon {t : Text} (v : Text) (h : skipBlanks t = ';' :: v) :
    connector? t = .ok none := by
  rw [connector?, h]
  rfl

section Item

variable {s : Text} (h : Item s) (v : Text)

include h

theorem Item.readFrom_of_blank {t : Text} (ht : t <:+ s) (hblank : skipBlanks t = [])
    (free : Bool) : Line.readFrom free (t ++ ';' :: v) = Line.read v := by
  refine Line.readFrom_of_separator (c := ';') ?_ rfl
  rw [h.skipBlanks_append (detached_cons (by decide) v) ht, hblank, List.nil_append]

theorem Item.begun_append {t : Text} (ht : t <:+ s)
    (hwhole : (Line.begun (Statement.read? t)).ending = .complete) :
    Line.begun (Statement.read? (t ++ ';' :: v)) =
      (Line.begun (Statement.read? t)).beside (Line.read v) := by
  have hu : Detached (';' :: v) := detached_cons (by decide) v
  cases hread : Statement.read? t with
  | error fault =>
      rw [hread] at hwhole
      cases hwhole
  | ok found =>
      cases found with
      | none =>
          rw [hread] at hwhole
          cases hwhole
      | some found =>
          obtain ⟨statement, after⟩ := found
          have hafter := (Statement.suffix_of_read? hread).trans ht
          rw [hread] at hwhole
          have hblank := h.blank_of_complete hafter hwhole
          have hlast : skipBlanks (after ++ ';' :: v) = ';' :: v := by
            rw [h.skipBlanks_append hu hafter, hblank, List.nil_append]
          rw [hu.read?_append ((h.steady hu).of_suffix ht) hread
            fun _ => connector?_semicolon v hlast]
          simp only [Line.begun, h.readFrom_of_blank v hafter hblank,
            Line.readFrom_of_blank hblank]
          rfl

/-- An item is read as on a line of its own, and reading goes on behind the semicolon unless the
item is passed over. -/
theorem Item.read_append :
    Line.read (s ++ ';' :: v) =
      if opensSkipped s then {} else (Line.read s).beside (Line.read v) := by
  have hu : Detached (';' :: v) := detached_cons (by decide) v
  have hwhole := h.whole
  rw [opensSkipped]
  unfold Line.read at hwhole ⊢
  cases hblanks : skipBlanks s with
  | nil =>
      rw [h.readFrom_of_blank v List.suffix_rfl hblanks, Line.readFrom_of_blank hblanks]
      rfl
  | cons c rest =>
      have hsuffix : c :: rest <:+ s := hblanks ▸ suffix_skipBlanks s
      have hc := h.not_separator hsuffix c List.mem_cons_self
      have hbehind : skipBlanks (s ++ ';' :: v) = c :: (rest ++ ';' :: v) := by
        rw [h.skipBlanks_append hu List.suffix_rfl, hblanks, List.cons_append]
      have hskip := hu.isSkipped_append (c :: rest)
      have hendings := hu.afterEnd?_append (c :: rest)
      cases hskipped : isSkipped (c :: rest) with
      | true => rw [Line.readFrom_of_skipped hbehind hc (hskip.trans hskipped), if_pos rfl]
      | false =>
          rw [if_neg Bool.false_ne_true]
          cases hend : afterEnd? (c :: rest) with
          -- Behind the word `end` nothing but blanks is left of a whole item.
          | some after =>
              have hafter : after <:+ s :=
                (suffix_of_after? (Option.filter_eq_some_iff.1 hend).1).trans hsuffix
              rw [hend] at hendings
              rw [Line.readFrom_of_end hblanks hc hskipped hend] at hwhole ⊢
              have hblank := h.blank_of_complete hafter hwhole
              rw [Line.readFrom_of_end hbehind hc (hskip.trans hskipped) hendings,
                h.readFrom_of_blank v hafter hblank, Line.readFrom_of_blank hblank]
              rfl
          | none =>
              rw [hend] at hendings
              rw [Line.readFrom_of_begun hblanks hc hskipped hend] at hwhole ⊢
              rw [Line.readFrom_of_begun hbehind hc (hskip.trans hskipped) hendings]
              exact h.begun_append v hsuffix hwhole

end Item

theorem read_of_opensSkipped {s : Text} (hskipped : opensSkipped s = true)
    (hs : ∀ c ∈ s, isSeparator c = false) : Line.read s = {} := by
  rw [opensSkipped] at hskipped
  cases hblanks : skipBlanks s with
  | nil => exact Line.readFrom_of_blank hblanks
  | cons c rest =>
      have hc : c ∈ s := (suffix_skipBlanks s).subset (hblanks ▸ List.mem_cons_self)
      exact Line.readFrom_of_skipped hblanks (hs c hc) (hblanks ▸ hskipped)

theorem Line.read_space (s : Text) : Line.read (' ' :: s) = Line.read s := by
  have hblanks := skipBlanks_space s
  unfold Line.read
  cases hs : skipBlanks s with
  | nil => rw [readFrom_of_blank (hblanks.trans hs), readFrom_of_blank hs]
  | cons c rest => rw [readFrom_cons (hblanks.trans hs), readFrom_cons hs]

def said (items : List Text) : List Statement :=
  items.flatMap fun item => (Line.read item).statements

/-- The items that no item before them takes in. -/
def heard (items : List Text) : List Text := items.takeWhile fun item => !opensSkipped item

theorem read_join_semicolons {items : List Text} (h : ∀ item ∈ items, Item item) :
    Line.read (Text.join "; ".toList items) = { statements := said (heard items) } := by
  induction items with
  | nil => exact Line.readFrom_nil true
  | cons item items ih =>
      obtain ⟨hitem, hitems⟩ := List.forall_mem_cons.1 h
      have hheard : said (heard (item :: items)) =
          if opensSkipped item then [] else (Line.read item).statements ++ said (heard items) := by
        rw [heard, List.takeWhile_cons]
        cases opensSkipped item <;> rfl
      have hwhole : Line.read item = { statements := (Line.read item).statements } := by
        rw [← hitem.whole]
      have hsilent : opensSkipped item = true → Line.read item = {} :=
        fun hskipped => read_of_opensSkipped hskipped (hitem.not_separator List.suffix_rfl)
      rw [hheard]
      cases items with
      | nil =>
          rw [Text.join_singleton]
          split
          · rename_i hskipped
            exact hsilent hskipped
          · rw [hwhole]
            simp [said, heard]
      | cons next rest =>
          have hjoin : Text.join "; ".toList (item :: next :: rest) =
              item ++ ';' :: ' ' :: Text.join "; ".toList (next :: rest) := by
            rw [Text.join_cons_cons, List.append_assoc]
            rfl
          rw [hjoin, hitem.read_append, Line.read_space, ih hitems]
          split <;> rfl

theorem statementsOf_items {items : List Text} (h : ∀ item ∈ items, Item item) (number : Nat) :
    statementsOf number items = .ok (said items) := by
  induction items generalizing number with
  | nil => rfl
  | cons item items ih =>
      obtain ⟨hitem, hitems⟩ := List.forall_mem_cons.1 h
      rw [statementsOf, hitem.whole, ih hitems]
      rfl

theorem Item.feedless {s : Text} (h : Item s) : '\n' ∉ s := fun hmem => h.plain _ hmem (by decide)

theorem feedless_join {items : List Text} (h : ∀ item ∈ items, Item item) :
    '\n' ∉ Text.join "; ".toList items := by
  intro hmem
  rcases Text.mem_join hmem with hmem | ⟨item, hitem, hmem⟩
  · exact absurd hmem (by decide)
  · exact (h item hitem).feedless hmem

/-- Items below each other all say what they say.  Beside each other they say it up to one that is
passed over, and beside the heading they say nothing. -/
theorem read_items {heading : Text} {direction : Direction} (hheading : Heads heading direction)
    {items : List Text} (hitems : ∀ item ∈ items, Item item) :
    Sheet.read (Text.join ['\n'] (heading :: items)) =
      .ok (Sheet.ofStatements direction (said items)) ∧
    Sheet.read (heading ++ '\n' :: Text.join "; ".toList items) =
      .ok (Sheet.ofStatements direction (said (heard items))) ∧
    Sheet.read (Text.join "; ".toList (heading :: items)) =
      .ok (Sheet.ofStatements direction []) := by
  refine ⟨?_, ?_, ?_⟩
  · exact hheading.read_join (fun item hitem => (hitems item hitem).feedless)
      (statementsOf_items hitems)
  · have hline : ∀ number, statementsOf number [Text.join "; ".toList items] =
        .ok (said (heard items)) := by
      intro number
      rw [statementsOf, read_join_semicolons hitems]
      simp [statementsOf]
    have hread := hheading.read_join (List.forall_mem_singleton.2 (feedless_join hitems)) hline
    rwa [Text.join_cons_cons, Text.join_singleton, List.append_assoc] at hread
  -- The heading takes its whole line, so no item below it is left.
  · have hnothing : ∀ number, statementsOf number [] = .ok [] := fun _ => rfl
    cases items with
    | nil =>
        rw [Text.join_singleton]
        have hread := hheading.read_join (List.forall_mem_nil _) hnothing
        rwa [Text.join_singleton] at hread
    | cons item items =>
        have hu : Detached (';' :: ' ' :: Text.join "; ".toList (item :: items)) :=
          detached_cons (by decide) _
        have hfeed : '\n' ∉ ';' :: ' ' :: Text.join "; ".toList (item :: items) := by
          simpa using feedless_join hitems
        have hread := (hheading.append hu hfeed).read_join (List.forall_mem_nil _) hnothing
        rw [Text.join_singleton] at hread
        rwa [Text.join_cons_cons, List.append_assoc]

/-- Two arrows with a statement between them that is passed over. -/
def detour : List Text := ["A --> B".toList, "class B hot".toList, "B --> C".toList]

theorem item_detour : ∀ item ∈ detour, Item item := by
  have harrow : ∀ source target : Text, IsDashed source → IsDashed target → ¬ IsReserved source →
      (Line.read (arrowChain source target).text).ending = .complete := by
    intro source target hsource htarget hordinary
    have hread := (regular_arrowChain hsource htarget hordinary).read_line 0
    rw [Text.spaces, List.replicate_zero, List.nil_append] at hread
    rw [hread]
  have hwhole : ∀ item ∈ detour, (Line.read item).ending = .complete := by
    simp only [detour, List.forall_mem_cons]
    refine ⟨harrow "A".toList "B".toList (by decide) (by decide) (by decide), ?_,
      harrow "B".toList "C".toList (by decide) (by decide) (by decide), List.forall_mem_nil _⟩
    rw [read_of_opensSkipped (by decide) (by decide)]
  have hplain : ∀ item ∈ detour, ∀ c ∈ item, c ∉ terminators := by decide
  have hpercent : ∀ item ∈ detour, '%' ∉ item := by decide
  have hspoken : ∀ item ∈ detour, ∀ t ∈ item.tails, ∀ r ∈ labelled? t, r.1.label ≠ [] := by decide
  intro item hitem
  exact
    { plain := hplain item hitem
      uncommented := fun hcomment =>
        hpercent item hitem (hcomment.subset List.mem_cons_self)
      spoken := fun t ht => hspoken item hitem t ((List.mem_tails _ _).2 ht)
      whole := hwhole item hitem }

theorem heads_graph : Heads "graph TD".toList .td where
  feedless := by decide
  header := by decide

theorem read_items_detour :
    (Heads "graph TD".toList .td ∧ ∀ item ∈ detour, Item item) ∧
    Sheet.read (Text.join ['\n'] ("graph TD".toList :: detour)) =
      .ok (Sheet.ofStatements .td (said detour)) ∧
    Sheet.read ("graph TD".toList ++ '\n' :: Text.join "; ".toList detour) =
      .ok (Sheet.ofStatements .td (said (heard detour))) ∧
    Sheet.read (Text.join "; ".toList ("graph TD".toList :: detour)) =
      .ok (Sheet.ofStatements .td []) :=
  ⟨⟨heads_graph, item_detour⟩, read_items heads_graph item_detour⟩

end Flowchart.Chart
