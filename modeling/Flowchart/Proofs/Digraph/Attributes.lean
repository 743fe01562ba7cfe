import Flowchart.Proofs.Digraph.Quoted

/-!
# Attributes of digraphs

A list of attributes is read pair by pair, each up to the blank or bracket behind it. What follows a
pair must not go on with its value.
-/

namespace Flowchart.Digraph

/-- The text goes on with another token, and that begins with `c`. -/
structure Next (c : Char) (rest : Text) : Prop where
  apart : EndsWord rest
  leads : Leads c rest

theorem Next.mark {c : Char} (hsolid : isSolid c = true) (hc : isIdChar c = false) (s : Text) :
    Next c (c :: s) where
  apart := by
    rintro d ⟨⟩
    exact hc
  leads := Leads.solid hsolid s

theorem not_id_of_isSpace {c : Char} (h : isSpace c = true) : isIdChar c = false := by
  simp only [isSpace, Bool.or_eq_true, beq_iff_eq] at h
  rcases h with ((rfl | rfl) | rfl) | rfl <;> decide

theorem Next.space {c d : Char} {s : Text} (h : Leads c s) (hd : isSpace d = true) :
    Next c (d :: s) where
  apart := by
    rintro e ⟨⟩
    exact not_id_of_isSpace hd
  leads := h.space hd

theorem Word.leads {s : Text} (h : Word s) :
    ∃ c, isIdChar c = true ∧ ∀ rest, Leads c (s ++ rest) := by
  obtain ⟨c, t, rfl⟩ := List.exists_cons_of_ne_nil h.nonempty
  have hc := h.chars c List.mem_cons_self
  exact ⟨c, hc, fun rest => Leads.solid (isSolid_of_isIdChar hc) (t ++ rest)⟩

def Readable (value : Text) : Prop :=
  ∀ rest, EndsWord rest → mark? ['+'] rest = none → value? (value ++ rest) = some (value, rest)

theorem readable_writtenLabel (s : Text) : Readable (writtenLabel s) :=
  fun _ hrest hjoin => value?_writtenLabel s hrest hjoin

structure ReadablePair (pair : Text × Text) : Prop where
  key : Word pair.1
  value : Readable pair.2

def pairText (pair : Text × Text) : Text := pair.1 ++ '=' :: pair.2

def attributeOf (pair : Text × Text) : Text × Option Text := (pair.1, some pair.2)

theorem skipMark_of_none {mark s : Text} (h : mark? mark s = none) : skipMark mark s = s := by
  rw [skipMark, h]
  rfl

theorem attribute?_pair {pair : Text × Text} (h : ReadablePair pair) {c : Char} {rest : Text}
    (hrest : Next c rest) (hjoin : c ≠ '+') (hcomma : c ≠ ',') :
    attribute? (pairText pair ++ rest) = some (attributeOf pair, rest) := by
  obtain ⟨key, value⟩ := pair
  have hkey : id? (key ++ '=' :: (value ++ rest)) = some (key, '=' :: (value ++ rest)) :=
    id?_word h.key (Next.mark (c := '=') (by decide) (by decide) _).apart
  have hequals : mark? ['='] ('=' :: (value ++ rest)) = some (value ++ rest) := by
    rw [mark?_solid (by decide)]
    rfl
  have hvalue := h.value rest hrest.apart (hrest.leads.mark?_eq_none hjoin.symm [])
  rw [attribute?, pairText, List.append_assoc, List.cons_append, hkey]
  simp only [Option.map_some, hequals, Option.bind_some, hvalue,
    skipMark_of_none (hrest.leads.mark?_eq_none hcomma.symm [])]
  rfl

theorem attribute?_space {c : Char} (h : isSpace c = true) (s : Text) :
    attribute? (c :: s) = attribute? s := by
  rw [attribute?, attribute?, id?_space h]

def furtherText (pairs : List (Text × Text)) : Text :=
  pairs.flatMap fun pair => ' ' :: pairText pair

theorem join_pairs (pair : Text × Text) (pairs : List (Text × Text)) :
    Text.join [' '] ((pair :: pairs).map pairText) = pairText pair ++ furtherText pairs := by
  induction pairs generalizing pair with
  | nil => simp [furtherText, Text.join_singleton]
  | cons next pairs ih =>
      rw [List.map_cons, List.map_cons, Text.join_cons_cons, ← List.map_cons, ih next]
      simp [furtherText]

theorem next_furtherText {pairs : List (Text × Text)} (h : ∀ pair ∈ pairs, ReadablePair pair)
    (rest : Text) :
    ∃ c, Next c (furtherText pairs ++ ']' :: rest) ∧ c ≠ '+' ∧ c ≠ ',' := by
  cases pairs with
  | nil => exact ⟨']', Next.mark (by decide) (by decide) _, by decide, by decide⟩
  | cons pair pairs =>
      obtain ⟨c, hc, hleads⟩ := (h pair List.mem_cons_self).key.leads
      refine ⟨c, ?_, Text.ne_of_class hc (by decide), Text.ne_of_class hc (by decide)⟩
      have hnext := Next.space (d := ' ')
        (hleads ('=' :: pair.2 ++ (furtherText pairs ++ ']' :: rest))) rfl
      simpa [furtherText, pairText] using hnext

theorem many_attribute? {pairs : List (Text × Text)} (h : ∀ pair ∈ pairs, ReadablePair pair)
    (rest : Text) :
    many attribute? (furtherText pairs ++ ']' :: rest) = (pairs.map attributeOf, ']' :: rest) := by
  induction pairs with
  | nil =>
      have hid : id? (']' :: rest) = none :=
        (Leads.solid (by decide) rest).id?_eq_none (by decide) (by decide) (by decide)
      exact many_of_none (by simp [furtherText, attribute?, hid])
  | cons pair pairs ih =>
      obtain ⟨hpair, hpairs⟩ := List.forall_mem_cons.1 h
      obtain ⟨c, hnext, hjoin, hcomma⟩ := next_furtherText hpairs rest
      have htext : furtherText (pair :: pairs) ++ ']' :: rest =
          ' ' :: (pairText pair ++ (furtherText pairs ++ ']' :: rest)) := by
        simp [furtherText]
      rw [htext]
      refine many_of_some ?_ ?_ (ih hpairs)
      · rw [attribute?_space rfl, attribute?_pair hpair hnext hjoin hcomma]
      · simp only [List.length_cons, List.length_append]
        omega

theorem bracket?_attributes {pairs : List (Text × Text)} (hne : pairs ≠ [])
    (h : ∀ pair ∈ pairs, ReadablePair pair) (rest : Text) :
    bracket? (attributes pairs ++ rest) = some (pairs.map attributeOf, rest) := by
  obtain ⟨pair, pairs, rfl⟩ := List.exists_cons_of_ne_nil hne
  obtain ⟨hpair, hpairs⟩ := List.forall_mem_cons.1 h
  obtain ⟨c, hnext, hjoin, hcomma⟩ := next_furtherText hpairs rest
  have htext : attributes (pair :: pairs) ++ rest =
      ' ' :: '[' :: (pairText pair ++ (furtherText pairs ++ ']' :: rest)) := by
    have hjoined := join_pairs pair pairs
    simp only [attributes, show (fun pair : Text × Text => pair.1 ++ '=' :: pair.2) = pairText from
      rfl, hjoined]
    simp
  have hmark : mark? ['['] (' ' :: '[' :: (pairText pair ++ (furtherText pairs ++ ']' :: rest))) =
      some (pairText pair ++ (furtherText pairs ++ ']' :: rest)) := by
    rw [mark?_space rfl, mark?_solid (by decide)]
    rfl
  have hmany : many attribute? (pairText pair ++ (furtherText pairs ++ ']' :: rest)) =
      ((pair :: pairs).map attributeOf, ']' :: rest) := by
    refine many_of_some (attribute?_pair hpair hnext hjoin hcomma) ?_ (many_attribute? hpairs rest)
    simp only [pairText, List.length_append, List.length_cons]
    omega
  have hclose : mark? [']'] (']' :: rest) = some rest := by
    rw [mark?_solid (by decide)]
    rfl
  rw [htext, bracket?, hmark]
  simp only [hmany, hclose]
  rfl

theorem bracket?_of_leads {c : Char} {s : Text} (h : Leads c s) (hc : c ≠ '[') :
    bracket? s = none := by
  rw [bracket?, h.mark?_eq_none hc.symm []]

theorem brackets_of_leads {c : Char} {s : Text} (h : Leads c s) (hc : c ≠ '[') :
    brackets s = ([], s) := by
  rw [brackets, many_of_none (bracket?_of_leads h hc)]
  rfl

theorem brackets_attributes {pairs : List (Text × Text)} (hne : pairs ≠ [])
    (h : ∀ pair ∈ pairs, ReadablePair pair) {c : Char} {rest : Text} (hrest : Leads c rest)
    (hc : c ≠ '[') : brackets (attributes pairs ++ rest) = (pairs.map attributeOf, rest) := by
  have hmany : many bracket? (attributes pairs ++ rest) = ([pairs.map attributeOf], rest) := by
    refine many_of_some (bracket?_attributes hne h rest) ?_
      (many_of_none (bracket?_of_leads hrest hc))
    simp only [attributes, List.length_append, List.length_singleton]
    omega
  rw [brackets, hmany]
  simp

end Flowchart.Digraph
