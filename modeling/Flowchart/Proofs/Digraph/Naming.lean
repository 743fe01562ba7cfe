import Flowchart.Proofs.Digraph.Drafting
import Flowchart.Proofs.Digraph.Lines
import Flowchart.Proofs.Digraph.Quoted
import Flowchart.Proofs.Flow.Branches

/-!
# Ids as they are written

An id stands as it is where it is a name or a numeral, else in quotes. Either way it is read as one
word again, and that word names the node. The name of a graph may be any text whose quotes or angle
brackets close where they should.

A flow can be drawn if its ids are names, so that they are written without quotes, and no text or
label holds a backslash. The answers of a two-way split hold none either.
-/

namespace Flowchart.Digraph

theorem guardQuotes_eq_self {s : Text} (h : '"' ∉ s) (odd : Bool) : guardQuotes odd s = s := by
  induction s generalizing odd with
  | nil => rfl
  | cons c s ih =>
      rw [List.mem_cons, not_or] at h
      rw [guardQuotes, if_neg (Ne.symm h.1), ih h.2]

theorem endsOdd_of_not_mem {s : Text} (h : '\\' ∉ s) : endsOdd false s = false := by
  induction s with
  | nil => rfl
  | cons c s ih =>
      rw [List.mem_cons, not_or] at h
      simp [endsOdd, Ne.symm h.1, ih h.2]

theorem plainQuotes_eq_self {s : Text} (h : '\\' ∉ s) : plainQuotes s = s := by
  induction s with
  | nil => rfl
  | cons c s ih =>
      rw [List.mem_cons, not_or] at h
      rw [plainQuotes_cons (fun hslash => absurd hslash.symm h.1), ih h.2]

theorem joinLines_of_not_mem {s : Text} (h : '\\' ∉ s) : joinLines s = s := by
  fun_induction joinLines s <;> simp_all

theorem throughLastQuote_append {s rest : Text} (h : '"' ∉ rest) :
    throughLastQuote (s ++ '"' :: rest) = s ++ ['"'] := by
  have hrest : ∀ c ∈ rest.reverse, (c != '"') = true :=
    fun c hc => bne_iff_ne.2 fun heq => h (heq ▸ List.mem_reverse.1 hc)
  rw [throughLastQuote, List.reverse_append, List.reverse_cons, List.append_assoc,
    List.dropWhile_append_of_pos hrest]
  simp

theorem nodeName_quoted {inner rest : Text} (h : '"' ∉ rest) :
    nodeName ('"' :: (inner ++ '"' :: rest)) = plainQuotes inner := by
  have hkept : '"' ∉ Text.trimRight rest := by
    obtain ⟨after, hrest, -⟩ := Text.exists_trimRight_append rest
    rw [hrest, List.mem_append, not_or] at h
    exact h.1
  have htrim : Text.trim ('"' :: (inner ++ '"' :: rest)) =
      '"' :: (inner ++ '"' :: Text.trimRight rest) := by
    rw [Text.trim_cons (by decide), Text.trimRight_append_cons (by decide)]
  have hthrough : throughLastQuote ('"' :: (inner ++ '"' :: Text.trimRight rest)) =
      '"' :: (inner ++ ['"']) := throughLastQuote_append (s := '"' :: inner) hkept
  rw [nodeName, htrim]
  simp [hthrough, unquote_quoted]

theorem unlike_of_leads {id : Text} {first : Char} (hfirst : first.toNat < 65)
    (h : ∀ rest, Leads first (id ++ rest)) {word : Text} (hword : word ∈ keywords) :
    Unlike word id := by
  have hletters : ∀ n < 65, (Char.ofNat n).toUpper = Char.ofNat n := by decide
  have hupper : first.toUpper = first := by
    have hself := hletters first.toNat hfirst
    rwa [Char.ofNat_toNat] at hself
  have hwords : ∀ word ∈ keywords, ∃ c tail, word = c :: tail ∧ c.toNat < 128 ∧
      65 ≤ c.toUpper.toNat := by
    simp only [keywords, List.forall_mem_cons]
    refine ⟨?_, ?_, ?_, ?_, ?_, ?_, fun _ h => absurd h List.not_mem_nil⟩ <;>
      exact ⟨_, _, rfl, by decide, by decide⟩
  obtain ⟨c, tail, rfl, hc, habove⟩ := hwords word hword
  refine fun d rest _ => .inl (keyword?_of_leads (h _) hc (by omega) fun heq => ?_)
  rw [← heq, hupper] at habove
  omega

section Enquote

variable {id : Text} (hquote : '"' ∉ id)

include hquote

theorem enquote_eq : enquote id = '"' :: (id ++ ['"']) := by
  rw [enquote, guardQuotes_eq_self hquote, List.cons_append]

theorem nodeName_enquote (hslash : '\\' ∉ id) : nodeName (enquote id) = id := by
  rw [enquote_eq hquote, nodeName_quoted List.not_mem_nil, plainQuotes_eq_self hslash]

theorem stands_enquote (hslash : '\\' ∉ id) : Stands (enquote id) id := by
  have hleads : ∀ rest, Leads '"' (enquote id ++ rest) := fun rest => Leads.solid (by decide) _
  have hjoin : joinLines (enquote id) = enquote id :=
    joinLines_of_not_mem (by simp [enquote_eq hquote, hslash])
  refine { opens := ⟨'"', .inr rfl, hleads⟩
           read := fun {c d s} hd hs hplus => ?_
           unlike := fun word hword => unlike_of_leads (by decide) hleads hword
           key := ?_
           ordinary := ?_
           named := nodeName_enquote hquote hslash }
  · have hmark : mark? ['+'] (d :: s) = none := (hs.space hd).mark?_eq_none hplus.symm []
    rw [id?_enquote (endsOdd_of_not_mem hslash) hmark, hjoin]
  · rw [enquote_eq hquote]
    rfl
  · rw [enquote_eq hquote]
    rfl

end Enquote

theorem isIdChar_of_isNumberChar {c : Char} (h : isNumberChar c = true) : isIdChar c = true := by
  by_contra hid
  rw [not_number_of_not_id (by simpa using hid)] at h
  cases h

theorem toNat_of_isNumberChar {c : Char} (h : isNumberChar c = true) : c.toNat < 65 := by
  simp only [isNumberChar, Bool.or_eq_true, beq_iff_eq] at h
  rcases h with rfl | hdigit
  · decide
  · have hbelow : c.toNat ≤ 57 := of_decide_eq_true (Bool.and_eq_true_iff.1 hdigit).2
    omega

theorem stands_numeral {id : Text} (h : isNumeral id = true) (hsign : id.head? ≠ some '-') :
    Stands id id := by
  have hplain := (plain_of_bare (.inr h)).2
  obtain ⟨sign, body, rfl, rfl | rfl, hne, hbody⟩ := exists_body_of_isNumeral h
  swap
  · exact absurd rfl hsign
  rw [List.nil_append] at hplain ⊢
  have hword : Word body := ⟨hne, fun c hc => isIdChar_of_isNumberChar (hbody c hc)⟩
  obtain ⟨c, s, rfl⟩ := List.exists_cons_of_ne_nil hne
  have hc := hbody c List.mem_cons_self
  have hcode := toNat_of_isNumberChar hc
  refine { toSpelled := hword.spelled
           unlike := fun word hword => unlike_of_leads hcode
             (fun rest => Leads.solid (isSolid_of_isNumberChar hc) _) hword
           key := nodeKey_of_plain hplain
           ordinary := ?_
           named := nodeName_of_plain hplain }
  have hwords : ∀ subject ∈ Subject.all, ∀ d ∈ subject.word, 65 ≤ d.toNat := by decide
  rw [isSubject, List.any_eq_false]
  intro subject hsubject heq
  have := hwords subject hsubject c (eq_of_beq heq ▸ List.mem_cons_self)
  omega

/-- An id that is written as one name. A numeral with a sign would be read as no id. -/
structure Nameable (id : Text) : Prop where
  nonempty : id ≠ []
  bland : ∀ c ∈ id, c ∉ ['"', '\\', '<', '\n']
  unsigned : isNumeral id = true → id.head? ≠ some '-'

namespace Nameable

variable {id : Text} (h : Nameable id)

include h

theorem not_mem {c : Char} (hc : c ∈ ['"', '\\', '<', '\n']) : c ∉ id :=
  fun hmem => h.bland c hmem hc

theorem isAngled : isAngled id = false := by
  have hhead : id.head? ≠ some '<' :=
    fun hhead => h.not_mem (by decide) (List.mem_of_mem_head? hhead)
  simp [Digraph.isAngled, hhead]

theorem withoutLastBreak : Text.withoutLastBreak id = id := by
  rw [Text.withoutLastBreak, if_neg]
  rw [beq_iff_eq]
  exact fun hlast => h.not_mem (by decide) (List.mem_of_getLast? hlast)

theorem stands : Stands (quote id) id := by
  rw [quote, h.isAngled, quotePlain, isBare, h.withoutLastBreak]
  split
  · contradiction
  split
  · rename_i hbare
    simp only [Bool.and_eq_true, Bool.or_eq_true, Bool.not_eq_true'] at hbare
    rcases hbare with ⟨hname | hnumeral, hordinary⟩
    · exact Ident.stands ⟨hname, hordinary⟩
    · exact stands_numeral hnumeral (h.unsigned hnumeral)
  · exact stands_enquote (h.not_mem (by decide)) (h.not_mem (by decide))

end Nameable

theorem quoteTerminal_eq_quote {id : Text} (h : ':' ∉ id) : quoteTerminal id = quote id := by
  have hdrop : id.dropWhile (· != ':') = [] := by
    have hsplit := List.takeWhile_append_dropWhile (p := (· != ':')) (l := id)
    rw [takeWhile_colon h] at hsplit
    exact List.append_right_eq_self.1 hsplit
  rw [quoteTerminal, takeWhile_colon h, hdrop]

/-- The name of a graph that is read as one word. -/
structure Headed (name : Text) : Prop where
  unsigned : isBare name = true → name.head? ≠ some '-'
  closed : isAngled name = false → endsOdd false name = false
  balanced : isAngled name = true →
    angled? 0 (Text.withoutLastBreak name) = some (Text.withoutLastBreak name, [])

def headWord (name : Text) : Text :=
  if isAngled name || isBare name then Text.withoutLastBreak name else joinLines (enquote name)

theorem angled?_append {depth : Nat} {s word rest : Text} (h : angled? depth s = some (word, rest))
    (t : Text) : angled? depth (s ++ t) = some (word, rest ++ t) := by
  induction s generalizing depth word with
  | nil => cases h
  | cons c s ih =>
      rw [List.cons_append]
      simp only [angled?] at h ⊢
      generalize (if c = '<' then depth + 1 else if c = '>' then depth - 1 else depth) = after
        at h ⊢
      split at h
      · rename_i hclosed
        obtain ⟨rfl, rfl⟩ := Prod.mk.inj (Option.some.inj h)
        rw [if_pos hclosed]
      · rename_i hopen
        obtain ⟨⟨more, left⟩, hmore, heq⟩ := Option.map_eq_some_iff.1 h
        obtain ⟨rfl, rfl⟩ := Prod.mk.inj heq
        rw [if_neg hopen, ih hmore]
        rfl

theorem exists_gap (s : Text) :
    ∃ gap : Text, (∀ c ∈ gap, c = '\n') ∧ s = Text.withoutLastBreak s ++ gap := by
  unfold Text.withoutLastBreak
  split
  · rename_i hlast
    refine ⟨['\n'], fun c hc => List.mem_singleton.1 hc, ?_⟩
    exact (List.dropLast_append_getLast? _ (beq_iff_eq.1 hlast)).symm
  · exact ⟨[], fun _ hc => absurd hc List.not_mem_nil, (List.append_nil s).symm⟩

theorem word_of_isBare {name : Text} (h : isBare name = true) (hsign : name.head? ≠ some '-') :
    Word (Text.withoutLastBreak name) := by
  simp only [isBare, Bool.and_eq_true, Bool.or_eq_true] at h
  rcases h.1 with hname | hnumeral
  · exact (Word.of_isName hname).2
  · obtain ⟨gap, -, hgap⟩ := exists_gap name
    obtain ⟨sign, body, heq, rfl | rfl, hne, hbody⟩ := exists_body_of_isNumeral hnumeral
    · rw [heq]
      exact ⟨hne, fun c hc => isIdChar_of_isNumberChar (hbody c hc)⟩
    · rw [heq] at hgap
      rw [hgap] at hsign
      exact absurd rfl hsign

theorem Headed.heading {name : Text} (h : Headed name) : Heading (quote name) (headWord name) := by
  obtain ⟨gap, hgap, hname⟩ := exists_gap name
  have hspace : ∀ c ∈ gap, isSpace c = true := fun c hc => hgap c hc ▸ rfl
  rw [quote, headWord]
  cases hangled : isAngled name with
  -- Markup ends with the angle bracket that closes it.
  | true =>
      refine ⟨gap, hspace, fun s _ => ?_⟩
      have hread := angled?_append (h.balanced hangled) (gap ++ ' ' :: s)
      rw [← List.append_assoc, ← hname] at hread
      simp only [isAngled, Bool.and_eq_true, beq_iff_eq] at hangled
      obtain ⟨t, rfl⟩ := List.head?_eq_some_iff.1 hangled.1.1
      rw [List.cons_append] at hread
      simp only [if_true, Bool.true_or]
      rw [List.cons_append, id?, skipSpace_solid (by decide)]
      exact hread
  | false =>
      rw [Bool.false_or, quotePlain]
      simp only [Bool.false_eq_true, if_false]
      split
      · rename_i hbare
        refine ⟨gap, hspace, fun s _ => ?_⟩
        -- The gap or the blank behind it ends the word.
        have hends : EndsWord (gap ++ ' ' :: s) := by
          cases gap with
          | nil =>
              rintro c ⟨⟩
              decide
          | cons d gap =>
              rintro c ⟨⟩
              rw [hgap d List.mem_cons_self]
              decide
        have hread := id?_word (word_of_isBare hbare (h.unsigned hbare)) hends
        rwa [← List.append_assoc, ← hname] at hread
      · refine ⟨[], fun _ hc => absurd hc List.not_mem_nil, fun s hs => ?_⟩
        have hmark : mark? ['+'] (' ' :: s) = none :=
          (hs.space (d := ' ') rfl).mark?_eq_none (by decide) []
        exact id?_enquote (h.closed hangled) hmark

def PlainLabel (label : Json) : Prop := label.isVoid = true ∨ ∃ s, label = .str s ∧ '\\' ∉ s

instance (label : Json) : Decidable (PlainLabel label) := label.decideLabel fun s => '\\' ∉ s

def shown (node : Node) : Json := node.caption.orElse (.str node.id)

structure DrawableNode (node : Node) : Prop where
  ident : Ident node.id
  worded : ∃ s, shown node = .str s ∧ s.Lined ∧ '\\' ∉ s ∧ '<' ∉ s
  keyed : ∀ outlet ∈ node.outlets, outlet.Keyed
  labelled : ∀ outlet ∈ node.outlets, PlainLabel outlet.label

structure Drawable (flow : Flow) : Prop where
  ident : Ident flow.id
  titled : PlainLabel flow.title
  distinct : flow.nodeIds.Nodup
  resolved : ∀ node ∈ flow.nodes, ∀ outlet ∈ node.outlets, outlet.target ∈ flow.nodeIds
  nodes : ∀ node ∈ flow.nodes, DrawableNode node

theorem Drawable.ident_of_mem {flow : Flow} (h : Drawable flow) {id : Text}
    (hid : id ∈ flow.nodeIds) : Ident id := by
  obtain ⟨node, hnode, rfl⟩ := List.mem_map.1 hid
  exact (h.nodes node hnode).ident

theorem DrawableNode.plain_branch {node : Node} (h : DrawableNode node) {branch : Outlet × Json}
    (hbranch : branch ∈ node.branches) : PlainLabel branch.2 :=
  Node.labels_of_branches (by decide) (by decide) h.labelled branch hbranch

namespace Ident

variable {id : Text} (h : Ident id)

include h

theorem not_mem {c : Char} (hc : UniqueIds.isPlain c = false) (hpoint : c ≠ '.') : c ∉ id :=
  plain_not_mem h.plain hc hpoint

theorem not_colon : ':' ∉ id := h.not_mem (by decide) (by decide)

theorem unsigned : id.head? ≠ some '-' := by
  intro hhead
  have hminus := h.chars '-' (List.mem_of_mem_head? hhead)
  cases hminus

theorem nameable : Nameable id where
  nonempty := h.word.nonempty
  bland := by
    intro c hc hmem
    have hplain : ∀ c ∈ ['"', '\\', '<', '\n'], UniqueIds.isPlain c = false ∧ c ≠ '.' := by decide
    exact h.not_mem (hplain c hmem).1 (hplain c hmem).2 hc
  unsigned := fun _ => h.unsigned

theorem headed : Headed id where
  unsigned := fun _ => h.unsigned
  closed := fun _ => endsOdd_of_not_mem (h.not_mem (by decide) (by decide))
  balanced := fun hangled => by
    rw [h.nameable.isAngled] at hangled
    cases hangled

end Ident

end Flowchart.Digraph
