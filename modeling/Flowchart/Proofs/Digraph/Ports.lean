import Flowchart.Proofs.Digraph.Naming

/-!
# Ports

An end of an edge may have a port and a compass point behind its id. They do not change which node
it means, unless the id and one of them stand in quotes: its name then goes on to the last quote.
-/

namespace Flowchart.Digraph

def Quoted (s : Text) : Prop := ∃ inner, s = '"' :: (inner ++ ['"'])

theorem quotedTail?_closes {s tail rest : Text} (h : quotedTail? s = some (tail, rest)) :
    ∃ inner, tail = inner ++ ['"'] := by
  fun_induction quotedTail? s generalizing tail rest with
  | case1 => cases h
  | case2 s =>
      obtain ⟨rfl, -⟩ := Prod.mk.inj (Option.some.inj h)
      exact ⟨[], rfl⟩
  | case3 c s ih =>
      obtain ⟨⟨later, last⟩, hlater, heq⟩ := Option.map_eq_some_iff.1 h
      obtain ⟨rfl, -⟩ := Prod.mk.inj heq
      obtain ⟨inner, rfl⟩ := ih hlater
      exact ⟨'\\' :: c :: inner, rfl⟩
  | case4 => cases h
  | case5 c s hquote hslash hne ih =>
      obtain ⟨⟨later, last⟩, hlater, heq⟩ := Option.map_eq_some_iff.1 h
      obtain ⟨rfl, -⟩ := Prod.mk.inj heq
      obtain ⟨inner, rfl⟩ := ih hlater
      exact ⟨c :: inner, rfl⟩

theorem joinLines_cons {c : Char} {s : Text}
    (h : c = '\\' → ∀ rest, s ≠ '\r' :: '\n' :: rest ∧ s ≠ '\n' :: rest) :
    joinLines (c :: s) = c :: joinLines s := by
  rw [joinLines.eq_def]
  split <;> simp_all

theorem joinLines_close (inner : Text) : joinLines (inner ++ ['"']) = joinLines inner ++ ['"'] := by
  fun_induction joinLines inner with
  | case1 s ih => simpa [joinLines] using ih
  | case2 s ih => simpa [joinLines] using ih
  | case3 c s hreturn hfeed ih =>
      -- The closing quote is no break, so it makes none of what stands before it.
      have hopen : c = '\\' → ∀ rest,
          s ++ ['"'] ≠ '\r' :: '\n' :: rest ∧ s ++ ['"'] ≠ '\n' :: rest := by
        intro hslash rest
        rcases s with _ | ⟨d, _ | ⟨e, s⟩⟩ <;> simp_all
      rw [List.cons_append, joinLines_cons hopen, ih, List.cons_append]
  | case4 => rfl

theorem quoted?_quoted {s word rest : Text} (h : quoted? s = some (word, rest)) : Quoted word := by
  unfold quoted? at h
  split at h
  · obtain ⟨⟨tail, last⟩, htail, heq⟩ := Option.map_eq_some_iff.1 h
    obtain ⟨rfl, -⟩ := Prod.mk.inj heq
    obtain ⟨inner, rfl⟩ := quotedTail?_closes htail
    exact ⟨joinLines inner, by rw [← joinLines_close]; rfl⟩
  · cases h

theorem quotedId?_quoted {s word rest : Text} (h : quotedId? s = some (word, rest)) :
    Quoted word := by
  unfold quotedId? at h
  split at h
  · cases h
  · rename_i first last hfirst
    split at h
    · obtain ⟨rfl, -⟩ := Prod.mk.inj (Option.some.inj h)
      exact quoted?_quoted hfirst
    · obtain ⟨rfl, -⟩ := Prod.mk.inj (Option.some.inj h)
      exact ⟨_, rfl⟩

theorem angled?_head {depth : Nat} {c : Char} {s word rest : Text}
    (h : angled? depth (c :: s) = some (word, rest)) : word.head? = some c := by
  simp only [angled?] at h
  generalize (if c = '<' then depth + 1 else if c = '>' then depth - 1 else depth) = after at h
  split at h
  · obtain ⟨rfl, -⟩ := Prod.mk.inj (Option.some.inj h)
    rfl
  · obtain ⟨⟨later, last⟩, -, heq⟩ := Option.map_eq_some_iff.1 h
    obtain ⟨rfl, -⟩ := Prod.mk.inj heq
    rfl

theorem id?_cases {s word rest : Text} (h : id? s = some (word, rest)) :
    Word word ∨ Quoted word ∨ word.head? = some '<' := by
  unfold id? at h
  split at h
  · exact .inr (.inl (quotedId?_quoted h))
  · exact .inr (.inr (angled?_head h))
  · split at h
    · cases h
    · rename_i hne
      obtain ⟨rfl, -⟩ := Prod.mk.inj (Option.some.inj h)
      exact .inl ⟨by simpa using hne, fun c hc => List.all_eq_true.1 List.all_takeWhile c hc⟩

theorem not_blank_of_isIdChar {c : Char} (h : isIdChar c = true) : Text.isBlank c = false := by
  have hcodes : ∀ n ∈ [0x09, 0x0a, 0x0b, 0x0c, 0x0d, 0x1c, 0x1d, 0x1e, 0x1f, 0x20, 0x85, 0xa0,
      0x1680, 0x2000, 0x2001, 0x2002, 0x2003, 0x2004, 0x2005, 0x2006, 0x2007, 0x2008, 0x2009,
      0x200a, 0x2028, 0x2029, 0x202f, 0x205f, 0x3000], isIdChar (Char.ofNat n) = false := by
    decide +kernel
  rw [Bool.eq_false_iff]
  intro hblank
  have hid := hcodes c.toNat (by
    simp only [Text.isBlank, Bool.or_eq_true, Bool.and_eq_true, beq_iff_eq, decide_eq_true_eq]
      at hblank
    simp only [List.mem_cons]
    omega)
  rw [Char.ofNat_toNat, h] at hid
  cases hid

theorem Word.apart {word : Text} (h : Word word) {c : Char} (hc : c ∈ word) :
    Text.isBlank c = false ∧ c ≠ '"' ∧ c ≠ ':' :=
  ⟨not_blank_of_isIdChar (h.chars c hc), Text.ne_of_class (h.chars c hc) (by decide),
    Text.ne_of_class (h.chars c hc) (by decide)⟩

theorem nodeKey_of_word {id : Text} (h : Word id) : nodeKey id = id := by
  unfold nodeKey
  split
  · rfl
  · exact takeWhile_colon fun hmem => (h.apart hmem).2.2 rfl

theorem nodeName_withPorts_word {id : Text} (h : Word id) (ports : List Text) :
    nodeName (withPorts id ports) = id := by
  refine nodeName_append h.nonempty (fun c => h.apart) ?_
  cases ports with
  | nil => exact .inl rfl
  | cons port ports => exact .inr ⟨_, rfl⟩

theorem quote_not_mem_flatMap {ports : List Text} (h : ∀ port ∈ ports, '"' ∉ port) :
    '"' ∉ ports.flatMap (':' :: ·) := by
  rw [List.mem_flatMap]
  rintro ⟨port, hport, hmem⟩
  rcases List.mem_cons.1 hmem with heq | hmem
  · cases heq
  · exact h port hport hmem

theorem nodeName_withPorts_quoted (inner : Text) {ports : List Text}
    (h : ∀ port ∈ ports, '"' ∉ port) :
    nodeName (withPorts ('"' :: (inner ++ ['"'])) ports) = plainQuotes inner := by
  have htext : withPorts ('"' :: (inner ++ ['"'])) ports =
      '"' :: (inner ++ '"' :: ports.flatMap (':' :: ·)) := by
    simp [withPorts]
  rw [htext, nodeName_quoted (quote_not_mem_flatMap h)]

/-- With a port in quotes, the name goes on to the closing quote of the last one. -/
theorem nodeName_withPorts_clash (inner port : Text) (before : List Text) {after : List Text}
    (h : ∀ later ∈ after, '"' ∉ later) :
    nodeName (withPorts ('"' :: (inner ++ ['"'])) (before ++ ('"' :: (port ++ ['"'])) :: after)) =
      plainQuotes (inner ++ '"' :: (before.flatMap (':' :: ·) ++ ':' :: '"' :: port)) := by
  have htext : withPorts ('"' :: (inner ++ ['"'])) (before ++ ('"' :: (port ++ ['"'])) :: after) =
      '"' :: ((inner ++ '"' :: (before.flatMap (':' :: ·) ++ ':' :: '"' :: port)) ++
        '"' :: after.flatMap (':' :: ·)) := by
    simp [withPorts]
  rw [htext, nodeName_quoted (quote_not_mem_flatMap h)]

example : nodeName (withPorts "\"a\"".toList ["\"p\"".toList, "n".toList]) =
    "a\":\"p".toList := by decide

theorem length_plainQuotes_pos {s : Text} (h : s ≠ []) : 0 < (plainQuotes s).length := by
  fun_cases plainQuotes s with
  | case1 | case2 => simp
  | case3 => exact absurd rfl h

theorem length_plainQuotes_append (inner : Text) {rest : Text} (h : rest ≠ []) :
    (plainQuotes inner).length < (plainQuotes (inner ++ '"' :: rest)).length := by
  -- A quote and more behind a text make it longer, even where a backslash guards that quote.
  fun_induction plainQuotes inner with
  | case1 s ih => simpa [plainQuotes] using ih
  | case2 c s hopen ih =>
      rcases s with _ | ⟨d, s⟩
      · by_cases hslash : c = '\\'
        · subst hslash
          simpa [plainQuotes] using length_plainQuotes_pos h
        · rw [List.cons_append, plainQuotes_cons fun heq => absurd heq hslash]
          simpa using ih
      · have hguard : c = '\\' → (d :: s ++ '"' :: rest).head? ≠ some '"' := by
          rintro rfl hd
          obtain rfl : d = '"' := Option.some.inj hd
          exact hopen s rfl rfl
        rw [List.cons_append, plainQuotes_cons hguard]
        simpa using ih
  | case3 => exact length_plainQuotes_pos (List.cons_ne_nil _ _)

theorem quote_not_mem_of_head {word : Text} (h : Word word ∨ Quoted word)
    (hhead : word.head? ≠ some '"') : '"' ∉ word := by
  rcases h with hword | ⟨inner, rfl⟩
  · exact fun hmem => (hword.apart hmem).2.1 rfl
  · exact absurd rfl hhead

theorem exists_quoted_of_head {word : Text} (h : Word word ∨ Quoted word)
    (hhead : word.head? = some '"') : Quoted word := by
  rcases h with hword | hquoted
  · exact absurd rfl (hword.apart (List.mem_of_mem_head? hhead)).2.1
  · exact hquoted

theorem exists_id?_of_port? {s rest port : Text} (h : port? s = some (port, rest)) :
    ∃ t, id? t = some (port, rest) := by
  obtain ⟨t, -, ht⟩ := Option.bind_eq_some_iff.1 h
  exact ⟨t, ht⟩

theorem exists_id?_of_nodeTerminal? {s rest id : Text} {ports : List Text}
    (h : nodeTerminal? s = some (.node id ports, rest)) :
    ∀ word ∈ id :: ports, ∃ t last, id? t = some (word, last) := by
  unfold nodeTerminal? at h
  split at h
  · cases h
  · rename_i first later hfirst
    split at h
    · obtain ⟨⟨rfl, rfl⟩, -⟩ : (first = id ∧ [] = ports) ∧ later = rest := by simpa using h
      exact List.forall_mem_singleton.2 ⟨s, _, hfirst⟩
    · rename_i port afterPort hport
      obtain ⟨t, ht⟩ := exists_id?_of_port? hport
      split at h
      · obtain ⟨⟨rfl, rfl⟩, -⟩ : (first = id ∧ [port] = ports) ∧ afterPort = rest := by
          simpa using h
        exact List.forall_mem_cons.2 ⟨⟨s, _, hfirst⟩, List.forall_mem_singleton.2 ⟨t, _, ht⟩⟩
      · rename_i compass afterCompass hcompass
        obtain ⟨u, hu⟩ := exists_id?_of_port? hcompass
        obtain ⟨⟨rfl, rfl⟩, -⟩ : (first = id ∧ [port, compass] = ports) ∧ afterCompass = rest := by
          simpa using h
        exact List.forall_mem_cons.2 ⟨⟨s, _, hfirst⟩,
          List.forall_mem_cons.2 ⟨⟨t, _, ht⟩, List.forall_mem_singleton.2 ⟨u, _, hu⟩⟩⟩

theorem exists_last_of_exists {p : Text → Prop} {ports : List Text} (h : ∃ port ∈ ports, p port) :
    ∃ before port after, ports = before ++ port :: after ∧ p port ∧ ∀ later ∈ after, ¬p later := by
  induction ports with
  | nil => simp at h
  | cons first ports ih =>
      by_cases hlater : ∃ port ∈ ports, p port
      · obtain ⟨before, port, after, rfl, hport, hafter⟩ := ih hlater
        exact ⟨first :: before, port, after, rfl, hport, hafter⟩
      · push Not at hlater
        obtain ⟨port, hmem, hport⟩ := h
        rcases List.mem_cons.1 hmem with rfl | hmem
        · exact ⟨[], port, ports, rfl, hport, hlater⟩
        · exact absurd hport (hlater port hmem)

section Ends

variable {id : Text} {ports : List Text} (hid : Word id ∨ Quoted id)
  (hports : ∀ port ∈ ports, Word port ∨ Quoted port)

include hid hports

theorem namesOf_of_clash (hhead : id.head? = some '"')
    (hquoted : ∃ port ∈ ports, port.head? = some '"') :
    ∃ inner before port after, id = '"' :: (inner ++ ['"']) ∧
      ports = before ++ ('"' :: (port ++ ['"'])) :: after ∧
      (∀ later ∈ after, later.head? ≠ some '"') ∧
      namesOf (.node id ports) =
        [plainQuotes (inner ++ '"' :: (before.flatMap (':' :: ·) ++ ':' :: '"' :: port))] := by
  obtain ⟨inner, rfl⟩ := exists_quoted_of_head hid hhead
  obtain ⟨before, port, after, rfl, hport, hafter⟩ := exists_last_of_exists hquoted
  obtain ⟨port, rfl⟩ := exists_quoted_of_head (hports port (by simp)) hport
  refine ⟨inner, before, port, after, rfl, rfl, hafter, ?_⟩
  rw [namesOf, nodeName_withPorts_clash]
  exact fun later hlater => quote_not_mem_of_head (hports later (by simp [hlater]))
    (hafter later hlater)

theorem namesOf_ne_of_clash (hhead : id.head? = some '"')
    (hquoted : ∃ port ∈ ports, port.head? = some '"') :
    namesOf (.node id ports) ≠ [nodeName (nodeKey id)] := by
  obtain ⟨inner, before, port, after, rfl, -, -, hname⟩ :=
    namesOf_of_clash hid hports hhead hquoted
  intro hsame
  rw [hname, nodeKey, nodeName_quoted List.not_mem_nil] at hsame
  have hne : before.flatMap (':' :: ·) ++ ':' :: '"' :: port ≠ [] := by simp
  have hlonger := length_plainQuotes_append inner hne
  rw [List.singleton_inj.1 hsame] at hlonger
  exact absurd hlonger (lt_irrefl _)

theorem namesOf_of_free (hfree : id.head? = some '"' → ∀ port ∈ ports, port.head? ≠ some '"') :
    namesOf (.node id ports) = [nodeName (nodeKey id)] := by
  rw [namesOf]
  rcases hid with hword | ⟨inner, rfl⟩
  · have hkey : nodeName (nodeKey id) = id := by
      rw [nodeKey_of_word hword]
      simpa [withPorts] using nodeName_withPorts_word hword []
    rw [nodeName_withPorts_word hword, hkey]
  · rw [nodeKey, nodeName_quoted List.not_mem_nil, nodeName_withPorts_quoted inner]
    exact fun port hport => quote_not_mem_of_head (hports port hport) (hfree rfl port hport)

end Ends

/-- An end of an edge whose id and ports are words or stand in quotes means the node of its id,
unless the id and a port both stand in quotes. Then it means another one: the closing quote of the
last such port is taken for that of the id. -/
theorem namesOf_eq_node_iff {s rest id : Text} {ports : List Text}
    (h : nodeTerminal? s = some (.node id ports, rest))
    (hplain : ∀ word ∈ id :: ports, word.head? ≠ some '<') :
    (namesOf (.node id ports) = [nodeName (nodeKey id)] ↔
      ¬(id.head? = some '"' ∧ ∃ port ∈ ports, port.head? = some '"')) ∧
    (id.head? = some '"' → (∃ port ∈ ports, port.head? = some '"') →
      ∃ inner before port after, id = '"' :: (inner ++ ['"']) ∧
        ports = before ++ ('"' :: (port ++ ['"'])) :: after ∧
        (∀ later ∈ after, later.head? ≠ some '"') ∧
        namesOf (.node id ports) =
          [plainQuotes (inner ++ '"' :: (before.flatMap (':' :: ·) ++ ':' :: '"' :: port))]) := by
  have hcases : ∀ word ∈ id :: ports, Word word ∨ Quoted word := fun word hword => by
    obtain ⟨t, last, hread⟩ := exists_id?_of_nodeTerminal? h word hword
    rcases id?_cases hread with hshape | hshape | hmarkup
    · exact .inl hshape
    · exact .inr hshape
    · exact absurd hmarkup (hplain word hword)
  obtain ⟨hid, hports⟩ := List.forall_mem_cons.1 hcases
  refine ⟨⟨?_, ?_⟩, namesOf_of_clash hid hports⟩
  · rintro hsame ⟨hhead, hquoted⟩
    exact namesOf_ne_of_clash hid hports hhead hquoted hsame
  · intro hfree
    exact namesOf_of_free hid hports fun hhead port hport hquoted =>
      hfree ⟨hhead, port, hport, hquoted⟩

/-- The port of a word may stand in quotes, and that of an id in quotes may be a word, but not both
may stand in quotes. -/
theorem namesOf_ports_in_quotes :
    namesOf (.node "a".toList ["\"p\"".toList, "n".toList]) = ["a".toList] ∧
      namesOf (.node "\"a\"".toList ["p".toList, "n".toList]) = ["a".toList] ∧
      namesOf (.node "\"a\"".toList ["\"p\"".toList, "n".toList]) ≠ ["a".toList] := by
  have hport : nodeTerminal? "a:\"p\":n ->".toList =
      some (.node "a".toList ["\"p\"".toList, "n".toList], " ->".toList) := by
    with_unfolding_all rfl
  have hid : nodeTerminal? "\"a\":p:n ->".toList =
      some (.node "\"a\"".toList ["p".toList, "n".toList], " ->".toList) := by
    with_unfolding_all rfl
  have hboth : nodeTerminal? "\"a\":\"p\":n ->".toList =
      some (.node "\"a\"".toList ["\"p\"".toList, "n".toList], " ->".toList) := by
    with_unfolding_all rfl
  exact ⟨(namesOf_eq_node_iff hport (by decide)).1.2 (by decide),
    (namesOf_eq_node_iff hid (by decide)).1.2 (by decide), fun hsame =>
      (namesOf_eq_node_iff hboth (by decide)).1.1 hsame ⟨rfl, _, List.mem_cons_self, rfl⟩⟩

end Flowchart.Digraph
