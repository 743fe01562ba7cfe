import Flowchart.Proofs.Caption
import Flowchart.Reference
import Mathlib.Data.List.Infix

/-!
# Reading references

Names are runs of letters, digits and semicolons.  So an ampersand that no name and no number sign
stands behind is left alone, and what stands behind a reference to a quotation mark does not matter.
-/

namespace Flowchart.Reference

def isTableCode (n : Nat) : Bool :=
  Nat.ble 97 n && Nat.ble n 122 || Nat.ble 48 n && Nat.ble n 57 || Nat.ble 65 n && Nat.ble n 90 ||
    Nat.beq n 32 || Nat.beq n 61 || Nat.beq n 59 || Nat.beq n 43

/-- Of the beginnings of `quot;`, only those of at least four characters are names. -/
def suits (entry : Text × Text) : Bool :=
  !(["q".toList, "qu".toList, "quo".toList].contains entry.1) &&
    (!(["quot".toList, "quot;".toList].contains entry.1) || entry.2 = ['"'])

/-- What is checked of a line of the table.  Names need no look where no `q` occurs. -/
def checks (line : Text) : Bool :=
  (line.map Char.toNat).all isTableCode &&
    (!(line.map Char.toNat).any (Nat.beq 113) || ((Text.words line).map entryOf).all suits)

theorem forall_line_cons {p : Text → Prop} {line : Text} {lines : List String} (h : p line)
    (hlines : ∀ other ∈ lines, p (String.toList other)) :
    ∀ other ∈ String.ofList line :: lines, p (String.toList other) := by
  refine List.forall_mem_cons.2 ⟨?_, hlines⟩
  rwa [String.toList_ofList]

set_option maxRecDepth 100000 in
theorem checks_line : ∀ line ∈ nameLines, checks (String.toList line) = true := by
  dsimp only [nameLines]
  repeat'
    first
    | exact List.forall_mem_nil _
    | apply forall_line_cons (p := fun line => checks line = true)
      decide +kernel

theorem of_mem_splitWhere {p : Char → Bool} {s piece : Text} (h : piece ∈ Text.splitWhere p s)
    {c : Char} (hc : c ∈ piece) : c ∈ s ∧ p c = false := by
  induction s generalizing piece with
  | nil =>
      rw [List.mem_singleton.1 h] at hc
      cases hc
  | cons d s ih =>
      obtain ⟨first, others, hpieces⟩ :=
        List.exists_cons_of_ne_nil (Text.splitWhere_ne_nil p s)
      rw [hpieces] at ih
      unfold Text.splitWhere at h
      rw [hpieces] at h
      split at h
      · rcases List.mem_cons.1 h with rfl | h
        · cases hc
        · exact (ih h hc).imp_left (List.mem_cons_of_mem _)
      · rename_i hd
        rcases List.mem_cons.1 h with rfl | h
        · rcases List.mem_cons.1 hc with rfl | hc
          · exact ⟨List.mem_cons_self, by simpa using hd⟩
          · exact (ih List.mem_cons_self hc).imp_left (List.mem_cons_of_mem _)
        · exact (ih (List.mem_cons_of_mem _ h) hc).imp_left (List.mem_cons_of_mem _)

theorem mem_of_mem_entryOf {word : Text} {c : Char} (h : c ∈ (entryOf word).1) : c ∈ word := by
  unfold entryOf at h
  split at h
  · rename_i name codes hsplit
    have hname : name ∈ Text.split '=' word := hsplit ▸ List.mem_cons_self
    exact (of_mem_splitWhere hname h).1
  · exact h

theorem exists_line_of_mem_names {entry : Text × Text} (h : entry ∈ names) :
    ∃ line : Text, checks line = true ∧ ∃ word ∈ Text.words line, entryOf word = entry := by
  obtain ⟨line, hline, hentry⟩ := List.mem_flatMap.1 h
  exact ⟨line.toList, checks_line line hline, List.mem_map.1 hentry⟩

theorem isTableCode_of_mem_name {entry : Text × Text} (h : entry ∈ names) {c : Char}
    (hc : c ∈ entry.1) : isTableCode c.toNat = true := by
  obtain ⟨line, hchecks, word, hword, rfl⟩ := exists_line_of_mem_names h
  have hmem : c ∈ line :=
    (of_mem_splitWhere (List.mem_filter.1 hword).1 (mem_of_mem_entryOf hc)).1
  exact List.all_eq_true.1 (Bool.and_eq_true_iff.1 hchecks).1 _ (List.mem_map_of_mem hmem)

theorem not_blank_of_mem_name {entry : Text × Text} (h : entry ∈ names) {c : Char}
    (hc : c ∈ entry.1) : Text.isBlank c = false := by
  obtain ⟨line, -, word, hword, rfl⟩ := exists_line_of_mem_names h
  exact (of_mem_splitWhere (List.mem_filter.1 hword).1 (mem_of_mem_entryOf hc)).2

theorem suits_of_mem_names {entry : Text × Text} (h : entry ∈ names) : suits entry = true := by
  obtain ⟨line, hchecks, word, hword, rfl⟩ := exists_line_of_mem_names h
  rcases Bool.or_eq_true_iff.1 (Bool.and_eq_true_iff.1 hchecks).2 with hnone | hall
  · -- None of the names that count is without a `q`.
    have hq : 'q' ∉ (entryOf word).1 := by
      intro hmem
      have hline : 'q' ∈ line :=
        (of_mem_splitWhere (List.mem_filter.1 hword).1 (mem_of_mem_entryOf hmem)).1
      have hany : (line.map Char.toNat).any (Nat.beq 113) = true :=
        List.any_eq_true.2 ⟨113, List.mem_map_of_mem (f := Char.toNat) hline, rfl⟩
      rw [hany] at hnone
      cases hnone
    have hnot : ∀ known : List Text, (∀ name ∈ known, 'q' ∈ name) →
        known.contains (entryOf word).1 = false := by
      intro known hknown
      rw [List.contains_eq_mem, decide_eq_false_iff_not]
      exact fun hmem => hq (hknown _ hmem)
    rw [suits, hnot _ (by decide), hnot _ (by decide)]
    rfl
  · exact List.all_eq_true.1 hall _ (List.mem_map_of_mem hword)

section Names

variable {name : Text}

theorem mem_names_of_named? {found : Text} (h : named? name = some found) :
    (name, found) ∈ names := by
  obtain ⟨before, after, heq, -⟩ := List.lookup_eq_some_iff.1 h
  simp [heq]

def Foreign (c : Char) : Prop := ∀ entry ∈ names, c ∉ entry.1

theorem foreign_of_code {c : Char} (h : isTableCode c.toNat = false) : Foreign c := by
  intro entry hentry hc
  have := isTableCode_of_mem_name hentry hc
  rw [h] at this
  cases this

theorem foreign_of_blank {c : Char} (h : Text.isBlank c = true) : Foreign c := by
  intro entry hentry hc
  have := not_blank_of_mem_name hentry hc
  rw [h] at this
  cases this

theorem named?_of_mem {c : Char} (hc : c ∈ name) (hforeign : Foreign c) : named? name = none := by
  cases hfound : named? name with
  | none => rfl
  | some found => exact absurd hc (hforeign _ (mem_names_of_named? hfound))

theorem named?_of_beginning (h : name ∈ ["q".toList, "qu".toList, "quo".toList]) :
    named? name = none := by
  cases hfound : named? name with
  | none => rfl
  | some found =>
      have hsuits := (Bool.and_eq_true_iff.1 (suits_of_mem_names (mem_names_of_named? hfound))).1
      rw [List.contains_iff_mem.2 h] at hsuits
      cases hsuits

theorem mem_names_of_line {line : Text} {text : String} (hline : String.ofList line = text)
    (htext : text ∈ nameLines) {entry : Text × Text}
    (h : entry ∈ (Text.words line).map entryOf) : entry ∈ names := by
  subst hline
  refine List.mem_flatMap.2 ⟨_, htext, ?_⟩
  rwa [String.toList_ofList]

theorem quot_mem_names : ∀ name ∈ ["quot".toList, "quot;".toList], (name, ['"']) ∈ names := by
  have hline :
      "questeq;=225f QUOT=22 quot=22 QUOT;=22 quot;=22 rAarr;=21db race;=223d+331 Racute;=154" ∈
        nameLines := List.mem_of_getElem? (i := 239) rfl
  refine fun name hname => mem_names_of_line rfl hline ?_
  revert name
  decide +kernel

theorem named?_quot (h : name ∈ ["quot".toList, "quot;".toList]) : named? name = some ['"'] := by
  have hmem := quot_mem_names name h
  cases hfound : named? name with
  | none => exact absurd (List.lookup_eq_none_iff.1 hfound _ hmem) (by simp)
  | some found =>
      have hsuits := (Bool.and_eq_true_iff.1 (suits_of_mem_names (mem_names_of_named? hfound))).2
      rw [List.contains_iff_mem.2 h] at hsuits
      simpa using hsuits

end Names

def beginsNumber (s : Text) : Bool :=
  match s with
  | '#' :: x :: rest =>
    if x == 'x' || x == 'X' then rest.head?.any fun c => (Text.hexValue? c).isSome
    else Text.isAsciiDigit x
  | _ => false

theorem beginsNumber_of_ne {c : Char} (h : c ≠ '#') (s : Text) : beginsNumber (c :: s) = false := by
  unfold beginsNumber
  split
  · exact absurd (List.cons.inj ‹_›).1 h
  · rfl

structure Quiet (s : Text) : Prop where
  unnumbered : beginsNumber s = false
  unnamed : ∀ name, name <+: s → name ≠ [] → named? name = none

theorem quiet_cons {c : Char} (hnumber : c ≠ '#') (hforeign : Foreign c) (s : Text) :
    Quiet (c :: s) where
  unnumbered := beginsNumber_of_ne hnumber s
  unnamed := by
    intro name hname hne
    obtain ⟨d, rest, rfl⟩ := List.exists_cons_of_ne_nil hne
    obtain rfl := (List.cons_prefix_cons.1 hname).1
    exact named?_of_mem List.mem_cons_self hforeign

theorem quiet_beginning {start : Text} (h : start ∈ ["q".toList, "qu".toList, "quo".toList]) :
    Quiet (start ++ "...".toList) := by
  have hinits : ∀ start ∈ ["q".toList, "qu".toList, "quo".toList],
      beginsNumber (start ++ "...".toList) = false ∧ ∀ name ∈ (start ++ "...".toList).inits,
        name = [] ∨ '.' ∈ name ∨ name ∈ ["q".toList, "qu".toList, "quo".toList] := by decide
  obtain ⟨hhead, hnames⟩ := hinits start h
  refine ⟨hhead, fun name hname hne => ?_⟩
  rcases hnames name ((List.mem_inits name _).2 hname) with rfl | hdot | hbeginning
  · exact absurd rfl hne
  · exact named?_of_mem hdot (foreign_of_code rfl)
  · exact named?_of_beginning hbeginning

theorem decode_of_none {c : Char} {s : Text} (h : match? (c :: s) = none) :
    decode (c :: s) = (decode s).map (c :: ·) := by
  rw [decode, Text.trySubstitute, h, decode]

theorem decode_of_some {c : Char} {new : Text} (name rest : Text)
    (h : match? (c :: (name ++ rest)) = some (name.length + 1, .ok new)) :
    decode (c :: (name ++ rest)) = (decode rest).map (new ++ ·) := by
  have hskip : Text.trySubstitute match? name.length (name ++ rest) = decode rest := by
    clear h
    induction name with
    | nil => rfl
    | cons d name ih => exact ih
  rw [decode, Text.trySubstitute, h]
  simp only [Nat.add_sub_cancel, hskip]
  cases decode rest <;> rfl

theorem decode_cons_of_ne {c : Char} (h : c ≠ '&') (s : Text) :
    decode (c :: s) = (decode s).map (c :: ·) :=
  decode_of_none (by simp [match?, h])

theorem decode_append_of_not_mem {s : Text} (h : '&' ∉ s) (rest : Text) :
    decode (s ++ rest) = (decode rest).map (s ++ ·) := by
  induction s with
  | nil => cases hrest : decode rest <;> simp [Except.map, hrest]
  | cons c s ih =>
      rw [List.mem_cons, not_or] at h
      rw [List.cons_append, decode_cons_of_ne (Ne.symm h.1), ih h.2]
      cases decode rest <;> rfl

theorem decode_of_not_mem {s : Text} (h : '&' ∉ s) : decode s = .ok s := by
  have happend := decode_append_of_not_mem h []
  rw [List.append_nil] at happend
  rw [happend]
  exact congrArg Except.ok (List.append_nil s)

theorem ofName_of_unnamed {s : Text} (hne : s ≠ [])
    (h : ∀ name, name <+: s → name ≠ [] → named? name = none) : ofName s = '&' :: s := by
  have hlongest : longestName? s = none := by
    rw [longestName?, List.findSome?_eq_none_iff]
    intro n hn
    rw [List.mem_reverse, List.mem_range] at hn
    split
    · rfl
    · rename_i htwo
      rw [h _ (List.take_prefix n s), Option.map_none]
      rw [ne_eq, List.take_eq_nil_iff, not_or]
      exact ⟨by omega, hne⟩
  rw [ofName, h s (List.prefix_refl s) hne, hlongest]

theorem ampersand_not_mem_run {s run : Text} (h : (s.takeWhile isNameChar).take 32 = run) :
    '&' ∉ s.take (run.length + semicolon (s.drop run.length)) := by
  have hinitial : run <+: s :=
    h ▸ (List.take_prefix 32 _).trans (List.takeWhile_prefix isNameChar)
  have hrun : '&' ∉ run := by
    intro hmem
    have hname := List.all_eq_true.1 List.all_takeWhile _ (List.mem_of_mem_take (h ▸ hmem))
    cases hname
  rw [List.take_add, ← List.prefix_iff_eq_take.1 hinitial, List.mem_append, not_or]
  refine ⟨hrun, ?_⟩
  unfold semicolon
  split
  · rename_i hhead
    obtain ⟨rest, hrest⟩ := List.head?_eq_some_iff.1 (eq_of_beq hhead)
    rw [hrest]
    simp
  · simp

theorem match?_of_quiet {s : Text} (h : Quiet s) :
    match? ('&' :: s) = none ∨
      ∃ name rest, s = name ++ rest ∧ '&' ∉ name ∧
        match? ('&' :: s) = some (name.length + 1, .ok ('&' :: name)) := by
  unfold match?
  split
  -- A number without digits.
  · rename_i x rest heq
    obtain ⟨-, rfl⟩ := List.cons.inj heq
    have hnumber : (if x == 'x' || x == 'X' then rest.head?.any fun c => (Text.hexValue? c).isSome
      else Text.isAsciiDigit x) = false := h.unnumbered
    left
    dsimp only
    cases hex : x == 'x' || x == 'X' with
    | true =>
        rw [hex, if_pos rfl] at hnumber
        have hends : ∀ c, rest.head? = some c → (Text.hexValue? c).isSome = false :=
          fun c hc => by simpa [hc] using hnumber
        have hdigits : rest.takeWhile (fun c => (Text.hexValue? c).isSome) = [] :=
          (Text.run_of_ends hends).1
        simp only [↓reduceIte, hdigits]
    | false =>
        rw [hex, if_neg Bool.false_ne_true] at hnumber
        have hends : ∀ c, (x :: rest).head? = some c → Text.isAsciiDigit c = false :=
          fun c hc => Option.some.inj hc ▸ hnumber
        simp only [Bool.false_eq_true, ↓reduceIte, (Text.run_of_ends hends).1]
  -- What could be a name begins with none, so it stays as it is.
  · rename_i rest _ heq
    obtain ⟨-, rfl⟩ := List.cons.inj heq
    cases hrun : (s.takeWhile isNameChar).take 32 with
    | nil => exact .inl rfl
    | cons c run =>
        have hne : s.take ((c :: run).length + semicolon (s.drop (c :: run).length)) ≠ [] := by
          rw [ne_eq, List.take_eq_nil_iff, not_or]
          constructor
          · simp
          · rintro rfl
            cases hrun
        refine .inr ⟨_, _, (List.take_append_drop _ s).symm, ampersand_not_mem_run hrun, ?_⟩
        dsimp only
        rw [ofName_of_unnamed hne fun name hname =>
          h.unnamed name (hname.trans (List.take_prefix _ s))]
  · rename_i hamp
    exact absurd rfl (hamp s)

theorem decode_ampersand {s : Text} (h : Quiet s) :
    decode ('&' :: s) = (decode s).map ('&' :: ·) := by
  rcases match?_of_quiet h with hnone | ⟨name, rest, rfl, hname, hsome⟩
  · exact decode_of_none hnone
  · rw [decode_append_of_not_mem hname, decode_of_some name rest hsome]
    cases decode rest <;> rfl

theorem decode_quot (s : Text) :
    decode ("&quot;".toList ++ s) = (decode s).map ('"' :: ·) := by
  have hmatch : match? ("&quot;".toList ++ s) = some (6, .ok (ofName "quot;".toList)) := rfl
  have hname : ofName "quot;".toList = ['"'] := by
    rw [ofName, named?_quot (by decide)]
  rw [hname] at hmatch
  exact decode_of_some "quot;".toList s hmatch

theorem findSome?_reverse_range {α : Type} {f : Nat → Option α} {a : α} {n length : Nat}
    (hlength : n < length) (hn : f n = some a)
    (hlonger : ∀ m, n < m → m < length → f m = none) :
    (List.range length).reverse.findSome? f = some a := by
  induction length with
  | zero => omega
  | succ length ih =>
      rw [List.range_succ, List.reverse_append, List.reverse_singleton, List.singleton_append,
        List.findSome?_cons]
      by_cases heq : n = length
      · rw [← heq, hn]
      · rw [hlonger length (by omega) (by omega)]
        exact ih (by omega) fun m hm hlt => hlonger m hm (by omega)

theorem longestName?_quot {c : Char} {tail : Text} (h : isTableCode c.toNat = false) :
    longestName? ("quot".toList ++ c :: tail) = some (['"'], c :: tail) := by
  refine findSome?_reverse_range (n := 4) (by simp) ?_ fun m hm _ => ?_
  · have htake : ("quot".toList ++ c :: tail).take 4 = "quot".toList := rfl
    have hdrop : ("quot".toList ++ c :: tail).drop 4 = c :: tail := rfl
    rw [htake, hdrop, named?_quot List.mem_cons_self]
    rfl
  · obtain ⟨k, rfl⟩ : ∃ k, m = k + 5 := ⟨m - 5, by omega⟩
    have hmem : c ∈ ("quot".toList ++ c :: tail).take (k + 5) := by
      change c ∈ "quot".toList ++ c :: tail.take k
      simp
    rw [if_neg (by omega), named?_of_mem hmem (foreign_of_code h), Option.map_none]

theorem decode_quot_dots : decode "&quot...".toList = .ok "\"...".toList := by
  have hmatch : match? "&quot...".toList =
      some (8, .ok (ofName ("quot".toList ++ "...".toList))) := rfl
  have hname : named? ("quot".toList ++ "...".toList) = none :=
    named?_of_mem (c := '.') (by decide) (foreign_of_code rfl)
  have hlongest : longestName? ("quot".toList ++ "...".toList) = some (['"'], "...".toList) :=
    longestName?_quot (c := '.') rfl
  have hdots : ofName ("quot".toList ++ "...".toList) = "\"...".toList := by
    rw [ofName, hname, hlongest]
    rfl
  rw [hdots] at hmatch
  exact decode_of_some "quot...".toList [] hmatch

end Flowchart.Reference
