import Flowchart.Proofs.Chart.Reading

/-!
# What is left of a text

Whatever is read from the front of a text, what is left is the end of that text.  Where the reader of
a line stands it passes a separator, drops what is left, passes over a word that has no say, or reads
a statement.
-/

namespace Flowchart.Chart

theorem not_mem_of_suffix {c : Char} {s rest : Text} (hs : c ∉ s) (h : rest <:+ s) : c ∉ rest :=
  fun hmem => hs (h.subset hmem)

theorem suffix_of_after? {p s rest : Text} (h : Text.after? p s = some rest) : rest <:+ s :=
  ⟨p, (Text.eq_append_of_after? h).symm⟩

theorem suffix_skipBlanks (s : Text) : skipBlanks s <:+ s := by
  simp only [skipBlanks]
  split
  · exact List.nil_suffix
  · exact List.dropWhile_suffix _

theorem Stroke.suffix_of_past? {stroke : Stroke} {s rest : Text} (h : stroke.past? s = some rest) :
    rest <:+ s := by
  unfold past? at h
  split at h
  · cases h
  · rename_i after hafter
    split at h
    · exact (suffix_of_after? h).trans ((List.dropWhile_suffix _).trans (suffix_of_after? hafter))
    · cases h

theorem suffix_of_pastSpaced? {stroke : Stroke} {s rest : Text}
    (h : pastSpaced? stroke s = some rest) : rest <:+ s := by
  unfold pastSpaced? at h
  split at h
  · split at h
    · exact (Stroke.suffix_of_past? h).trans (List.dropWhile_suffix _)
    · cases h
  · cases h

theorem suffix_of_labelBefore? {stroke : Stroke} {s label rest : Text}
    (h : labelBefore? stroke s = some (label, rest)) : rest <:+ s := by
  induction s generalizing label with
  | nil => cases h
  | cons c s ih =>
      unfold labelBefore? at h
      split at h
      · rename_i after hafter
        obtain ⟨-, rfl⟩ := Prod.mk.inj (Option.some.inj h)
        exact (suffix_of_pastSpaced? hafter).trans (List.suffix_cons c s)
      · obtain ⟨⟨inner, after⟩, hinner, heq⟩ := Option.map_eq_some_iff.1 h
        obtain ⟨-, rfl⟩ := Prod.mk.inj heq
        exact (ih hinner).trans (List.suffix_cons c s)

theorem suffix_of_innerLabel? {start : Text} {stroke : Stroke} {s label rest : Text}
    (h : innerLabel? start stroke s = some (label, rest)) : rest <:+ s := by
  unfold innerLabel? at h
  split at h
  · cases h
  · rename_i after hafter
    have hgaps : Text.skipGaps after <:+ s :=
      (List.dropWhile_suffix _).trans (suffix_of_after? hafter)
    dsimp only at h
    split at h
    · cases h
    · split at h
      · rename_i r hr
        exact (suffix_of_labelBefore? (hr.trans h)).trans hgaps
      · split at h
        · obtain ⟨final, hfinal, heq⟩ := Option.map_eq_some_iff.1 h
          obtain ⟨-, rfl⟩ := Prod.mk.inj heq
          exact (Stroke.suffix_of_past? hfinal).trans hgaps
        · cases h

theorem suffix_of_labelled? {s rest : Text} {connector : Connector}
    (h : labelled? s = some (connector, rest)) : rest <:+ s := by
  obtain ⟨arrow, -, h⟩ := List.exists_of_findSome?_eq_some h
  obtain ⟨r, hr, heq⟩ := Option.map_eq_some_iff.1 h
  obtain ⟨-, rfl⟩ := Prod.mk.inj heq
  exact suffix_of_innerLabel? hr

theorem suffix_of_plain? {s rest : Text} {style : EdgeStyle} (h : plain? s = some (style, rest)) :
    rest <:+ s := by
  obtain ⟨arrow, -, h⟩ := List.exists_of_findSome?_eq_some h
  obtain ⟨r, hr, heq⟩ := Option.map_eq_some_iff.1 h
  obtain ⟨-, rfl⟩ := Prod.mk.inj heq
  exact Stroke.suffix_of_past? hr

theorem suffix_of_barLabel {s label rest : Text} (h : barLabel s = .ok (label, rest)) :
    rest <:+ s := by
  unfold barLabel at h
  split at h
  · obtain ⟨-, rfl⟩ := Prod.mk.inj (Except.ok.inj h)
    exact List.suffix_rfl
  · rename_i inside hinside
    split at h
    · cases h
    · rename_i c after hafter
      obtain ⟨-, rfl⟩ := Prod.mk.inj (Except.ok.inj h)
      have hbar : c :: after <:+ inside := hafter ▸ List.dropWhile_suffix _
      exact (List.suffix_cons c after).trans
        (hbar.trans ((suffix_of_after? hinside).trans (suffix_skipBlanks s)))

theorem suffix_of_connector? {s rest : Text} {connector : Connector}
    (h : connector? s = .ok (some (connector, rest))) : rest <:+ s := by
  unfold connector? at h
  split at h
  · rename_i r hr
    exact (suffix_of_labelled? (hr.trans (Except.ok.inj h))).trans (suffix_skipBlanks s)
  · split at h
    · cases h
    · rename_i style after hplain
      split at h
      · cases h
      · rename_i label final hbar
        obtain ⟨-, rfl⟩ := Prod.mk.inj (Option.some.inj (Except.ok.inj h))
        exact (suffix_of_barLabel hbar).trans
          ((suffix_of_plain? hplain).trans (suffix_skipBlanks s))

theorem suffix_of_quotedText {quote : Char} {s text rest : Text}
    (h : quotedText quote s = .ok (text, rest)) : rest <:+ s := by
  induction s generalizing text with
  | nil => cases h
  | cons c s ih =>
      unfold quotedText at h
      split at h
      · obtain ⟨-, rfl⟩ := Prod.mk.inj (Except.ok.inj h)
        exact List.suffix_cons c s
      · split at h
        · cases h
        · rename_i r hr
          obtain ⟨-, rfl⟩ := Prod.mk.inj (Except.ok.inj h)
          exact (ih hr).trans (List.suffix_cons c s)

theorem suffix_of_bracketText? {opener : Option Char} {closer s text rest : Text} {depth : Nat}
    (h : bracketText? opener closer depth s = some (text, rest)) : rest <:+ s := by
  induction s generalizing depth text with
  | nil => cases h
  | cons c s ih =>
      unfold bracketText? at h
      split at h
      · rename_i after hafter
        obtain ⟨-, rfl⟩ := Prod.mk.inj (Option.some.inj h)
        split at hafter
        · exact suffix_of_after? hafter
        · cases hafter
      · obtain ⟨r, hr, heq⟩ := Option.map_eq_some_iff.1 h
        obtain ⟨-, rfl⟩ := Prod.mk.inj heq
        exact (ih hr).trans (List.suffix_cons c s)

theorem suffix_of_shapeText {node closer s text rest : Text}
    (h : shapeText node closer s = .ok (text, rest)) : rest <:+ s := by
  have hblanks := suffix_skipBlanks s
  unfold shapeText at h
  split at h
  · cases h
  · rename_i c inside hc
    rw [hc] at hblanks
    split at h
    · split at h
      · cases h
      · rename_i quoted after hquoted
        split at h
        · rename_i final hfinal
          obtain ⟨-, rfl⟩ := Prod.mk.inj (Except.ok.inj h)
          exact (suffix_of_after? hfinal).trans ((suffix_skipBlanks after).trans
            ((suffix_of_quotedText hquoted).trans ((List.suffix_cons c inside).trans hblanks)))
        · cases h
    · split at h
      · rename_i r hr
        exact (suffix_of_bracketText? (hr.trans (congrArg some (Except.ok.inj h)))).trans hblanks
      · cases h

theorem suffix_nodeId (s : Text) : (nodeId s).2 <:+ s := by
  fun_induction nodeId s with
  | case1 => exact List.suffix_rfl
  | case2 d s _ r ih => exact ih.trans (List.suffix_cons _ _)
  | case3 => exact List.suffix_rfl
  | case4 c s _ _ r ih => exact ih.trans (List.suffix_cons _ _)
  | case5 => exact List.suffix_rfl

theorem suffix_of_shaped {id s rest : Text} {mention : Mention}
    (h : shaped id s = .ok (mention, rest)) : rest <:+ s := by
  unfold shaped at h
  split at h
  · obtain ⟨-, rfl⟩ := Prod.mk.inj (Except.ok.inj h)
    exact List.suffix_rfl
  · rename_i shape inside hfind
    obtain ⟨shape, -, hafter⟩ := List.exists_of_findSome?_eq_some hfind
    obtain ⟨r, hr, heq⟩ := Option.map_eq_some_iff.1 hafter
    obtain ⟨-, rfl⟩ := Prod.mk.inj heq
    split at h
    · cases h
    · rename_i raw after htext
      split at h
      · cases h
      · obtain ⟨-, rfl⟩ := Prod.mk.inj (Except.ok.inj h)
        exact (suffix_of_shapeText htext).trans (suffix_of_after? hr)

theorem suffix_skipClass (s : Text) : skipClass s <:+ s := by
  unfold skipClass
  split
  · exact List.suffix_rfl
  · rename_i rest hrest
    dsimp only
    split
    · exact List.suffix_rfl
    · exact (List.dropWhile_suffix _).trans (suffix_of_after? hrest)

theorem suffix_of_mention? {s rest : Text} {mention : Mention}
    (h : mention? s = .ok (some (mention, rest))) : rest <:+ s := by
  have hblanks := suffix_skipBlanks s
  unfold mention? at h
  split at h
  · cases h
  · rename_i c after hc
    rw [hc] at hblanks
    split at h
    · split at h
      · cases h
      · rename_i known final hshaped
        obtain ⟨-, rfl⟩ := Prod.mk.inj (Option.some.inj (Except.ok.inj h))
        exact (suffix_skipClass final).trans
          ((suffix_of_shaped hshaped).trans ((suffix_nodeId _).trans hblanks))
    · cases h

theorem suffix_of_moreMentions {s rest : Text} {mentions : List Mention}
    (h : moreMentions s = .ok (mentions, rest)) : rest <:+ s := by
  fun_induction moreMentions s generalizing mentions with
  | case1 =>
    obtain ⟨-, rfl⟩ := Prod.mk.inj (Except.ok.inj h)
    exact List.suffix_rfl
  | case2 => cases h
  | case3 =>
    obtain ⟨-, rfl⟩ := Prod.mk.inj (Except.ok.inj h)
    exact List.suffix_rfl
  | case4 => cases h
  | case5 s inside hand mention after hmention mentions' last hmore ih =>
    obtain ⟨-, rfl⟩ := Prod.mk.inj (Except.ok.inj h)
    exact (ih hmore).trans ((suffix_of_mention? hmention).trans
      ((suffix_of_after? hand).trans (suffix_skipBlanks s)))

theorem suffix_of_group? {s rest : Text} {mentions : List Mention}
    (h : group? s = .ok (some (mentions, rest))) : rest <:+ s := by
  unfold group? at h
  split at h
  · cases h
  · cases h
  · rename_i mention after hmention
    split at h
    · cases h
    · rename_i more last hmore
      obtain ⟨-, rfl⟩ := Prod.mk.inj (Option.some.inj (Except.ok.inj h))
      exact (suffix_of_moreMentions hmore).trans (suffix_of_mention? hmention)

theorem suffix_of_connections {s rest : Text} {chain : List (Connector × List Mention)}
    (h : connections s = .ok (chain, rest)) : rest <:+ s := by
  fun_induction connections s generalizing chain with
  | case1 => cases h
  | case2 =>
    obtain ⟨-, rfl⟩ := Prod.mk.inj (Except.ok.inj h)
    exact List.suffix_rfl
  | case3 => cases h
  | case4 =>
    obtain ⟨-, rfl⟩ := Prod.mk.inj (Except.ok.inj h)
    exact List.suffix_rfl
  | case5 => cases h
  | case6 s connector inside hconnector targets after hgroup more last hmore ih =>
    obtain ⟨-, rfl⟩ := Prod.mk.inj (Except.ok.inj h)
    exact (ih hmore).trans ((suffix_of_group? hgroup).trans (suffix_of_connector? hconnector))

theorem Statement.suffix_of_read? {s rest : Text} {statement : Statement}
    (h : read? s = .ok (some (statement, rest))) : rest <:+ s := by
  unfold read? at h
  split at h
  · cases h
  · cases h
  · rename_i sources after hgroup
    split at h
    · cases h
    · rename_i chain last hchain
      split at h
      · cases h
      · obtain ⟨-, rfl⟩ := Prod.mk.inj (Option.some.inj (Except.ok.inj h))
        exact (suffix_of_connections hchain).trans (suffix_of_group? hgroup)

theorem not_separator {c : Char} (hsemicolon : c ≠ ';') (hreturn : c ≠ '\r') :
    isSeparator c = false := by
  simp [isSeparator, hsemicolon, hreturn]

namespace Line

variable {free : Bool} {s rest : Text} {c : Char}

theorem readFrom_of_blank (h : skipBlanks s = []) : readFrom free s = {} := by
  unfold readFrom
  split
  · rfl
  · rename_i heq
    rw [h] at heq
    cases heq

theorem readFrom_cons (h : skipBlanks s = c :: rest) :
    readFrom free s =
      if isSeparator c then readFrom true rest
      else if !free then { ending := .trailing }
      else if isSkipped (c :: rest) then {}
      else
        match afterEnd? (c :: rest) with
        | some after => readFrom false after
        | none => begun (Statement.read? (c :: rest)) := by
  rw [readFrom.eq_def free s]
  split
  · rename_i heq
    rw [h] at heq
    cases heq
  · rename_i d tail heq
    rw [h] at heq
    cases heq
    split
    · rfl
    · split
      · rfl
      · split
        · rfl
        · split
          · rename_i hend
            rw [hend]
          · rename_i hend
            rw [hend]
            split <;> rename_i hread <;> rw [hread] <;> rfl

theorem readFrom_of_separator (h : skipBlanks s = c :: rest) (hc : isSeparator c = true) :
    readFrom free s = readFrom true rest := by
  rw [readFrom_cons h, if_pos hc]

section Statement

variable (h : skipBlanks s = c :: rest) (hc : isSeparator c = false)

include h hc

theorem readFrom_of_trailing : readFrom false s = { ending := .trailing } := by
  rw [readFrom_cons h, hc]
  rfl

theorem readFrom_of_skipped (hskipped : isSkipped (c :: rest) = true) : readFrom true s = {} := by
  rw [readFrom_cons h, hc, hskipped]
  rfl

variable (hskipped : isSkipped (c :: rest) = false)

include hskipped

theorem readFrom_of_end {after : Text} (hend : afterEnd? (c :: rest) = some after) :
    readFrom true s = readFrom false after := by
  rw [readFrom_cons h, hc, hskipped, hend]
  rfl

theorem readFrom_of_begun (hend : afterEnd? (c :: rest) = none) :
    readFrom true s = begun (Statement.read? (c :: rest)) := by
  rw [readFrom_cons h, hc, hskipped, hend]
  rfl

end Statement

theorem blank_of_complete (h : (readFrom false s).ending = .complete)
    (hs : ∀ c ∈ s, isSeparator c = false) : skipBlanks s = [] := by
  cases hblanks : skipBlanks s with
  | nil => rfl
  | cons c rest =>
      have hc : c ∈ s := (suffix_skipBlanks s).subset (hblanks ▸ List.mem_cons_self)
      rw [readFrom_of_trailing hblanks (hs c hc)] at h
      cases h

end Line

end Flowchart.Chart
