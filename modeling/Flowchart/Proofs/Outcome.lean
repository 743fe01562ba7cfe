import Mathlib.Data.List.Forall2

/-!
# Outcomes

A computation that went well went well in each of its steps.
-/

namespace Flowchart

section Outcome

variable {ε α β : Type}

theorem Except.exists_of_bind_eq_ok {result : Except ε α} {f : α → Except ε β} {b : β}
    (h : result >>= f = .ok b) : ∃ a, result = .ok a ∧ f a = .ok b := by
  cases result with
  | error fault => cases h
  | ok a => exact ⟨a, rfl, h⟩

theorem Except.exists_of_map_eq_ok {result : Except ε α} {f : α → β} {b : β}
    (h : result.map f = .ok b) : ∃ a, result = .ok a ∧ f a = b := by
  cases result with
  | error fault => cases h
  | ok a => exact ⟨a, rfl, Except.ok.inj h⟩

theorem Except.mapError_eq_ok_iff {ε' : Type} {f : ε → ε'} {result : Except ε α} {a : α} :
    result.mapError f = .ok a ↔ result = .ok a := by
  cases result <;> simp [Except.mapError]

theorem Except.map_eq_error_iff {f : α → β} {result : Except ε α} {fault : ε} :
    result.map f = .error fault ↔ result = .error fault := by
  cases result <;> simp [Except.map]

theorem mapM_eq_ok {f : α → Except ε β} {g : α → β} {as : List α}
    (h : ∀ a ∈ as, f a = .ok (g a)) : as.mapM f = .ok (as.map g) := by
  induction as with
  | nil => rfl
  | cons a as ih =>
      obtain ⟨ha, has⟩ := List.forall_mem_cons.1 h
      rw [List.mapM_cons, ha, ih has]
      rfl

theorem forall₂_of_mapM {f : α → Except ε β} {as : List α} {bs : List β}
    (h : as.mapM f = .ok bs) : List.Forall₂ (fun a b => f a = .ok b) as bs := by
  induction as generalizing bs with
  | nil =>
      rw [← Except.ok.inj h]
      exact .nil
  | cons a as ih =>
      rw [List.mapM_cons] at h
      obtain ⟨b, hb, h⟩ := Except.exists_of_bind_eq_ok h
      obtain ⟨rest, hrest, h⟩ := Except.exists_of_bind_eq_ok h
      rw [← Except.ok.inj h]
      exact .cons hb (ih hrest)

theorem exists_mapM_eq_ok {f g : α → Except ε β} {r : β → β → Prop} {as : List α} {bs : List β}
    (h : ∀ a ∈ as, ∀ b, f a = .ok b → ∃ c, g a = .ok c ∧ r b c) (hf : as.mapM f = .ok bs) :
    ∃ cs, as.mapM g = .ok cs ∧ List.Forall₂ r bs cs := by
  have hsteps := forall₂_of_mapM hf
  clear hf
  induction hsteps with
  | nil => exact ⟨[], rfl, .nil⟩
  | cons hb _ ih =>
      obtain ⟨ha, has⟩ := List.forall_mem_cons.1 h
      obtain ⟨c, hc, hr⟩ := ha _ hb
      obtain ⟨cs, hcs, hrest⟩ := ih has
      refine ⟨c :: cs, ?_, .cons hr hrest⟩
      rw [List.mapM_cons, hc, hcs]
      rfl

theorem mapM_eq_error_iff {f g : α → Except ε β} {as : List α}
    (h : ∀ a ∈ as, ∀ fault, f a = .error fault ↔ g a = .error fault) (fault : ε) :
    as.mapM f = .error fault ↔ as.mapM g = .error fault := by
  induction as with
  | nil => exact Iff.rfl
  | cons a as ih =>
      obtain ⟨ha, has⟩ := List.forall_mem_cons.1 h
      rw [List.mapM_cons, List.mapM_cons]
      cases hf : f a with
      | error cause =>
          rw [(ha cause).1 hf]
          exact Iff.rfl
      | ok b =>
          cases hg : g a with
          | error cause =>
              rw [(ha cause).2 hg] at hf
              cases hf
          | ok c =>
              have hrest := ih has
              cases hf : as.mapM f <;> cases hg : as.mapM g <;>
                simp_all [bind, Except.bind, pure, Except.pure]

theorem exists_of_forall₂ {r : α → β → Prop} {as : List α} {bs : List β} (h : List.Forall₂ r as bs)
    {a : α} (ha : a ∈ as) : ∃ b ∈ bs, r a b := by
  induction h with
  | nil => cases ha
  | cons hr _ ih =>
      rcases List.mem_cons.1 ha with rfl | ha
      · exact ⟨_, List.mem_cons_self, hr⟩
      · obtain ⟨b, hb, hr⟩ := ih ha
        exact ⟨b, List.mem_cons_of_mem _ hb, hr⟩

end Outcome

end Flowchart
