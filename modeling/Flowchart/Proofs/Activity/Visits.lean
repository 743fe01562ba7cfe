import Mathlib.Data.List.Nodup
import Mathlib.Logic.Relation

/-!
# Depth-first visits

A graph is visited depth first, from one root after the other: what was seen already is passed by,
and what is new is seen before all that it leads to. The order in which all is seen depends on the
graph and the roots alone, and is kept if it is taken for the order of the roots.
-/

namespace Flowchart.Activity

/-- From a list of what is to be done and one of what was seen, to the list of what is seen in the
end. -/
inductive Visits {α : Type} (next : α → List α) : List α → List α → List α → Prop
  | done (seen : List α) : Visits next [] seen seen
  | known {a : α} {todo seen later : List α} (h : a ∈ seen) (rest : Visits next todo seen later) :
      Visits next (a :: todo) seen later
  | new {a : α} {todo seen later : List α} (h : a ∉ seen)
      (rest : Visits next (next a ++ todo) (seen ++ [a]) later) : Visits next (a :: todo) seen later

namespace Visits

variable {α β : Type} {next : α → List α} {todo more seen middle later : List α}

theorem unique {other : List α} (h : Visits next todo seen later)
    (h' : Visits next todo seen other) : later = other := by
  induction h with
  | done seen =>
      cases h'
      rfl
  | known hmem _ ih =>
      cases h' with
      | known _ rest => exact ih rest
      | new hnew _ => exact absurd hmem hnew
  | new hnew _ ih =>
      cases h' with
      | known hmem _ => exact absurd hmem hnew
      | new _ rest => exact ih rest

theorem root {a : α} (h : a ∉ seen) (rest : Visits next (next a) (seen ++ [a]) later) :
    Visits next [a] seen later :=
  .new h (by rwa [List.append_nil])

theorem append (h : Visits next todo seen middle) (hmore : Visits next more middle later) :
    Visits next (todo ++ more) seen later := by
  induction h with
  | done seen => exact hmore
  | known hmem _ ih => exact .known hmem (ih hmore)
  | new hnew _ ih => exact .new hnew (List.append_assoc .. ▸ ih hmore)

theorem exists_of_append (h : Visits next (todo ++ more) seen later) :
    ∃ middle, Visits next todo seen middle ∧ Visits next more middle later := by
  generalize hall : todo ++ more = all at h
  induction h generalizing todo with
  | done seen =>
      obtain ⟨rfl, rfl⟩ := List.append_eq_nil_iff.1 hall
      exact ⟨seen, .done seen, .done seen⟩
  | @known a all seen later hmem rest ih =>
      cases todo with
      | nil =>
          subst hall
          exact ⟨seen, .done seen, .known hmem rest⟩
      | cons b todo =>
          obtain ⟨rfl, rfl⟩ := List.cons.inj hall
          obtain ⟨middle, hfirst, hlast⟩ := ih rfl
          exact ⟨middle, .known hmem hfirst, hlast⟩
  | @new a all seen later hnew rest ih =>
      cases todo with
      | nil =>
          subst hall
          exact ⟨seen, .done seen, .new hnew rest⟩
      | cons b todo =>
          obtain ⟨rfl, rfl⟩ := List.cons.inj hall
          obtain ⟨middle, hfirst, hlast⟩ := ih (List.append_assoc ..)
          exact ⟨middle, .new hnew hfirst, hlast⟩

theorem extends_seen (h : Visits next todo seen later) : ∃ new, later = seen ++ new := by
  induction h with
  | done seen => exact ⟨[], (List.append_nil seen).symm⟩
  | known _ _ ih => exact ih
  | @new a _ seen _ _ _ ih =>
      obtain ⟨new, hnew⟩ := ih
      exact ⟨a :: new, by rw [hnew, List.append_assoc, List.singleton_append]⟩

theorem todo_subset (h : Visits next todo seen later) : todo ⊆ later := by
  induction h with
  | done seen => exact List.nil_subset seen
  | known hmem rest ih =>
      obtain ⟨new, rfl⟩ := rest.extends_seen
      exact List.cons_subset.2 ⟨List.mem_append_left _ hmem, ih⟩
  | new _ rest ih =>
      obtain ⟨new, rfl⟩ := rest.extends_seen
      exact List.cons_subset.2 ⟨by simp, (List.append_subset.1 ih).2⟩

theorem closed (h : Visits next todo seen later) (hseen : ∀ a ∈ seen, next a ⊆ later) :
    ∀ a ∈ later, next a ⊆ later := by
  induction h with
  | done seen => exact hseen
  | known _ _ ih => exact ih hseen
  | new _ rest ih =>
      refine ih (List.forall_mem_append.2 ⟨hseen, List.forall_mem_singleton.2 ?_⟩)
      exact (List.append_subset.1 rest.todo_subset).1

theorem of_known (h : ∀ a ∈ todo, a ∈ seen) : Visits next todo seen seen := by
  induction todo with
  | nil => exact .done seen
  | cons a todo ih =>
      obtain ⟨ha, htodo⟩ := List.forall_mem_cons.1 h
      exact .known ha (ih htodo)

theorem head?_eq {a : α} (h : Visits next (a :: todo) [] later) : later.head? = some a := by
  cases h with
  | known hmem _ => cases hmem
  | new _ rest =>
      obtain ⟨new, rfl⟩ := rest.extends_seen
      rfl

/-- Visiting again from what was seen, roots among it, sees all in the same order. -/
theorem again {p : α → Bool} (hp : ∀ a ∈ todo, p a = true) (h : Visits next todo seen later)
    {new : List α} (hnew : later = seen ++ new) : Visits next (new.filter p) seen later := by
  induction todo generalizing seen new with
  | nil =>
      cases h
      obtain rfl : new = [] := by simpa using hnew
      exact .done _
  | cons a todo ih =>
      obtain ⟨ha, htodo⟩ := List.forall_mem_cons.1 hp
      have hall : Visits next ([a] ++ todo) seen later := h
      obtain ⟨middle, hfirst, hrest⟩ := hall.exists_of_append
      obtain ⟨first, hmiddle⟩ := hfirst.extends_seen
      obtain ⟨last, hlast⟩ := hrest.extends_seen
      obtain rfl : new = first ++ last := by
        rw [hlast, hmiddle, List.append_assoc] at hnew
        exact (List.append_cancel_left hnew).symm
      have hagain : Visits next (last.filter p) middle later := ih htodo hrest hlast
      -- What the first root led to is known once the root was visited.
      have hroot : Visits next (first.filter p) seen middle := by
        cases hfirst with
        | known hmem rest =>
            cases rest
            obtain rfl : first = [] := by simpa using hmiddle
            exact .done _
        | new hfresh rest =>
            obtain ⟨others, hothers⟩ := rest.extends_seen
            obtain rfl : first = a :: others := by
              rw [hothers, List.append_assoc] at hmiddle
              exact (List.append_cancel_left hmiddle).symm
            rw [List.filter_cons_of_pos ha]
            have hself : Visits next [a] seen middle := .new hfresh rest
            refine hself.append (of_known fun other hother => ?_)
            rw [hmiddle]
            exact List.mem_append_right _ (List.mem_cons_of_mem _ (List.mem_filter.1 hother).1)
      rw [List.filter_append]
      exact hroot.append hagain

theorem exists_before (h : Visits next todo seen later) {before after : List α} {a : α}
    (ha : later = before ++ a :: after) : a ∈ seen ∨ a ∈ todo ∨ ∃ b ∈ before, a ∈ next b := by
  induction h with
  | done seen => exact .inl (by simp [ha])
  | known _ _ ih =>
      rcases ih ha with hseen | htodo | hbefore
      · exact .inl hseen
      · exact .inr (.inl (List.mem_cons_of_mem _ htodo))
      · exact .inr (.inr hbefore)
  | @new b todo seen later hnew rest ih =>
      rcases ih ha with hseen | htodo | hbefore
      · rcases List.mem_append.1 hseen with hseen | hself
        · exact .inl hseen
        · exact .inr (.inl (List.mem_singleton.1 hself ▸ List.mem_cons_self))
      · rcases List.mem_append.1 htodo with hnext | htodo
        -- If it comes later, it stands behind `b`, which leads to it.
        · by_cases hseen : a ∈ seen ++ [b]
          · rcases List.mem_append.1 hseen with hseen | hself
            · exact .inl hseen
            · exact .inr (.inl (List.mem_singleton.1 hself ▸ List.mem_cons_self))
          · obtain ⟨new, hlater⟩ := rest.extends_seen
            rw [ha] at hlater
            refine .inr (.inr ⟨b, ?_, hnext⟩)
            rcases List.append_eq_append_iff.1 hlater with ⟨part, hpart, hrest⟩ | ⟨part, hpart, -⟩
            · cases part with
              | nil =>
                  rw [List.append_nil] at hpart
                  rw [← hpart]
                  exact List.mem_append_right _ List.mem_cons_self
              | cons c part =>
                  obtain ⟨rfl, -⟩ := List.cons.inj hrest
                  exact absurd (hpart ▸ List.mem_append_right _ List.mem_cons_self) hseen
            · rw [hpart]
              exact List.mem_append_left _ (List.mem_append_right _ List.mem_cons_self)
        · exact .inr (.inl (List.mem_cons_of_mem _ htodo))
      · exact .inr (.inr hbefore)

theorem nodup (h : Visits next todo seen later) (hseen : seen.Nodup) : later.Nodup := by
  induction h with
  | done seen => exact hseen
  | known _ _ ih => exact ih hseen
  | new hnew _ ih =>
      rw [← List.concat_eq_append] at ih
      exact ih (hseen.concat hnew)

theorem subset {all : List α} (h : Visits next todo seen later) (htodo : todo ⊆ all)
    (hseen : seen ⊆ all) (hnext : ∀ a, next a ⊆ all) : later ⊆ all := by
  induction h with
  | done seen => exact hseen
  | known _ _ ih => exact ih (List.cons_subset.1 htodo).2 hseen
  | @new a _ _ _ _ _ ih =>
      obtain ⟨ha, htodo⟩ := List.cons_subset.1 htodo
      exact ih (List.append_subset.2 ⟨hnext a, htodo⟩)
        (List.append_subset.2 ⟨hseen, List.cons_subset.2 ⟨ha, List.nil_subset _⟩⟩)

theorem led (h : Visits next todo seen later) :
    ∀ a ∈ later, a ∈ seen ∨
      ∃ root ∈ todo, Relation.ReflTransGen (fun a b => b ∈ next a) root a := by
  induction h with
  | done seen => exact fun a ha => .inl ha
  | known _ _ ih =>
      intro a ha
      rcases ih a ha with hseen | ⟨root, hroot, hled⟩
      · exact .inl hseen
      · exact .inr ⟨root, List.mem_cons_of_mem _ hroot, hled⟩
  | @new b todo seen later _ _ ih =>
      intro a ha
      rcases ih a ha with hseen | ⟨root, hroot, hled⟩
      · rcases List.mem_append.1 hseen with hseen | hself
        · exact .inl hseen
        · exact .inr ⟨b, List.mem_cons_self, List.mem_singleton.1 hself ▸ .refl⟩
      · rcases List.mem_append.1 hroot with hroot | hroot
        · exact .inr ⟨b, List.mem_cons_self, .head hroot hled⟩
        · exact .inr ⟨root, List.mem_cons_of_mem _ hroot, hled⟩

theorem mem_of_led {a root : α} (h : Visits next todo [] later) (hroot : root ∈ todo)
    (hled : Relation.ReflTransGen (fun a b => b ∈ next a) root a) : a ∈ later := by
  induction hled with
  | refl => exact h.todo_subset hroot
  | tail _ hnext ih => exact h.closed (fun _ hmem => absurd hmem List.not_mem_nil) _ ih hnext

theorem map {f : α → β} {g : β → List β} {p : α → Prop}
    (hnext : ∀ a, p a → g (f a) = (next a).map f) (hclosed : ∀ a, p a → ∀ b ∈ next a, p b)
    (hinj : ∀ a b, p a → p b → f a = f b → a = b) (h : Visits next todo seen later)
    (htodo : ∀ a ∈ todo, p a) (hseen : ∀ a ∈ seen, p a) :
    Visits g (todo.map f) (seen.map f) (later.map f) := by
  induction h with
  | done seen => exact .done _
  | known hmem _ ih =>
      exact .known (List.mem_map_of_mem hmem) (ih (List.forall_mem_cons.1 htodo).2 hseen)
  | @new a todo seen later hnew _ ih =>
      obtain ⟨ha, htodo⟩ := List.forall_mem_cons.1 htodo
      have hnew' : f a ∉ seen.map f := by
        intro hmem
        obtain ⟨b, hb, heq⟩ := List.mem_map.1 hmem
        exact hnew (hinj b a (hseen b hb) ha heq ▸ hb)
      have hrest := ih (List.forall_mem_append.2 ⟨hclosed a ha, htodo⟩)
        (List.forall_mem_append.2 ⟨hseen, List.forall_mem_singleton.2 ha⟩)
      rw [List.map_append, List.map_append, ← hnext a ha] at hrest
      exact .new hnew' hrest

end Visits

end Flowchart.Activity
