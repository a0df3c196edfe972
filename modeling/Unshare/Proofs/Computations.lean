import Mathlib.Data.List.Forall2
import Unshare.Failure

namespace Unshare

theorem bind_eq_ok_iff {ε α β : Type} {act : Except ε α} {next : α → Except ε β} {b : β} :
    act >>= next = .ok b ↔ ∃ a, act = .ok a ∧ next a = .ok b := by
  cases act with
  | error e =>
    constructor
    · rintro ⟨⟩
    · rintro ⟨a, ⟨⟩, -⟩
  | ok a =>
    constructor
    · intro h
      exact ⟨a, rfl, h⟩
    · rintro ⟨_, ⟨⟩, h⟩
      exact h

theorem mapM_eq_ok_iff {ε α β : Type} (f : α → Except ε β) (xs : List α) (ys : List β) :
    xs.mapM f = .ok ys ↔ List.Forall₂ (fun x y => f x = .ok y) xs ys := by
  induction xs generalizing ys with
  | nil =>
    rw [List.mapM_nil, List.forall₂_nil_left_iff]
    constructor
    · rintro ⟨⟩
      rfl
    · rintro rfl
      rfl
  | cons x xs ih =>
    rw [List.mapM_cons, bind_eq_ok_iff, List.forall₂_cons_left_iff]
    constructor
    · rintro ⟨y, hy, h⟩
      obtain ⟨rest, hrest, h⟩ := bind_eq_ok_iff.mp h
      cases h
      exact ⟨y, rest, hy, (ih rest).mp hrest, rfl⟩
    · rintro ⟨y, rest, hy, hrest, rfl⟩
      exact ⟨y, hy, bind_eq_ok_iff.mpr ⟨rest, (ih rest).mpr hrest, rfl⟩⟩

theorem mapM_of_forall_ok {ε α β : Type} {f : α → Except ε β} {g : α → β} {xs : List α}
    (h : ∀ x ∈ xs, f x = .ok (g x)) : xs.mapM f = .ok (xs.map g) :=
  (mapM_eq_ok_iff f xs _).mpr (List.forall₂_map_right_iff.mpr (List.forall₂_same.mpr h))

-- Going through a list ends at the first member that fails.
theorem mapM_of_first_error {ε α β : Type} {f : α → Except ε β} {front back : List α} {x : α} {e : ε}
    (hfront : ∀ y ∈ front, ∃ b, f y = .ok b) (hx : f x = .error e) :
    (front ++ x :: back).mapM f = .error e := by
  induction front with
  | nil =>
    rw [List.nil_append, List.mapM_cons, hx]
    rfl
  | cons y front ih =>
    obtain ⟨⟨b, hb⟩, hrest⟩ := List.forall_mem_cons.mp hfront
    rw [List.cons_append, List.mapM_cons, hb, ih hrest]
    rfl

theorem mapM_eq_error_iff {ε α β : Type} {f : α → Except ε β} {xs : List α} {e : ε} :
    xs.mapM f = .error e ↔ ∃ front x back, xs = front ++ x :: back ∧
      (∀ y ∈ front, ∃ b, f y = .ok b) ∧ f x = .error e := by
  constructor
  · intro h
    induction xs with
    | nil => cases h
    | cons x xs ih =>
      rw [List.mapM_cons] at h
      cases hx : f x with
      | error e' =>
        rw [hx] at h
        cases h
        exact ⟨[], x, xs, rfl, fun y hy => absurd hy List.not_mem_nil, hx⟩
      | ok b =>
        rw [hx] at h
        cases hrest : xs.mapM f with
        | error e' =>
          rw [hrest] at h
          cases h
          obtain ⟨front, y, back, rfl, hfront, hy⟩ := ih hrest
          exact ⟨x :: front, y, back, rfl, List.forall_mem_cons.mpr ⟨⟨b, hx⟩, hfront⟩, hy⟩
        | ok bs =>
          rw [hrest] at h
          cases h
  · rintro ⟨front, x, back, rfl, hfront, hx⟩
    exact mapM_of_first_error hfront hx

section

variable {σ τ α α' β β' : Type}

-- Started in states that go together, the actions come to results that go together and leave states
-- that go together.
def Alike (states : σ → τ → Prop) (results : α → α' → Prop) (act : StateM σ α)
    (act' : StateM τ α') : Prop :=
  ∀ x y, states x y → results (act.run x).1 (act'.run y).1 ∧ states (act.run x).2 (act'.run y).2

variable {states : σ → τ → Prop} {results : α → α' → Prop} {last : β → β' → Prop}

theorem Alike.pure {a : α} {a' : α'} (h : results a a') :
    Alike states results (Pure.pure a) (Pure.pure a') :=
  fun _ _ hstates => ⟨h, hstates⟩

theorem Alike.ignore {act : StateM σ α} {act' : StateM τ α'} (h : Alike states results act act') :
    Alike states (fun _ _ => True) act act' := by
  intro x y hstates
  exact ⟨trivial, (h x y hstates).2⟩

theorem Alike.bind {act : StateM σ α} {act' : StateM τ α'} {next : α → StateM σ β}
    {next' : α' → StateM τ β'} (h : Alike states results act act')
    (hnext : ∀ a a', results a a' → Alike states last (next a) (next' a')) :
    Alike states last (act >>= next) (act' >>= next') := by
  intro x y hstates
  obtain ⟨hresult, hmid⟩ := h x y hstates
  exact hnext _ _ hresult _ _ hmid

end

section

variable {σ α β : Type} {act : StateM σ α} {next : α → StateM σ β}

theorem run_bind_of_run {s t : σ} {a : α} (h : act.run s = (a, t)) :
    (act >>= next).run s = (next a).run t := by
  rw [StateT.run_bind, h]
  rfl

-- A plain value behind an action leaves the state as the action left it.
theorem snd_run_bind_pure (h : ∀ a, ∃ b, next a = pure b) (s : σ) :
    ((act >>= next).run s).2 = (act.run s).2 := by
  obtain ⟨b, hb⟩ := h (act.run s).1
  have hrun : act.run s = ((act.run s).1, (act.run s).2) := rfl
  rw [run_bind_of_run hrun, hb]
  rfl

end

end Unshare
