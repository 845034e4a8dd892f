import Mathlib.Logic.Basic

/-!
# Go's error returns

A Go function that returns a result and an error is modelled in `Except`: a non-nil error is
`.error`, and the caller's `if err != nil { return ..., err }` is the monad's bind. These
lemmas read a run that returned back through its binds, maps and loops.
-/

namespace Hybridnet

variable {ε α β : Type}

theorem except_ok_bind (a : α) (f : α → Except ε β) : (Except.ok a >>= f : Except ε β) = f a :=
  rfl

theorem except_error_bind (e : ε) (f : α → Except ε β) :
    (Except.error e >>= f : Except ε β) = .error e := rfl

theorem ok_of_bind_eq_ok {x : Except ε α} {f : α → Except ε β} {b : β}
    (bound : x >>= f = .ok b) : ∃ a, x = .ok a ∧ f a = .ok b := by
  cases x with
  | error => cases bound
  | ok a => exact ⟨a, rfl, bound⟩

theorem ok_of_map_eq_ok {f : α → β} {x : Except ε α} {b : β}
    (mapped : x.map f = .ok b) : ∃ a, x = .ok a ∧ b = f a := by
  cases x with
  | error => cases mapped
  | ok a => exact ⟨a, rfl, (Except.ok.inj mapped).symm⟩

theorem exists_ok_map {f : α → β} {x : Except ε α} :
    (∃ b, x.map f = .ok b) ↔ ∃ a, x = .ok a := by
  cases x <;> simp [Except.map]

/-- A loop whose body returns only an error returns exactly when every round does. -/
theorem forM_except_eq_ok (f : α → Except ε Unit) :
    ∀ l : List α, l.forM f = .ok () ↔ ∀ a ∈ l, f a = .ok ()
  | [] => ⟨fun _ _ member => (nomatch member), fun _ => rfl⟩
  | a :: l => by
    rw [List.forall_mem_cons]
    show (f a >>= fun _ => l.forM f) = _ ↔ _
    cases f a with
    | error err => exact ⟨fun failed => (nomatch failed), fun ⟨failed, _⟩ => nomatch failed⟩
    | ok u => exact (forM_except_eq_ok f l).trans ⟨fun rest => ⟨rfl, rest⟩, And.right⟩

/-- A loop that collects what each round returns returns exactly when every round does, with
the rounds' results in order. -/
theorem mapM_except_eq_ok (f : α → Except ε β) :
    ∀ (l : List α) (bs : List β), l.mapM f = .ok bs ↔ l.map f = bs.map .ok
  | [], [] => ⟨fun _ => rfl, fun _ => rfl⟩
  | [], _ :: _ => ⟨fun returned => (nomatch returned), fun mapped => nomatch mapped⟩
  | a :: l, bs => by
    rw [List.mapM_cons, List.map_cons]
    cases f a with
    | error e => cases bs <;> simp [bind, Except.bind]
    | ok b =>
      cases bs with
      | nil => cases l.mapM f <;> simp [bind, Except.bind, pure, Except.pure]
      | cons b' bs =>
        rw [List.map_cons, List.cons.injEq, ← mapM_except_eq_ok f l bs]
        cases l.mapM f <;> simp [bind, Except.bind, pure, Except.pure, and_comm]

/-- A loop that collects what each round returns fails with the error of the first round that
fails. -/
theorem mapM_except_eq_error (f : α → Except ε β) {e : ε} :
    ∀ {l : List α}, l.mapM f = .error e →
      ∃ pre a post, l = pre ++ a :: post ∧ (∀ x ∈ pre, ∃ b, f x = .ok b) ∧ f a = .error e
  | [], failed => nomatch failed
  | a :: l, failed => by
    rw [List.mapM_cons] at failed
    cases first : f a with
    | error e' =>
      rw [first] at failed
      cases failed
      exact ⟨[], a, l, rfl, fun _ member => (nomatch member), first⟩
    | ok b =>
      rw [first] at failed
      cases rest : l.mapM f with
      | ok bs => rw [rest] at failed; cases failed
      | error e' =>
        rw [rest] at failed
        cases failed
        obtain ⟨pre, a', post, rfl, returned, failing⟩ := mapM_except_eq_error f rest
        exact ⟨a :: pre, a', post, rfl, List.forall_mem_cons.2 ⟨⟨b, first⟩, returned⟩, failing⟩

end Hybridnet
