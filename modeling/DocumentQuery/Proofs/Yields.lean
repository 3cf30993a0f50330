import Mathlib.Tactic.Common

/-! # What a result that may fail yields, and how it fails

`Yields P r` says of a result that may also be an error: if there is an answer, `P` holds of it.  `FailsWith P r`
says the same of the error, if there is one.  The rules below follow the ways in which results are put together. -/

namespace DocumentQuery

/-- The answer has a property, if there is one. -/
def Yields {ε α : Type} (P : α → Prop) (r : Except ε α) : Prop := ∀ a, r = .ok a → P a

namespace Yields

variable {ε ε' α β : Type} {P : α → Prop} {Q : β → Prop} {r : Except ε α}

theorem ok {a : α} (h : P a) : Yields P (.ok a : Except ε α) := by
  intro b hb
  cases hb
  exact h

theorem error {e : ε} : Yields P (.error e) := nofun

theorem always (h : ∀ a, P a) : Yields P r := fun a _ => h a

theorem mono {Q : α → Prop} (hr : Yields P r) (h : ∀ a, P a → Q a) : Yields Q r := fun a ha => h a (hr a ha)

theorem bind {f : α → Except ε β} (hr : Yields P r) (hf : ∀ a, P a → Yields Q (f a)) : Yields Q (r >>= f) := by
  intro b hb
  cases r with
  | error e => cases hb
  | ok a => exact hf a (hr a rfl) b hb

theorem map {f : α → β} (hr : Yields P r) (hf : ∀ a, P a → Q (f a)) : Yields Q (r.map f) := by
  intro b hb
  cases r with
  | error e => cases hb
  | ok a =>
      cases hb
      exact hf a (hr a rfl)

theorem bind_of_forall {f : α → Except ε β} (h : ∀ a, Yields Q (f a)) : Yields Q (r >>= f) :=
  bind (.always fun _ => trivial) fun a (_ : True) => h a

theorem map_of_forall {f : α → β} (h : ∀ a, Q (f a)) : Yields Q (r.map f) :=
  map (.always fun _ => trivial) fun a (_ : True) => h a

theorem mapError {f : ε → ε'} (hr : Yields P r) : Yields P (r.mapError f) := by
  intro a ha
  cases r with
  | error e => cases ha
  | ok b =>
      cases ha
      exact hr a rfl

/-- A list of answers consists of answers. -/
theorem mapM {f : α → Except ε β} {l : List α} (h : ∀ a ∈ l, Yields Q (f a)) :
    Yields (fun bs => ∀ b ∈ bs, Q b) (l.mapM f) := by
  induction l with
  | nil => exact ok fun b hb => absurd hb List.not_mem_nil
  | cons a l ih =>
      obtain ⟨hhead, htail⟩ := List.forall_mem_cons.mp h
      rw [List.mapM_cons]
      exact hhead.bind fun b hb => (ih htail).bind fun bs hbs => ok (List.forall_mem_cons.mpr ⟨hb, hbs⟩)

end Yields

/-- The error has a property, if there is one. -/
def FailsWith {ε α : Type} (P : ε → Prop) (r : Except ε α) : Prop := ∀ e, r = .error e → P e

namespace FailsWith

variable {ε α β : Type} {P : ε → Prop} {r : Except ε α}

theorem ok {a : α} : FailsWith P (.ok a : Except ε α) := nofun

theorem error {e : ε} (h : P e) : FailsWith P (.error e : Except ε α) := by
  intro d hd
  cases hd
  exact h

/-- The first step may fail, and then the second one on any answer of the first. -/
theorem bind {f : α → Except ε β} (hr : FailsWith P r) (hf : ∀ a, FailsWith P (f a)) :
    FailsWith P (r >>= f) := by
  intro e he
  cases r with
  | error d =>
      cases he
      exact hr _ rfl
  | ok a => exact hf a e he

theorem map {f : α → β} (hr : FailsWith P r) : FailsWith P (r.map f) := by
  intro e he
  cases r with
  | error d =>
      cases he
      exact hr _ rfl
  | ok a => cases he

/-- A step on an optional operand fails as the step does. -/
theorem optionMapM {f : α → Except ε β} (h : ∀ a, FailsWith P (f a)) (o : Option α) :
    FailsWith P (o.mapM f) := by
  cases o with
  | none => exact ok
  | some a => exact map (h a)

end FailsWith

end DocumentQuery
