import Mathlib.Data.List.Forall2

/-! When computations that can fail succeed: a sequence if each step does, and a computation over a
list if it does on each member. Which fault there is makes no difference to that. The fault of a
failure is that of the first step, or of the first member, that fails. `Ends` says this of a
computation as a whole, and is put together from the steps. -/

namespace StoryRules

variable {ε α β : Type}

theorem bind_eq_ok {x : Except ε α} {f : α → Except ε β} {b : β} :
    x >>= f = .ok b ↔ ∃ a, x = .ok a ∧ f a = .ok b := by
  cases x <;> simp [bind, Except.bind]

theorem bind_eq_error {x : Except ε α} {f : α → Except ε β} {fault : ε} :
    x >>= f = .error fault ↔ x = .error fault ∨ ∃ a, x = .ok a ∧ f a = .error fault := by
  cases x <;> simp [bind, Except.bind]

theorem pure_eq_ok {a b : α} : (pure a : Except ε α) = .ok b ↔ a = b := by
  simp [pure, Except.pure]

/-- Two computations that answer the same are equal, or fail both, with whatever fault. -/
theorem toOption_eq {x y : Except ε α} (h : x.toOption = y.toOption) :
    x = y ∨ (∃ fault, x = .error fault) ∧ ∃ fault, y = .error fault := by
  cases x with
  | error fault =>
    cases y with
    | error fault' => exact .inr ⟨⟨fault, rfl⟩, fault', rfl⟩
    | ok b => cases h
  | ok a =>
    cases y with
    | error fault => cases h
    | ok b => exact .inl (congrArg _ (Option.some.inj h))

theorem toOption_bind {x y : Except ε α} {f f' : α → Except ε β} (h : x.toOption = y.toOption)
    (hRest : ∀ a, (f a).toOption = (f' a).toOption) :
    (x >>= f).toOption = (y >>= f').toOption := by
  rcases toOption_eq h with rfl | ⟨⟨fault, rfl⟩, fault', rfl⟩
  · cases x with
    | error fault => rfl
    | ok a => exact hRest a
  · rfl

theorem mapM_eq_ok {f : α → Except ε β} {as : List α} {bs : List β} :
    as.mapM f = .ok bs ↔ List.Forall₂ (fun a b => f a = .ok b) as bs := by
  induction as generalizing bs with
  | nil =>
    rw [List.mapM_nil, pure_eq_ok, List.forall₂_nil_left_iff]
    exact eq_comm
  | cons a as ih =>
    simp only [List.mapM_cons, bind_eq_ok, pure_eq_ok, List.forall₂_cons_left_iff, ih]
    constructor
    · rintro ⟨b, hb, bs, hbs, rfl⟩
      exact ⟨b, bs, hb, hbs, rfl⟩
    · rintro ⟨b, bs, hb, hbs, rfl⟩
      exact ⟨b, hb, bs, hbs, rfl⟩

theorem exists_of_mem_mapM {f : α → Except ε β} {as : List α} {bs : List β}
    (h : as.mapM f = .ok bs) {b : β} (hb : b ∈ bs) : ∃ a ∈ as, f a = .ok b := by
  have hBoth := mapM_eq_ok.1 h
  obtain ⟨i, hi, rfl⟩ := List.getElem_of_mem hb
  have hi' : i < as.length := hBoth.length_eq ▸ hi
  exact ⟨as[i], List.getElem_mem hi', hBoth.get hi' hi⟩

/-- If `fails` tells which members fail, and `faultOf` of what, a list fails of the first that
does. -/
theorem mapM_eq_error {f : α → Except ε β} {fails : α → Bool} {faultOf : α → ε}
    (h : ∀ a fault, f a = .error fault ↔ fails a = true ∧ faultOf a = fault) {as : List α}
    {fault : ε} :
    as.mapM f = .error fault ↔ ∃ a, as.find? fails = some a ∧ faultOf a = fault := by
  induction as with
  | nil => simp [pure, Except.pure]
  | cons a as ih =>
    rw [List.mapM_cons, bind_eq_error, List.find?_cons, h]
    cases hFails : fails a with
    | true =>
      have hNotOk (b : β) : f a ≠ .ok b := fun hOk => by
        simp [(h a (faultOf a)).2 ⟨hFails, rfl⟩] at hOk
      simp [hNotOk]
    | false =>
      obtain ⟨b, hb⟩ : ∃ b, f a = .ok b := by
        cases hb : f a with
        | ok b => exact ⟨b, rfl⟩
        | error fault' =>
          have hFails' := ((h a fault').1 hb).1
          simp [hFails] at hFails'
      simp [hb, bind_eq_error, pure, Except.pure, ih]

/-- A computation fails with the first of some faults, and if there are none answers something that
satisfies `P`. -/
inductive Ends (P : α → Prop) : List ε → Except ε α → Prop
  | ok {a : α} (h : P a) : Ends P [] (.ok a)
  | error (fault : ε) (rest : List ε) : Ends P (fault :: rest) (.error fault)

namespace Ends

variable {P P' : α → Prop} {Q : β → Prop} {faults faults' : List ε} {x : Except ε α}

theorem bind {f : α → Except ε β} (hx : Ends P faults x)
    (hf : ∀ a, P a → Ends Q faults' (f a)) : Ends Q (faults ++ faults') (x >>= f) := by
  cases hx with
  | ok h => exact hf _ h
  | error fault rest => exact .error fault (rest ++ faults')

theorem map {f : α → β} (hx : Ends P faults x) (hf : ∀ a, P a → Q (f a)) :
    Ends Q faults (x >>= fun a => pure (f a)) := by
  cases hx with
  | ok h => exact .ok (hf _ h)
  | error fault rest => exact .error fault rest

theorem mono (h : Ends P faults x) (hSub : ∀ a, P a → P' a) : Ends P' faults x := by
  cases h with
  | ok h => exact .ok (hSub _ h)
  | error fault rest => exact .error fault rest

theorem of_eq_ok {a : α} (h : Ends P faults x) (hOk : x = .ok a) : P a := by
  subst hOk
  cases h with
  | ok h => exact h

theorem exists_ok_iff (h : Ends P faults x) : (∃ a, x = .ok a) ↔ faults = [] := by
  cases h <;> simp

theorem eq_error_iff {fault : ε} (h : Ends P faults x) :
    x = .error fault ↔ faults.head? = some fault := by
  cases h <;> simp

end Ends

end StoryRules
