import StoryRules.Proofs.Rule.Chain

/-! The conditions of a rule as one lazy expression. With joiners that leave their second part alone
where the first decides, the conditions nested to the right, `c₁ j₁ (c₂ j₂ (… cₙ))`, come to the
outcome of the rule, be it a value or a failure, and run the same number of predicates
(`evaluate_eq_nested`). The predicates run are those up to the first that settles the chain, and the
outcome is that of the last one run (`continueChain_eq_asked`). -/

namespace StoryRules

/-- A computation that may fail, with a count that goes on after a failure. -/
abbrev Counted := ExceptT RuleFault (StateM Nat)

/-- A joiner between computations: the second one is done only if the first does not decide. -/
def Joiner.lazily : Joiner → Counted Bool → Counted Bool → Counted Bool
  | and => andM
  | or => orM

namespace Link

/-- Runs the predicate of a condition, and counts it. -/
def ask (g : Graph) (s : Selection) (link : Link) : Counted Bool := do
  modify (· + 1)
  link.holds g s

/-- A condition settles its chain if it fails or if its value decides the joiner after it. -/
def settles (g : Graph) (s : Selection) (link : Link) : Bool :=
  match link.holds g s with
  | .error _ => true
  | .ok value => link.joiner.isDecidedBy value

end Link

/-- The conditions `c₁ j₁ (c₂ j₂ (… cₙ))`, nested to the right; without any, true. -/
def nested (g : Graph) (s : Selection) : List Link → Counted Bool
  | [] => pure true
  | [link] => link.ask g s
  | link :: next :: rest => link.joiner.lazily (link.ask g s) (nested g s (next :: rest))

/-- The conditions up to the first that settles the chain. -/
def asked (g : Graph) (s : Selection) (links : List Link) : List Link :=
  links.take (links.findIdx (Link.settles g s) + 1)

def lastOutcome (g : Graph) (s : Selection) (links : List Link) : Except RuleFault Bool :=
  (links.getLast?.map fun link => link.holds g s).getD (.ok true)

section Run

variable {g : Graph} {s : Selection} {link : Link} {links : List Link} {count : Nat}

theorem Link.run_ask : (link.ask g s).run.run count = (link.holds g s, count + 1) := rfl

theorem Counted.run_bind {α β : Type} (x : Counted α) (f : α → Counted β) :
    (x >>= f).run.run count = match x.run.run count with
      | (.ok a, n) => (f a).run.run n
      | (.error fault, n) => (.error fault, n) := by
  show (ExceptT.bindCont f (x.run.run count).1).run (x.run.run count).2 = _
  rcases x.run.run count with ⟨fault | a, n⟩ <;> rfl

/-- A joiner looks at its second part only after a value that does not decide. -/
theorem Joiner.run_lazily (j : Joiner) (x y : Counted Bool) :
    (j.lazily x y).run.run count = match x.run.run count with
      | (.ok value, n) => if j.isDecidedBy value then (.ok value, n) else y.run.run n
      | (.error fault, n) => (.error fault, n) := by
  cases j with
  | and =>
    rw [lazily, andM, Counted.run_bind]
    rcases x.run.run count with ⟨fault | value, n⟩
    · rfl
    · cases value <;> rfl
  | or =>
    rw [lazily, orM, Counted.run_bind]
    rcases x.run.run count with ⟨fault | value, n⟩
    · rfl
    · cases value <;> rfl

theorem asked_cons : asked g s (link :: links) =
    link :: if link.settles g s then [] else asked g s links := by
  cases h : link.settles g s <;> simp [asked, List.findIdx_cons, h]

/-- A value that leaves its joiner undecided has no effect on the rest. -/
theorem continueChain_of_not_decided {value : Bool} {j : Joiner}
    (h : j.isDecidedBy value = false) :
    continueChain g s value j (link :: links) count =
      continueChain g s true .and (link :: links) count := by
  have hStart : Joiner.and.isDecidedBy true = false := rfl
  rw [continueChain, continueChain, h, hStart]
  simp only [Joiner.apply_of_not_decided h, Joiner.apply_of_not_decided hStart,
    if_neg Bool.false_ne_true]

/-- The first condition is the last one run if it settles the chain or nothing follows. -/
theorem continueChain_first :
    continueChain g s true .and (link :: links) count =
      if link.settles g s = true ∨ links = [] then (link.holds g s, count + 1)
      else continueChain g s true .and links (count + 1) := by
  have hStart : Joiner.and.isDecidedBy true = false := rfl
  rw [continueChain, hStart, if_neg Bool.false_ne_true, Link.settles]
  cases link.holds g s with
  | error fault => simp
  | ok value =>
    simp only [Joiner.apply_of_not_decided hStart]
    cases links with
    | nil => simp [continueChain]
    | cons next rest =>
      by_cases hDecided : link.joiner.isDecidedBy value = true
      · simp [continueChain, hDecided]
      · simpa [hDecided] using continueChain_of_not_decided (Bool.eq_false_iff.2 hDecided)

theorem run_nested (links : List Link) (count : Nat) :
    (nested g s links).run.run count = continueChain g s true .and links count := by
  induction links generalizing count with
  | nil => rfl
  | cons link links ih =>
    cases links with
    | nil => rw [continueChain_first, if_pos (.inr rfl), nested, Link.run_ask]
    | cons next rest =>
      rw [continueChain_first, nested, Joiner.run_lazily, Link.run_ask, Link.settles]
      cases link.holds g s with
      | error fault => simp
      | ok value => simp [ih]

/-- The outcome of a chain is that of the last condition asked, and all that are asked count. -/
theorem continueChain_eq_asked (links : List Link) (count : Nat) :
    continueChain g s true .and links count =
      (lastOutcome g s (asked g s links), count + (asked g s links).length) := by
  induction links generalizing count with
  | nil => rfl
  | cons link links ih =>
    rw [continueChain_first, asked_cons]
    by_cases hSettles : link.settles g s = true
    · simp [hSettles, lastOutcome]
    · cases links with
      | nil => simp [hSettles, asked, lastOutcome]
      | cons next rest =>
        rw [if_neg (by simpa using hSettles), if_neg hSettles, ih, asked_cons]
        simp [lastOutcome]
        omega

theorem asked_eq_self (h : ∀ link ∈ links, link.settles g s = false) :
    asked g s links = links := by
  induction links with
  | nil => rfl
  | cons link links ih =>
    obtain ⟨hFirst, hRest⟩ := List.forall_mem_cons.1 h
    rw [asked_cons, hFirst, if_neg Bool.false_ne_true, ih hRest]

theorem asked_append {front : List Link} (hFront : ∀ link ∈ front, link.settles g s = false)
    (hLast : link.settles g s = true) (rest : List Link) :
    asked g s (front ++ link :: rest) = front ++ [link] := by
  induction front with
  | nil => rw [List.nil_append, asked_cons, if_pos hLast, List.nil_append]
  | cons first front ih =>
    obtain ⟨hFirst, hOthers⟩ := List.forall_mem_cons.1 hFront
    rw [List.cons_append, asked_cons, hFirst, if_neg Bool.false_ne_true, ih hOthers,
      List.cons_append]

end Run

namespace CompiledRule

theorem evaluate_eq_asked (r : CompiledRule) (g : Graph) (s : Selection) (count : Nat) :
    r.evaluate g s count =
      (lastOutcome g s (asked g s r.conditions), count + (asked g s r.conditions).length) := by
  rw [evaluate_eq_continueChain, continueChain_eq_asked]

/-- A rule is evaluated as its conditions nested to the right, with lazy joiners: it has the same
outcome, and runs as many predicates. These are all of them if no condition settles the chain. If
one does, the first such is the last one run, and what stands after it makes no difference. -/
theorem evaluate_eq_nested (r : CompiledRule) (g : Graph) (s : Selection) (count : Nat) :
    r.evaluate g s count = (nested g s r.conditions).run.run count ∧
    (r.evaluate g s count).2 = count + (asked g s r.conditions).length ∧
    (asked g s r.conditions).length ≤ r.conditions.length ∧
    (r.conditions ≠ [] → 1 ≤ (asked g s r.conditions).length) ∧
    (asked g s r.conditions = r.conditions ∧
        (∀ link ∈ r.conditions, link.settles g s = false) ∨
      ∃ front last rest, r.conditions = front ++ last :: rest ∧
        asked g s r.conditions = front ++ [last] ∧
        (∀ link ∈ front, link.settles g s = false) ∧ last.settles g s = true ∧
        ∀ others, { r with conditions := front ++ last :: others }.evaluate g s count =
          r.evaluate g s count) := by
  refine ⟨?_, by rw [evaluate_eq_asked], List.length_take_le' _ _, fun hSome => ?_, ?_⟩
  · rw [evaluate_eq_continueChain]
    exact (run_nested _ _).symm
  · obtain ⟨first, rest, hConditions⟩ := List.exists_cons_of_ne_nil hSome
    rw [hConditions, asked_cons, List.length_cons]
    omega
  · cases hFind : r.conditions.find? (Link.settles g s) with
    | none =>
      have hOpen : ∀ link ∈ r.conditions, link.settles g s = false := by
        simpa using List.find?_eq_none.1 hFind
      exact .inl ⟨asked_eq_self hOpen, hOpen⟩
    | some last =>
      obtain ⟨hLast, front, rest, hConditions, hFront⟩ :=
        List.find?_eq_some_iff_append.1 hFind
      have hOpen : ∀ link ∈ front, link.settles g s = false := by simpa using hFront
      have hAsked (others : List Link) :
          asked g s (front ++ last :: others) = front ++ [last] :=
        asked_append hOpen hLast others
      refine .inr ⟨front, last, rest, hConditions, ?_, hOpen, hLast, fun others => ?_⟩
      · rw [hConditions, hAsked]
      · rw [evaluate_eq_asked, evaluate_eq_asked, hConditions, hAsked, hAsked]

/-- Of the mixed rule only the first condition is asked, and the count goes up by one. -/
theorem mixed_nested : mixed.conditions ≠ [] ∧
    1 ≤ (asked fandomOfTag withTag mixed.conditions).length ∧
    (nested fandomOfTag withTag mixed.conditions).run.run 7 = (.ok false, 8) := by
  have hSome : mixed.conditions ≠ [] := List.cons_ne_nil _ _
  obtain ⟨hNested, -, -, hAsked, -⟩ := evaluate_eq_nested mixed fandomOfTag withTag 7
  exact ⟨hSome, hAsked hSome, hNested.symm⟩

/-- The second condition fails, and the third is not asked. -/
example (r : CompiledRule) (g : Graph) (s : Selection) :
    { r with conditions := [⟨.and, fun _ _ => .ok true⟩, ⟨.or, fun _ _ => .error .missingMessage⟩,
        ⟨.and, fun _ _ => .ok true⟩] }.evaluate g s 7 = (.error .missingMessage, 9) := rfl

end CompiledRule

end StoryRules
