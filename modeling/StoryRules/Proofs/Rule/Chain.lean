import Mathlib.Data.List.Infix
import StoryRules.Rule.Compiled

/-! What the conditions of a rule come to. The values of the conditions are folded from the left,
and a rule hears its chain only up to the first place where the folded value decides the next
joiner. For joiners of one kind the rest would change nothing. For mixed joiners it can. -/

namespace StoryRules

namespace Joiner

/-- The value that decides a joined pair. -/
def deciding : Joiner → Bool
  | and => false
  | or => true

theorem isDecidedBy_iff {j : Joiner} {value : Bool} :
    j.isDecidedBy value = true ↔ value = j.deciding := by
  cases j <;> cases value <;> decide

@[simp] theorem isDecidedBy_deciding (j : Joiner) : j.isDecidedBy j.deciding = true :=
  isDecidedBy_iff.2 rfl

@[simp] theorem apply_deciding (j : Joiner) (next : Bool) :
    j.apply j.deciding next = j.deciding := by
  cases j <;> cases next <;> decide

theorem apply_of_not_decided {j : Joiner} {value : Bool} (h : j.isDecidedBy value = false)
    (next : Bool) : j.apply value next = next := by
  cases j <;> cases value <;> cases next <;> first | rfl | cases h

@[simp] theorem apply_same (j : Joiner) (value : Bool) : j.apply value value = value := by
  cases j <;> cases value <;> decide

theorem apply_not_deciding {j other : Joiner} (h : other ≠ j) :
    other.apply j.deciding (!j.deciding) = !j.deciding := by
  cases j <;> cases other <;> first | decide | exact absurd rfl h

end Joiner

/-- The values of some conditions, each with the joiner to the one after it. -/
abbrev Chain := List (Bool × Joiner)

namespace Chain

def join (before next : Bool × Joiner) : Bool × Joiner :=
  (before.2.apply before.1 next.1, next.2)

def fold (chain : Chain) : Bool × Joiner := chain.foldl join (true, .and)

/-- The value of a chain folded from the left; that of the empty chain is true. -/
def value (chain : Chain) : Bool := chain.fold.1

example (a b c : Bool) (j j' j'' : Joiner) :
    value [(a, j), (b, j'), (c, j'')] = j'.apply (j.apply a b) c := rfl

/-- Whether the value of a chain decides its last joiner, whatever comes next. -/
def isDecided (chain : Chain) : Bool := chain.fold.2.isDecidedBy chain.fold.1

/-- The shortest beginning of a chain that is decided, or all of the chain. -/
def heard (chain : Chain) : Chain := (chain.inits.find? isDecided).getD chain

/-- The joiners that join something; the one after the last condition does not. -/
def joiners (chain : Chain) : List Joiner := (chain.map Prod.snd).dropLast

theorem fold_concat (front : Chain) (next : Bool × Joiner) :
    fold (front ++ [next]) = join (fold front) next := by
  simp [fold]

theorem joiners_append (front : Chain) (last : Bool) (j : Joiner) {rest : Chain}
    (h : rest ≠ []) :
    joiners (front ++ [(last, j)] ++ rest) = front.map Prod.snd ++ j :: joiners rest := by
  have hRest : rest.map Prod.snd ≠ [] := by simpa using h
  simp only [joiners, List.map_append, List.map_cons, List.map_nil, List.append_assoc]
  rw [List.dropLast_append_of_ne_nil (by simp), List.singleton_append,
    List.dropLast_cons_of_ne_nil hRest]

/-- What is heard of a chain that goes on with `rest` after `front`. -/
def heardAfter (front rest : Chain) : Chain :=
  ((rest.inits.map (front ++ ·)).find? isDecided).getD (front ++ rest)

theorem heard_eq_heardAfter (chain : Chain) : heard chain = heardAfter [] chain := by
  simp [heard, heardAfter]

theorem heardAfter_nil (front : Chain) : heardAfter front [] = front := by
  cases h : isDecided front <;> simp [heardAfter, h]

theorem heardAfter_cons (front rest : Chain) (next : Bool × Joiner) :
    heardAfter front (next :: rest) =
      if isDecided front then front else heardAfter (front ++ [next]) rest := by
  rw [heardAfter, List.inits_cons, List.map_cons, List.map_map, List.append_nil, List.find?_cons]
  cases isDecided front <;> simp [heardAfter, Function.comp_def]

theorem heard_spec (chain : Chain) :
    ∃ rest, heard chain ++ rest = chain ∧ (rest = [] ∨ isDecided (heard chain) = true) := by
  cases hFind : chain.inits.find? isDecided with
  | none => exact ⟨[], by simp [heard, hFind], .inl rfl⟩
  | some front =>
    have hHeard : heard chain = front := by simp [heard, hFind]
    obtain ⟨rest, hRest⟩ := (List.mem_inits front chain).1 (List.mem_of_find?_eq_some hFind)
    exact ⟨rest, hHeard ▸ hRest, .inr (hHeard ▸ List.find?_some hFind)⟩

/-- A value that decides the joiner lasts as long as the joiners are of that kind. -/
theorem foldl_join_deciding {j : Joiner} {rest : Chain} (h : ∀ j' ∈ joiners rest, j' = j) :
    (rest.foldl join (j.deciding, j)).1 = j.deciding := by
  induction rest with
  | nil => rfl
  | cons next rest ih =>
    obtain ⟨value, j'⟩ := next
    have hNext : join (j.deciding, j) (value, j') = (j.deciding, j') := by simp [join]
    rw [List.foldl_cons, hNext]
    cases rest with
    | nil => rfl
    | cons next' rest =>
      obtain rfl : j' = j := h j' (by simp [joiners])
      exact ih fun j'' hMem => h j'' (by simp_all [joiners])

theorem foldl_join_same (value : Bool) (j : Joiner) (js : List Joiner) :
    ((js.map fun j' => (value, j')).foldl join (value, j)).1 = value := by
  induction js generalizing j with
  | nil => rfl
  | cons j' js ih => simpa [join] using ih j'

/-- After a value that decides the first joiner, the opposite value gets through at the first joiner
of the other kind. -/
theorem foldl_join_not_deciding {j : Joiner} {js : List Joiner}
    (h : ∃ j' ∈ (j :: js).dropLast, j' ≠ j) :
    ((js.map fun j' => (!j.deciding, j')).foldl join (j.deciding, j)).1 = !j.deciding := by
  induction js with
  | nil => simp at h
  | cons j' js ih =>
    have hNext : join (j.deciding, j) (!j.deciding, j') = (j.deciding, j') := by simp [join]
    rw [List.map_cons, List.foldl_cons, hNext]
    by_cases hSame : j' = j
    · subst hSame
      exact ih (by simpa using h)
    -- the value still decides `j` and no longer decides the joiner before the next one
    · cases js with
      | nil => simp at h
      | cons j'' js =>
        have hTurn : join (j.deciding, j') (!j.deciding, j'') = (!j.deciding, j'') := by
          simp [join, Joiner.apply_not_deciding hSame]
        rw [List.map_cons, List.foldl_cons, hTurn]
        exact foldl_join_same _ _ _

end Chain

def OneKind (js : List Joiner) : Prop := ∀ j ∈ js, ∀ j' ∈ js, j = j'

/-- If the joiners are of one kind, a chain has the value of what is heard of it. -/
theorem OneKind.value_heard {chain : Chain} (h : OneKind chain.joiners) :
    Chain.value (Chain.heard chain) = Chain.value chain := by
  obtain ⟨rest, hChain, rfl | hDecided⟩ := Chain.heard_spec chain
  · rw [List.append_nil] at hChain
    rw [hChain]
  generalize Chain.heard chain = heard at hChain hDecided
  subst hChain
  -- nothing decides the empty chain, so the last joiner heard is one of the chain
  obtain rfl | ⟨front, ⟨last, j⟩, rfl⟩ := List.eq_nil_or_concat heard
  · simp [Chain.isDecided, Chain.fold, Joiner.isDecidedBy] at hDecided
  rw [List.concat_eq_append] at *
  have hFold : Chain.fold (front ++ [(last, j)]) = (j.deciding, j) := by
    rw [Chain.isDecided, Joiner.isDecidedBy_iff, Chain.fold_concat] at hDecided
    rw [Chain.fold_concat]
    exact Prod.ext hDecided rfl
  have hRest : ∀ j' ∈ Chain.joiners rest, j' = j := by
    intro j' hMem
    have hNe : rest ≠ [] := by
      rintro rfl
      simp [Chain.joiners] at hMem
    rw [Chain.joiners_append front last j hNe] at h
    exact h j' (by simp [hMem]) j (by simp)
  have hValue := Chain.foldl_join_deciding hRest
  rw [← hFold] at hValue
  simp only [Chain.value, Chain.fold, List.foldl_append] at hValue hFold ⊢
  rw [hValue, hFold]

def Link.answer (g : Graph) (s : Selection) (link : Link) : Bool × Joiner :=
  ((link.holds g s).toOption.getD false, link.joiner)

/-- Evaluation goes on with a chain, of which `front` has been heard, as far as it is heard. -/
theorem continueChain_eq {g : Graph} {s : Selection} {links : List Link}
    (h : ∀ link ∈ links, ∃ value, link.holds g s = .ok value) (front : Chain) (count : Nat) :
    (continueChain g s front.fold.1 front.fold.2 links count).1 =
      .ok (Chain.heardAfter front (links.map (Link.answer g s))).value := by
  induction links generalizing front count with
  | nil => rw [continueChain, List.map_nil, Chain.heardAfter_nil, Chain.value]
  | cons link links ih =>
    obtain ⟨⟨value, hValue⟩, hLinks⟩ := List.forall_mem_cons.1 h
    have hAnswer : link.answer g s = (value, link.joiner) := by
      simp [Link.answer, hValue, Except.toOption]
    rw [List.map_cons, Chain.heardAfter_cons, continueChain, hValue]
    cases hDecided : Chain.isDecided front with
    | true =>
      rw [if_pos rfl, if_pos (show front.fold.2.isDecidedBy front.fold.1 = true from hDecided)]
      rfl
    | false =>
      have hGoesOn : ¬front.fold.2.isDecidedBy front.fold.1 = true := by
        simpa [Chain.isDecided] using hDecided
      have hNext := ih hLinks (front ++ [link.answer g s]) (count + 1)
      rw [Chain.fold_concat, hAnswer] at hNext
      rw [if_neg hGoesOn, if_neg Bool.false_ne_true, hAnswer]
      exact hNext

namespace CompiledRule

def Answers (r : CompiledRule) (g : Graph) (s : Selection) : Prop :=
  ∀ link ∈ r.conditions, ∃ value, link.holds g s = .ok value

def chain (r : CompiledRule) (g : Graph) (s : Selection) : Chain :=
  r.conditions.map (Link.answer g s)

def joiners (r : CompiledRule) : List Joiner := (r.conditions.map Link.joiner).dropLast

theorem joiners_chain (r : CompiledRule) (g : Graph) (s : Selection) :
    (r.chain g s).joiners = r.joiners := by
  simp [Chain.joiners, chain, joiners, Link.answer, Function.comp_def]

theorem evaluate_eq_continueChain (r : CompiledRule) (g : Graph) (s : Selection) (count : Nat) :
    r.evaluate g s count = continueChain g s true .and r.conditions count := by
  rw [evaluate]
  cases r.conditions with
  | nil => rfl
  | cons link rest => simp [continueChain, Joiner.isDecidedBy, Joiner.apply]

theorem evaluate_heard {r : CompiledRule} {g : Graph} {s : Selection} (h : r.Answers g s)
    (count : Nat) : (r.evaluate g s count).1 = .ok (r.chain g s).heard.value := by
  rw [evaluate_eq_continueChain, Chain.heard_eq_heardAfter]
  exact continueChain_eq h [] count

end CompiledRule

/-- A test that has the same outcome for every selection. -/
def Test.constant : Bool → Test
  | true => .hasTag .noneOf []
  | false => .hasTag .someOf []

theorem Test.compile_constant (value : Bool) (g : Graph) (s : Selection) :
    (Test.constant value).compile g s = .ok value := by
  cases value <;> rfl

def RuleCondition.constant (value : Bool) (j : Joiner) : RuleCondition := ⟨.constant value, j⟩

theorem RuleCondition.answer_constant (value : Bool) (j : Joiner) (g : Graph) (s : Selection) :
    (RuleCondition.constant value j).compile.answer g s = (value, j) := by
  simp [RuleCondition.constant, RuleCondition.compile, Link.answer, Test.compile_constant,
    Except.toOption]

namespace Rule

/-- A rule whose conditions always have the same outcomes, joined as in a given chain. -/
def ofChain (chain : Chain) : Rule where
  id := 1
  name := "constant"
  severity := .error
  conditions := chain.map fun (value, j) => .constant value j

theorem chain_ofChain (chain : Chain) (g : Graph) (s : Selection) :
    (ofChain chain).compile.chain g s = chain := by
  simp [ofChain, compile, CompiledRule.chain, Function.comp_def, RuleCondition.answer_constant]

theorem answers_ofChain (chain : Chain) (g : Graph) (s : Selection) :
    (ofChain chain).compile.Answers g s := by
  intro link hLink
  simp only [ofChain, compile, List.map_map, List.mem_map] at hLink
  obtain ⟨⟨value, j⟩, -, rfl⟩ := hLink
  exact ⟨value, Test.compile_constant value g s⟩

end Rule

namespace Chain

/-- A chain whose first value decides the first joiner, and whose other values are the opposite. -/
def contrary : List Joiner → Chain
  | [] => []
  | j :: js => (j.deciding, j) :: js.map fun j' => (!j.deciding, j')

theorem map_snd_contrary (js : List Joiner) : (contrary js).map Prod.snd = js := by
  cases js <;> simp [contrary, Function.comp_def]

/-- Of the contrary chain only the first value is heard, and the rest would change it. -/
theorem value_contrary {js : List Joiner} (h : ¬OneKind js.dropLast) :
    value (heard (contrary js)) ≠ value (contrary js) := by
  cases js with
  | nil => simp [OneKind] at h
  | cons j js =>
    have hFirst : fold [(j.deciding, j)] = (j.deciding, j) := by simp [fold, join, Joiner.apply]
    have hDecided : isDecided [(j.deciding, j)] = true := by simp [isDecided, hFirst]
    have hHeard : heard (contrary (j :: js)) = [(j.deciding, j)] := by
      rw [heard_eq_heardAfter, contrary, heardAfter_cons,
        if_neg (show ¬isDecided [] = true by decide)]
      cases js with
      | nil => exact heardAfter_nil _
      | cons j' js => rw [List.map_cons, heardAfter_cons, List.nil_append, if_pos hDecided]
    have hOther : ∃ j' ∈ (j :: js).dropLast, j' ≠ j := by
      by_contra hNone
      push Not at hNone
      exact h fun a ha b hb => (hNone a ha).trans (hNone b hb).symm
    have hTurned : value (contrary (j :: js)) = !j.deciding := by
      rw [← foldl_join_not_deciding hOther, ← hFirst]
      rfl
    rw [hHeard, hTurned, value, hFirst]
    cases j <;> decide

end Chain

namespace CompiledRule

/-- A rule of which no condition fails comes to the value of its chain folded from the left, up to
the first place where that value decides the next joiner. If its joiners are of one kind, this is
the value of all the chain; if not, there are rules with the same joiners for which it is not. -/
theorem evaluate_eq_value_heard (r : CompiledRule) (g : Graph) (s : Selection) (count : Nat)
    (h : r.Answers g s) :
    (r.evaluate g s count).1 = .ok (r.chain g s).heard.value ∧
    (OneKind r.joiners → (r.evaluate g s count).1 = .ok (r.chain g s).value) ∧
    (¬OneKind r.joiners → ∃ r' : Rule, r'.compile.joiners = r.joiners ∧
      ∀ g' s' count', r'.compile.Answers g' s' ∧
        (r'.compile.evaluate g' s' count').1 ≠ .ok (r'.compile.chain g' s').value) := by
  refine ⟨evaluate_heard h count, fun hOne => ?_, fun hMixed => ?_⟩
  · rw [← joiners_chain r g s] at hOne
    rw [evaluate_heard h, hOne.value_heard]
  · let js := r.conditions.map Link.joiner
    refine ⟨.ofChain (.contrary js), ?_, fun g' s' count' => ?_⟩
    · rw [← joiners_chain _ g s, Rule.chain_ofChain, Chain.joiners, Chain.map_snd_contrary]
      rfl
    · have hAnswers := Rule.answers_ofChain (.contrary js) g' s'
      refine ⟨hAnswers, fun hEq => Chain.value_contrary hMixed ?_⟩
      rw [evaluate_heard hAnswers, Rule.chain_ofChain] at hEq
      exact Except.ok.inj hEq

/-- Tag 2 and tag 1, or tag 1. -/
def mixed : CompiledRule := Rule.compile {
  id := 1
  name := "mixed"
  severity := .warning
  conditions := [⟨.hasTag .someOf [2], .and⟩, ⟨.hasTag .someOf [1], .or⟩,
    ⟨.hasTag .someOf [1], .and⟩]
  actions := [.showMessage (some "seen") none] }

def fandomOfTag : Graph where
  fandomId := 1
  tags := Table.empty.insert { id := 1, name := "first", category := "mood", fandomId := 1 }

def withTag : Selection := { fandomId := 1, tags := [1] }

theorem mixed_answers : mixed.Answers fandomOfTag withTag := by
  intro link hLink
  simp only [mixed, Rule.compile, List.map_cons, List.map_nil, List.mem_cons,
    List.not_mem_nil, or_false] at hLink
  rcases hLink with rfl | rfl | rfl <;> exact ⟨_, rfl⟩

theorem evaluate_mixed :
    (mixed.evaluate fandomOfTag withTag 0).1 = .ok (mixed.chain fandomOfTag withTag).heard.value ∧
      ¬OneKind mixed.joiners ∧
      ∃ r' : Rule, r'.compile.joiners = mixed.joiners ∧
        ∀ g' s' count', r'.compile.Answers g' s' ∧
          (r'.compile.evaluate g' s' count').1 ≠ .ok (r'.compile.chain g' s').value := by
  have hMixed : ¬OneKind mixed.joiners := fun h =>
    absurd (h .and (by decide) .or (by decide)) (by decide)
  obtain ⟨hValue, -, hOther⟩ := evaluate_eq_value_heard mixed fandomOfTag withTag 0 mixed_answers
  exact ⟨hValue, hMixed, hOther hMixed⟩

/-- Tag 2 is missing, so the mixed rule does not hear of tag 1, for which it would hold. -/
theorem mixed_stops_early :
    mixed.Answers fandomOfTag withTag ∧
      (mixed.evaluate fandomOfTag withTag 0).1 = .ok false ∧
      (mixed.chain fandomOfTag withTag).value = true :=
  ⟨mixed_answers, rfl, rfl⟩

end CompiledRule

end StoryRules
