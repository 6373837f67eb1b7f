import Mathlib
import StoryRules.Settings

/-! What settings are read as. A text counts without the blanks at its ends. What is left is a
number if it is decimal digits after at most one plus sign, and a position of a switch if it is one
of four words for it in any case of the ASCII letters; otherwise the setting keeps its default. Each
setting is read from one text and from no other (`ofLookup_reads`). -/

namespace StoryRules

namespace Text

/-- `core` is a text without the blanks at its ends. -/
structure IsTrimmed (text core : List Char) : Prop where
  parts : ∃ before after, text = before ++ core ++ after ∧
    (∀ c ∈ before, isBlank c = true) ∧ ∀ c ∈ after, isBlank c = true
  head : ∀ c ∈ core.head?, isBlank c = false
  last : ∀ c ∈ core.getLast?, isBlank c = false

theorem dropWhile_of_head {cs : List Char} (h : ∀ c ∈ cs.head?, isBlank c = false) :
    cs.dropWhile isBlank = cs := by
  cases cs with
  | nil => rfl
  | cons c cs => exact List.dropWhile_cons_of_neg (by simp [h c rfl])

theorem isBlank_of_mem_head?_dropWhile {cs : List Char} {c : Char}
    (hc : c ∈ (cs.dropWhile isBlank).head?) : isBlank c = false := by
  have hHead := List.head?_dropWhile_not isBlank cs
  rw [Option.mem_def.1 hc] at hHead
  exact hHead

theorem isTrimmed_trimmed (s : String) : IsTrimmed s.toList (trimmed s) := by
  let rest := s.toList.dropWhile isBlank
  let after := (rest.reverse.takeWhile isBlank).reverse
  have hRest : trimmed s ++ after = rest := by
    rw [trimmed, ← List.reverse_append, List.takeWhile_append_dropWhile, List.reverse_reverse]
  refine ⟨⟨s.toList.takeWhile isBlank, after, ?_, fun c hc => List.mem_takeWhile_imp hc,
    fun c hc => List.mem_takeWhile_imp (List.mem_reverse.1 hc)⟩, fun c hc => ?_, fun c hc => ?_⟩
  · rw [List.append_assoc, hRest, List.takeWhile_append_dropWhile]
  · -- the trimmed text begins like the text behind the blanks before it
    obtain ⟨cs, hCore⟩ := List.head?_eq_some_iff.1 hc
    have hFirst : c ∈ rest.head? := by
      rw [← hRest, hCore]
      rfl
    exact isBlank_of_mem_head?_dropWhile hFirst
  · rw [trimmed, List.getLast?_reverse] at hc
    exact isBlank_of_mem_head?_dropWhile hc

theorem IsTrimmed.trimmed_eq {s : String} {core : List Char} (h : IsTrimmed s.toList core) :
    trimmed s = core := by
  obtain ⟨⟨before, after, hParts, hBefore, hAfter⟩, hHead, hLast⟩ := h
  rw [trimmed, hParts, List.append_assoc, List.dropWhile_append_of_pos hBefore]
  cases core with
  | nil =>
    rw [List.nil_append, List.dropWhile_eq_nil_iff.2 hAfter]
    rfl
  | cons c core =>
    have hBehind : ∀ c ∈ after.reverse, isBlank c = true := fun c hc =>
      hAfter c (List.mem_reverse.1 hc)
    have hFirst : ∀ d ∈ (c :: core ++ after).head?, isBlank d = false := hHead
    rw [← List.head?_reverse] at hLast
    rw [dropWhile_of_head hFirst, List.reverse_append, List.dropWhile_append_of_pos hBehind,
      dropWhile_of_head hLast, List.reverse_reverse]

theorem trimmed_eq_iff {s : String} {core : List Char} :
    trimmed s = core ↔ IsTrimmed s.toList core :=
  ⟨fun h => h ▸ isTrimmed_trimmed s, IsTrimmed.trimmed_eq⟩

end Text

namespace Settings

/-! ### Numbers -/

def digit (c : Char) : Nat := c.toNat - '0'.toNat

/-- Decimal digits, the most significant one first, and the number that they are. -/
structure Denotes (cs : List Char) (n : Nat) : Prop where
  nonempty : cs ≠ []
  digits : ∀ c ∈ cs, c.isDigit = true
  value : n = Nat.ofDigits 10 (cs.reverse.map digit)

/-- Digits that may follow a plus sign, for a number of at most 64 bits. -/
def IsNumber (cs : List Char) (n : Nat) : Prop :=
  n ≤ 2 ^ 64 - 1 ∧ ∃ ds, (cs = ds ∨ cs = '+' :: ds) ∧ Denotes ds n

/-- How a digit more changes what has been read. -/
def readDigit (n? : Option Nat) (c : Char) : Option Nat :=
  n?.bind fun n => if c.isDigit then some (10 * n + digit c) else none

theorem foldl_readDigit_none (cs : List Char) : cs.foldl readDigit none = none := by
  induction cs with
  | nil => rfl
  | cons c cs ih => exact ih

theorem foldl_readDigit {cs : List Char} {m n : Nat} :
    cs.foldl readDigit (some m) = some n ↔ (∀ c ∈ cs, c.isDigit = true) ∧
      n = Nat.ofDigits 10 (cs.reverse.map digit) + 10 ^ cs.length * m := by
  induction cs generalizing m with
  | nil =>
    have hValue : Nat.ofDigits 10 (([] : List Char).reverse.map digit)
        + 10 ^ ([] : List Char).length * m = m := by
      rw [List.reverse_nil, List.map_nil, Nat.ofDigits_nil, List.length_nil, pow_zero, Nat.one_mul,
        Nat.zero_add]
    rw [List.foldl_nil, Option.some_inj, hValue, eq_comm]
    exact (and_iff_right fun c hc => absurd hc List.not_mem_nil).symm
  | cons c cs ih =>
    rw [List.foldl_cons, List.forall_mem_cons]
    by_cases hc : c.isDigit = true
    · have hStep : readDigit (some m) c = some (10 * m + digit c) := if_pos hc
      have hValue : Nat.ofDigits 10 ((c :: cs).reverse.map digit) + 10 ^ (c :: cs).length * m =
          Nat.ofDigits 10 (cs.reverse.map digit) + 10 ^ cs.length * (10 * m + digit c) := by
        rw [List.reverse_cons, List.map_append, Nat.ofDigits_append, List.map_singleton,
          Nat.ofDigits_singleton, List.length_map, List.length_reverse, List.length_cons]
        ring
      rw [hStep, ih, hValue]
      simp [hc]
    · have hStep : readDigit (some m) c = none := if_neg hc
      rw [hStep, foldl_readDigit_none]
      simp [hc]

theorem digits?_eq_some {cs : List Char} {n : Nat} : digits? cs = some n ↔ Denotes cs n := by
  have hFold : digits? cs = if cs.isEmpty then none else cs.foldl readDigit (some 0) := rfl
  rw [hFold, Option.ite_none_left_eq_some, foldl_readDigit, Nat.mul_zero, Nat.add_zero,
    List.isEmpty_iff]
  exact ⟨fun ⟨hNonempty, hDigits, hValue⟩ => ⟨hNonempty, hDigits, hValue⟩,
    fun h => ⟨h.nonempty, h.digits, h.value⟩⟩

theorem not_denotes_plus {cs : List Char} {n : Nat} : ¬Denotes ('+' :: cs) n := fun h =>
  absurd (h.digits '+' List.mem_cons_self) (by decide)

theorem number?_eq_some {cs : List Char} {n : Nat} : number? cs = some n ↔ IsNumber cs n := by
  have hBound : decide (n < UInt64.size) = true ↔ n ≤ 2 ^ 64 - 1 := by
    rw [decide_eq_true_eq, UInt64.size]
    omega
  rw [number?, Option.filter_eq_some_iff, digits?_eq_some, hBound, and_comm, IsNumber]
  refine and_congr_right fun _ => ?_
  split
  · rename_i hPlus
    obtain ⟨ds, rfl⟩ := List.head?_eq_some_iff.1 hPlus
    constructor
    · exact fun h => ⟨ds, .inr rfl, h⟩
    · rintro ⟨ds', rfl | hSame, h⟩
      · exact absurd h not_denotes_plus
      · obtain ⟨-, rfl⟩ := List.cons.inj hSame
        exact h
  · rename_i hPlus
    constructor
    · exact fun h => ⟨cs, .inl rfl, h⟩
    · rintro ⟨ds, rfl | rfl, h⟩
      · exact h
      · exact absurd rfl hPlus

/-! ### Switches -/

/-- A small letter or another character, or the ASCII capital of that letter. -/
def SameLetter (c small : Char) : Prop :=
  c = small ∨ c.isUpper = true ∧ c.toNat + 32 = small.toNat

/-- The words for a position of a switch. -/
def words : Bool → List String
  | true => ["1", "true", "yes", "on"]
  | false => ["0", "false", "no", "off"]

/-- A word for the position, each of its letters in either case. -/
def IsSwitch (cs : List Char) (b : Bool) : Prop :=
  ∃ word ∈ words b, List.Forall₂ SameLetter cs word.toList

theorem isUpper_iff {c : Char} : c.isUpper = true ↔ 65 ≤ c.toNat ∧ c.toNat ≤ 90 := by
  simp [Char.isUpper, UInt32.le_iff_toNat_le, ← Char.toNat_val]

theorem toNat_toLower (c : Char) :
    c.toLower.toNat = if c.isUpper = true then c.toNat + 32 else c.toNat := by
  by_cases h : c.isUpper = true
  · obtain ⟨-, hLast⟩ := isUpper_iff.1 h
    have hValid : (c.toNat + 32).isValidChar := .inl (by omega)
    rw [Char.toLower_eq_of_isUpper h, Char.toNat_ofNat, if_pos hValid, if_pos h]
  · rw [Char.toLower_eq_of_not_isUpper h, if_neg h]

theorem toLower_eq_iff {c small : Char} (hSmall : ¬small.isUpper = true) :
    c.toLower = small ↔ SameLetter c small := by
  rw [← Char.toNat_inj, toNat_toLower, SameLetter]
  by_cases hc : c.isUpper = true
  · have hNe : c ≠ small := fun hSame => hSmall (hSame ▸ hc)
    simp [hc, hNe]
  · simp [hc, Char.toNat_inj]

theorem map_toLower_eq {cs word : List Char} (hWord : ∀ c ∈ word, ¬c.isUpper = true) :
    cs.map Char.toLower = word ↔ List.Forall₂ SameLetter cs word := by
  induction word generalizing cs with
  | nil => simp
  | cons d word ih =>
    obtain ⟨hd, hRest⟩ := List.forall_mem_cons.1 hWord
    cases cs with
    | nil => simp
    | cons c cs =>
      rw [List.map_cons, List.cons.injEq, List.forall₂_cons, toLower_eq_iff hd, ih hRest]

theorem not_isUpper_words (b : Bool) : ∀ word ∈ words b, ∀ c ∈ word.toList, ¬c.isUpper = true := by
  cases b <;> simp [words]

theorem isSwitch_iff {cs : List Char} {b : Bool} :
    IsSwitch cs b ↔ String.ofList (cs.map Char.toLower) ∈ words b := by
  have hWord : ∀ word ∈ words b,
      (String.ofList (cs.map Char.toLower) = word ↔ List.Forall₂ SameLetter cs word.toList) := by
    intro word hMem
    rw [← map_toLower_eq (not_isUpper_words b word hMem), ← String.ofList_inj, String.ofList_toList]
  constructor
  · rintro ⟨word, hMem, hSpelled⟩
    rwa [(hWord word hMem).2 hSpelled]
  · intro hMem
    exact ⟨_, hMem, (hWord _ hMem).1 rfl⟩

/-- No word stands for both positions. -/
theorem not_mem_words_not {word : String} {b : Bool} (h : word ∈ words b) : word ∉ words !b := by
  have hAll : ∀ b, ∀ word ∈ words b, word ∉ words !b := by decide
  exact hAll b word h

theorem switch?_eq_some {cs : List Char} {b : Bool} : switch? cs = some b ↔ IsSwitch cs b := by
  have hCases : switch? cs =
      if String.ofList (cs.map Char.toLower) ∈ words true then some true
      else if String.ofList (cs.map Char.toLower) ∈ words false then some false else none := rfl
  rw [isSwitch_iff, hCases]
  split
  · rename_i hOn
    cases b with
    | true => simp [hOn]
    | false => simpa using not_mem_words_not hOn
  · rename_i hOn
    cases b with
    | true => simp [hOn]
    | false => simp

/-! ### Settings -/

variable {α : Type}

/-- A text gives a value if what stands between the blanks at its ends has the form of the value. -/
def Gives (form : List Char → α → Prop) (text : Option String) (a : α) : Prop :=
  ∃ s ∈ text, ∃ core, Text.IsTrimmed s.toList core ∧ form core a

/-- A setting is read from the text of one name: it is what that text gives, or the default if there
is no such text or it gives nothing, and no other text makes a difference to it. -/
structure ReadFrom (setting : Settings → α) (name : String) (form : List Char → α → Prop)
    (default : α) : Prop where
  exact : ∀ lookup a, setting (ofLookup lookup) = a ↔
    Gives form (lookup name) a ∨ (∀ b, ¬Gives form (lookup name) b) ∧ a = default
  alone : ∀ lookup other, lookup name = other name →
    setting (ofLookup lookup) = setting (ofLookup other)

theorem gives_iff {form? : List Char → Option α} {form : List Char → α → Prop}
    (hForm : ∀ cs a, form? cs = some a ↔ form cs a) {text : Option String} {a : α} :
    Gives form text a ↔ (text.map Text.trimmed).bind form? = some a := by
  simp only [Gives, Option.bind_eq_some_iff, Option.map_eq_some_iff, hForm, Option.mem_def,
    ← Text.trimmed_eq_iff]
  constructor
  · rintro ⟨s, hs, core, hCore, h⟩
    exact ⟨core, ⟨s, hs, hCore⟩, h⟩
  · rintro ⟨core, ⟨s, hs, hCore⟩, h⟩
    exact ⟨s, hs, core, hCore, h⟩

theorem readFrom {setting : Settings → α} {name : String} {form? : List Char → Option α}
    {form : List Char → α → Prop} {default : α} (hForm : ∀ cs a, form? cs = some a ↔ form cs a)
    (hRead : ∀ lookup, setting (ofLookup lookup) = read form? (lookup name) default) :
    ReadFrom setting name form default where
  exact lookup a := by
    rw [hRead, read]
    simp only [gives_iff hForm]
    cases ((lookup name).map Text.trimmed).bind form? with
    | none => simp [eq_comm]
    | some b => simp
  alone lookup other hSame := by rw [hRead, hRead, hSame]

/-- The milliseconds are 50 unless their text is a number, and each switch is on unless its own text
is a word for off. -/
theorem ofLookup_reads :
    ReadFrom slowRuleMs "VALIDATION_SLOW_RULE_MS" IsNumber 50 ∧
    ReadFrom warningTemplates "VALIDATION_WARNING_TEMPLATES" IsSwitch true ∧
    ReadFrom customRules "VALIDATION_CUSTOM_RULES" IsSwitch true ∧
    ReadFrom enhancementSuggestions "VALIDATION_ENHANCEMENT_SUGGESTIONS" IsSwitch true :=
  ⟨readFrom (fun _ _ => number?_eq_some) fun _ => rfl,
    readFrom (fun _ _ => switch?_eq_some) fun _ => rfl,
    readFrom (fun _ _ => switch?_eq_some) fun _ => rfl,
    readFrom (fun _ _ => switch?_eq_some) fun _ => rfl⟩

/-- Blanks of any kind and leading zeros do not count; `2 ^ 64` is too great to be read. -/
example : read number? (some "\u2003+007\n") 50 = 7 ∧
    read number? (some "18446744073709551616") 50 = 50 := by decide

end Settings

end StoryRules
