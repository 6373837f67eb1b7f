import StoryRules.Text.Blank

/-! The settings of a validation pass and how they are read from named texts, such as the variables
of an environment. A text that is absent or has not the form of its setting leaves that setting at
its default and touches no other. -/

namespace StoryRules

structure Settings where
  /-- Milliseconds after which a rule counts as slow; no finding depends on it. -/
  slowRuleMs : Nat := 50
  warningTemplates : Bool := true
  customRules : Bool := true
  enhancementSuggestions : Bool := true
  deriving DecidableEq, Repr, Inhabited

namespace Settings

def digits? (cs : List Char) : Option Nat :=
  if cs.isEmpty then none
  else cs.foldl (fun n? c => n?.bind fun n =>
    if c.isDigit then some (10 * n + (c.toNat - '0'.toNat)) else none) (some 0)

/-- A number of at most 64 bits: digits after at most one plus sign. -/
def number? (cs : List Char) : Option Nat :=
  (digits? (if cs.head? = some '+' then cs.tail else cs)).filter (· < UInt64.size)

/-- A switch: one of four words for each position, in either case of the ASCII letters. -/
def switch? (cs : List Char) : Option Bool :=
  let word := String.ofList (cs.map Char.toLower)
  if word ∈ ["1", "true", "yes", "on"] then some true
  else if word ∈ ["0", "false", "no", "off"] then some false
  else none

/-- The setting in a text, read without the blanks at its ends. -/
def read {α : Type} (form : List Char → Option α) (text : Option String) (default : α) : α :=
  ((text.map Text.trimmed).bind form).getD default

def ofLookup (lookup : String → Option String) : Settings where
  slowRuleMs := read number? (lookup "VALIDATION_SLOW_RULE_MS") 50
  warningTemplates := read switch? (lookup "VALIDATION_WARNING_TEMPLATES") true
  customRules := read switch? (lookup "VALIDATION_CUSTOM_RULES") true
  enhancementSuggestions := read switch? (lookup "VALIDATION_ENHANCEMENT_SUGGESTIONS") true

end Settings

end StoryRules
