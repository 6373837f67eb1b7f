import Mathlib.Data.Finset.Dedup
import StoryRules.Report

/-! Reports in outline: what they say is wrong and where, and what they suggest to do, without the
texts. The affected ids are a set, and the problems, the warnings and the suggestions each come in
no order. -/

namespace StoryRules

def Problem.outline (p : Problem) : Issue × Option String × Finset Ident :=
  (p.issue, p.field, p.affected.toFinset)

def Warning.outline (w : Warning) : Issue × Option String × Finset Ident :=
  (w.issue, w.field, w.affected.toFinset)

def Suggestion.outline (m : Suggestion) : Issue × Action × Option Ident :=
  (m.issue, m.action, m.target)

/-- Two reports have the same verdict, and as often the same problem, warning or suggestion in
outline. -/
structure Report.Agrees (r r' : Report) : Prop where
  isValid : r.isValid = r'.isValid
  errors : (r.errors.map Problem.outline).Perm (r'.errors.map Problem.outline)
  warnings : (r.warnings.map Warning.outline).Perm (r'.warnings.map Warning.outline)
  suggestions : (r.suggestions.map Suggestion.outline).Perm (r'.suggestions.map Suggestion.outline)

inductive Outline where
  | problem (outline : Issue × Option String × Finset Ident)
  | warning (outline : Issue × Option String × Finset Ident)
  | suggestion (outline : Issue × Action × Option Ident)

namespace Outline

def problem? : Outline → Option (Issue × Option String × Finset Ident)
  | problem outline => some outline
  | _ => none

def warning? : Outline → Option (Issue × Option String × Finset Ident)
  | warning outline => some outline
  | _ => none

def suggestion? : Outline → Option (Issue × Action × Option Ident)
  | suggestion outline => some outline
  | _ => none

end Outline

namespace Finding

def outline : Finding → Outline
  | problem p => .problem p.outline
  | warning w => .warning w.outline
  | suggestion m => .suggestion m.outline

theorem problem?_outline (f : Finding) : f.outline.problem? = f.problem?.map Problem.outline := by
  cases f <;> rfl

theorem warning?_outline (f : Finding) : f.outline.warning? = f.warning?.map Warning.outline := by
  cases f <;> rfl

theorem suggestion?_outline (f : Finding) :
    f.outline.suggestion? = f.suggestion?.map Suggestion.outline := by
  cases f <;> rfl

end Finding

/-- Some findings are the same as others in outline, in whatever order. -/
def SameOutlines (fs fs' : List Finding) : Prop :=
  (fs.map Finding.outline).Perm (fs'.map Finding.outline)

namespace SameOutlines

variable {α : Type} {fs fs' gs gs' : List Finding}

theorem refl (fs : List Finding) : SameOutlines fs fs := List.Perm.refl _

theorem of_eq (h : fs = fs') : SameOutlines fs fs' := h ▸ refl fs

theorem of_perm (h : fs.Perm fs') : SameOutlines fs fs' := h.map Finding.outline

theorem append (h : SameOutlines fs fs') (hRest : SameOutlines gs gs') :
    SameOutlines (fs ++ gs) (fs' ++ gs') := by
  rw [SameOutlines, List.map_append, List.map_append]
  exact List.Perm.append h hRest

theorem flatMap {say say' : α → List Finding} {as : List α}
    (h : ∀ a ∈ as, SameOutlines (say a) (say' a)) :
    SameOutlines (as.flatMap say) (as.flatMap say') := by
  rw [SameOutlines, List.map_flatMap, List.map_flatMap]
  exact List.Perm.flatMap_left as h

theorem map {say say' : α → Finding} {as : List α}
    (h : ∀ a ∈ as, (say a).outline = (say' a).outline) :
    SameOutlines (as.map say) (as.map say') := by
  rw [SameOutlines, List.map_map, List.map_map]
  exact .of_eq (List.map_congr_left h)

theorem filterMap {say say' : α → Option Finding} {as : List α}
    (h : ∀ a ∈ as, (say a).map Finding.outline = (say' a).map Finding.outline) :
    SameOutlines (as.filterMap say) (as.filterMap say') := by
  rw [SameOutlines, List.map_filterMap, List.map_filterMap]
  exact .of_eq (List.filterMap_congr h)

theorem elim {say say' : α → List Finding} (o : Option α)
    (h : ∀ a, SameOutlines (say a) (say' a)) : SameOutlines (o.elim [] say) (o.elim [] say') := by
  cases o with
  | none => exact .refl _
  | some a => exact h a

/-- Findings that are asked for in both cases or in none. -/
theorem ite (on : Bool) (h : SameOutlines fs fs') :
    SameOutlines (if on then fs else []) (if on then fs' else []) := by
  cases on with
  | true => exact h
  | false => exact .refl _

/-- Findings whose outlines are told from keys are the same if the keys are. -/
theorem of_keys {β κ : Type} {say : α → Finding} {say' : β → Finding} {key : α → κ} {key' : β → κ}
    (outline : κ → Outline) (hSay : ∀ a, (say a).outline = outline (key a))
    (hSay' : ∀ b, (say' b).outline = outline (key' b)) {as : List α} {bs : List β}
    (h : (as.map key).Perm (bs.map key')) : SameOutlines (as.map say) (bs.map say') := by
  have hMapped := h.map outline
  rw [List.map_map, List.map_map] at hMapped
  rw [SameOutlines, List.map_map, List.map_map]
  simpa only [Function.comp_def, hSay, hSay'] using hMapped

/-- The reports of findings that are the same in outline agree. -/
theorem report (h : SameOutlines fs fs') :
    (Report.ofFindings fs).Agrees (Report.ofFindings fs') := by
  have hErrors := List.Perm.filterMap Outline.problem? h
  have hWarnings := List.Perm.filterMap Outline.warning? h
  have hSuggestions := List.Perm.filterMap Outline.suggestion? h
  simp only [List.filterMap_map, Function.comp_def, Finding.problem?_outline,
    Finding.warning?_outline, Finding.suggestion?_outline,
    ← List.map_filterMap] at hErrors hWarnings hSuggestions
  refine ⟨?_, hErrors, hWarnings, hSuggestions⟩
  have hEmpty := hErrors.isEmpty_eq
  rwa [List.isEmpty_map, List.isEmpty_map] at hEmpty

end SameOutlines

end StoryRules
