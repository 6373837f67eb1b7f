import StoryRules.Proofs.Json.Input

/-! What conditions and actions of rules are read from. Which parts a condition or an action has
depends on its kind: the fields name a known kind and give each part of it, in the form that this
part has, or nothing is read. The order of the fields does not matter, nor does any field under a
key that belongs to no part of the kind (`ruleParts_exact`). -/

namespace StoryRules

open Json (Exact)
open Json.Fields (bind_required bind_optional bind_nullable)

theorem Severity.exact : Exact Severity.toJson Severity.ofJson? := Severity.lawful.exact_oneOf

theorem Joiner.exact : Exact Joiner.toJson Joiner.ofJson? := Joiner.lawful.exact_oneOf

theorem Presence.exact : Exact Presence.toJson Presence.ofJson? := Presence.lawful.exact_oneOf

theorem Comparison.exact : Exact Comparison.toJson Comparison.ofJson? :=
  Comparison.lawful.exact_oneOf

variable {fields fields' : Json.Fields}

/-! ### Conditions -/

namespace Test

/-- The fields tell a test: its kind, and the parts that a test of this kind has. -/
inductive WrittenIn (fields : Json.Fields) : Test → Prop
  | hasTag {operator : Presence} {targets : List Ident}
      (hKind : ("condition_type", .str "has_tag") ∈ fields)
      (hOperator : ("operator", operator.toJson) ∈ fields)
      (hTargets : ("target_ids", Ident.listToJson targets) ∈ fields) :
      WrittenIn fields (.hasTag operator targets)
  | hasPlotBlock {operator : Presence} {targets : List Ident}
      (hKind : ("condition_type", .str "has_plot_block") ∈ fields)
      (hOperator : ("operator", operator.toJson) ∈ fields)
      (hTargets : ("target_ids", Ident.listToJson targets) ∈ fields) :
      WrittenIn fields (.hasPlotBlock operator targets)
  | tagCount {operator : Comparison} {value : Int64} {targets : List Ident}
      (hKind : ("condition_type", .str "tag_count") ∈ fields)
      (hOperator : ("operator", operator.toJson) ∈ fields)
      (hValue : ("value", Json.ofInt64 value) ∈ fields)
      (hTargets : fields.HoldsOr "target_ids" Ident.listToJson [] targets) :
      WrittenIn fields (.tagCount operator value targets)
  | plotBlockDepth {operator : Comparison} {value : Int64}
      (hKind : ("condition_type", .str "plot_block_depth") ∈ fields)
      (hOperator : ("operator", operator.toJson) ∈ fields)
      (hValue : ("value", Json.ofInt64 value) ∈ fields) :
      WrittenIn fields (.plotBlockDepth operator value)
  | customExpression {expression : String}
      (hKind : ("condition_type", .str "custom_expression") ∈ fields)
      (hExpression : ("expression", .str expression) ∈ fields) :
      WrittenIn fields (.customExpression expression)

/-- The keys that a test of some kind is read from, apart from that of the kind. -/
def partKeys : String → List String
  | "has_tag" | "has_plot_block" => ["operator", "target_ids"]
  | "tag_count" => ["operator", "value", "target_ids"]
  | "plot_block_depth" => ["operator", "value"]
  | "custom_expression" => ["expression"]
  | _ => []

theorem ofFields?_sound (hKeys : (fields.map Prod.fst).Nodup) {t : Test}
    (h : ofFields? fields = some t) : t.WrittenIn fields := by
  obtain ⟨kind, hKind, hParts⟩ := (bind_required hKeys Json.exact_str).1 h
  split at hParts
  · obtain ⟨operator, hOperator, hParts⟩ := (bind_required hKeys Presence.exact).1 hParts
    obtain ⟨targets, hTargets, hTest⟩ := (bind_required hKeys Ident.exact_list).1 hParts
    cases hTest
    exact .hasTag hKind hOperator hTargets
  · obtain ⟨operator, hOperator, hParts⟩ := (bind_required hKeys Presence.exact).1 hParts
    obtain ⟨targets, hTargets, hTest⟩ := (bind_required hKeys Ident.exact_list).1 hParts
    cases hTest
    exact .hasPlotBlock hKind hOperator hTargets
  · obtain ⟨operator, hOperator, hParts⟩ := (bind_required hKeys Comparison.exact).1 hParts
    obtain ⟨value, hValue, hParts⟩ := (bind_required hKeys Json.exact_int64).1 hParts
    obtain ⟨targets, hTargets, hTest⟩ := (bind_optional hKeys Ident.exact_list).1 hParts
    cases hTest
    exact .tagCount hKind hOperator hValue hTargets
  · obtain ⟨operator, hOperator, hParts⟩ := (bind_required hKeys Comparison.exact).1 hParts
    obtain ⟨value, hValue, hTest⟩ := (bind_required hKeys Json.exact_int64).1 hParts
    cases hTest
    exact .plotBlockDepth hKind hOperator hValue
  · obtain ⟨expression, hExpression, hTest⟩ := (bind_required hKeys Json.exact_str).1 hParts
    cases hTest
    exact .customExpression hKind hExpression
  · cases hParts

theorem WrittenIn.ofFields?_eq (hKeys : (fields.map Prod.fst).Nodup) {t : Test}
    (h : t.WrittenIn fields) : ofFields? fields = some t := by
  cases h with
  | hasTag hKind hOperator hTargets =>
    exact (bind_required hKeys Json.exact_str).2 ⟨_, hKind,
      (bind_required hKeys Presence.exact).2 ⟨_, hOperator,
        (bind_required hKeys Ident.exact_list).2 ⟨_, hTargets, rfl⟩⟩⟩
  | hasPlotBlock hKind hOperator hTargets =>
    exact (bind_required hKeys Json.exact_str).2 ⟨_, hKind,
      (bind_required hKeys Presence.exact).2 ⟨_, hOperator,
        (bind_required hKeys Ident.exact_list).2 ⟨_, hTargets, rfl⟩⟩⟩
  | tagCount hKind hOperator hValue hTargets =>
    exact (bind_required hKeys Json.exact_str).2 ⟨_, hKind,
      (bind_required hKeys Comparison.exact).2 ⟨_, hOperator,
        (bind_required hKeys Json.exact_int64).2 ⟨_, hValue,
          (bind_optional hKeys Ident.exact_list).2 ⟨_, hTargets, rfl⟩⟩⟩⟩
  | plotBlockDepth hKind hOperator hValue =>
    exact (bind_required hKeys Json.exact_str).2 ⟨_, hKind,
      (bind_required hKeys Comparison.exact).2 ⟨_, hOperator,
        (bind_required hKeys Json.exact_int64).2 ⟨_, hValue, rfl⟩⟩⟩
  | customExpression hKind hExpression =>
    exact (bind_required hKeys Json.exact_str).2 ⟨_, hKind,
      (bind_required hKeys Json.exact_str).2 ⟨_, hExpression, rfl⟩⟩

theorem ofFields?_congr {kind : String} (hKind : fields.get? "condition_type" = some (.str kind))
    (hKind' : fields'.get? "condition_type" = some (.str kind))
    (hParts : ∀ key ∈ partKeys kind, fields.get? key = fields'.get? key) :
    ofFields? fields = ofFields? fields' := by
  simp only [ofFields?, Json.Fields.required_eq, Json.Fields.optional_eq, hKind, hKind',
    Option.bind_some, Option.bind_eq_bind, Json.str?_str]
  -- each kind looks up its own keys and no others
  split
  all_goals
    simp only [partKeys, List.forall_mem_cons] at hParts
    simp only [hParts]

end Test

namespace RuleCondition

/-- The fields tell a condition: its test, and how it is joined to the next one. -/
structure WrittenIn (fields : Json.Fields) (c : RuleCondition) : Prop where
  test : c.test.WrittenIn fields
  joiner : fields.HoldsOr "logic_operator" Joiner.toJson .and c.joiner

/-- The keys that a condition is read from, given the kind of its test. -/
def usedKeys (kind : String) : List String :=
  "condition_type" :: "logic_operator" :: Test.partKeys kind

theorem ofJson?_eq_some (hKeys : (fields.map Prod.fst).Nodup) {c : RuleCondition} :
    ofJson? (.obj fields) = some c ↔ c.WrittenIn fields := by
  constructor
  · intro h
    obtain ⟨test, hTest, hRest⟩ := Option.bind_eq_some_iff.1 h
    obtain ⟨joiner, hJoiner, hCondition⟩ := (bind_optional hKeys Joiner.exact).1 hRest
    cases hCondition
    exact ⟨Test.ofFields?_sound hKeys hTest, hJoiner⟩
  · rintro ⟨hTest, hJoiner⟩
    exact Option.bind_eq_some_iff.2 ⟨_, hTest.ofFields?_eq hKeys,
      (bind_optional hKeys Joiner.exact).2 ⟨_, hJoiner, rfl⟩⟩

theorem ofJson?_congr {kind : String} (hKind : fields.get? "condition_type" = some (.str kind))
    (hUsed : ∀ key ∈ usedKeys kind, fields.get? key = fields'.get? key) :
    ofJson? (.obj fields) = ofJson? (.obj fields') := by
  obtain ⟨hSame, hJoiner, hParts⟩ : _ ∧ _ ∧ _ := by
    simpa only [usedKeys, List.forall_mem_cons] using hUsed
  rw [ofJson?, ofJson?, Json.fields?_obj, Json.fields?_obj, Option.bind_eq_bind, Option.bind_some,
    Option.bind_eq_bind, Option.bind_some, Test.ofFields?_congr hKind (hSame ▸ hKind) hParts,
    Json.Fields.optional_eq, Json.Fields.optional_eq, hJoiner]

end RuleCondition

/-! ### Actions -/

namespace RuleAction

/-- The fields tell what an action aims at, and its message if it has one. -/
structure Targeted (fields : Json.Fields) (targets : List Ident) (message : Option String) :
    Prop where
  targets : ("target_ids", Ident.listToJson targets) ∈ fields
  message : fields.HoldsOr "message" (Json.ofOption .str) none message

/-- The fields tell an action: its kind, and the parts that an action of this kind has. -/
inductive WrittenIn (fields : Json.Fields) : RuleAction → Prop
  | requireTag {targets : List Ident} {message : Option String}
      (hKind : ("action_type", .str "require_tag") ∈ fields)
      (hAim : Targeted fields targets message) :
      WrittenIn fields (.requireTag targets message)
  | requirePlotBlock {targets : List Ident} {message : Option String}
      (hKind : ("action_type", .str "require_plot_block") ∈ fields)
      (hAim : Targeted fields targets message) :
      WrittenIn fields (.requirePlotBlock targets message)
  | forbidTag {targets : List Ident} {message : Option String}
      (hKind : ("action_type", .str "forbid_tag") ∈ fields)
      (hAim : Targeted fields targets message) :
      WrittenIn fields (.forbidTag targets message)
  | suggestTag {targets : List Ident} {message : Option String}
      (hKind : ("action_type", .str "suggest_tag") ∈ fields)
      (hAim : Targeted fields targets message) :
      WrittenIn fields (.suggestTag targets message)
  | showMessage {message : Option String} {severity : Option Severity}
      (hKind : ("action_type", .str "show_message") ∈ fields)
      (hMessage : fields.HoldsOr "message" (Json.ofOption .str) none message)
      (hSeverity : fields.HoldsOr "severity" (Json.ofOption Severity.toJson) none severity) :
      WrittenIn fields (.showMessage message severity)
  | modifyPriority {priority : Option Int32}
      (hKind : ("action_type", .str "modify_priority") ∈ fields)
      (hPriority : fields.HoldsOr "priority" (Json.ofOption Json.ofInt32) none priority) :
      WrittenIn fields (.modifyPriority priority)

/-- The keys that an action of some kind is read from. -/
def usedKeys (kind : String) : List String :=
  "action_type" :: match kind with
    | "require_tag" | "require_plot_block" | "forbid_tag" | "suggest_tag" =>
      ["target_ids", "message"]
    | "show_message" => ["message", "severity"]
    | "modify_priority" => ["priority"]
    | _ => []

theorem targeted?_eq_some (hKeys : (fields.map Prod.fst).Nodup)
    {make : List Ident → Option String → RuleAction} {a : RuleAction} :
    targeted? make fields = some a ↔
      ∃ targets message, Targeted fields targets message ∧ make targets message = a := by
  constructor
  · intro h
    obtain ⟨targets, hTargets, hRest⟩ := (bind_required hKeys Ident.exact_list).1 h
    obtain ⟨message, hMessage, hAction⟩ := (bind_nullable hKeys Json.exact_str rfl).1 hRest
    exact ⟨targets, message, ⟨hTargets, hMessage⟩, Option.some.inj hAction⟩
  · rintro ⟨targets, message, ⟨hTargets, hMessage⟩, rfl⟩
    exact (bind_required hKeys Ident.exact_list).2 ⟨targets, hTargets,
      (bind_nullable hKeys Json.exact_str rfl).2 ⟨message, hMessage, rfl⟩⟩

theorem ofJson?_sound (hKeys : (fields.map Prod.fst).Nodup) {a : RuleAction}
    (h : ofJson? (.obj fields) = some a) : a.WrittenIn fields := by
  obtain ⟨kind, hKind, hParts⟩ := (bind_required hKeys Json.exact_str).1 h
  split at hParts
  · obtain ⟨targets, message, hAim, rfl⟩ := (targeted?_eq_some hKeys).1 hParts
    exact .requireTag hKind hAim
  · obtain ⟨targets, message, hAim, rfl⟩ := (targeted?_eq_some hKeys).1 hParts
    exact .requirePlotBlock hKind hAim
  · obtain ⟨targets, message, hAim, rfl⟩ := (targeted?_eq_some hKeys).1 hParts
    exact .forbidTag hKind hAim
  · obtain ⟨targets, message, hAim, rfl⟩ := (targeted?_eq_some hKeys).1 hParts
    exact .suggestTag hKind hAim
  · obtain ⟨message, hMessage, hParts⟩ := (bind_nullable hKeys Json.exact_str rfl).1 hParts
    obtain ⟨severity, hSeverity, hAction⟩ := (bind_nullable hKeys Severity.exact rfl).1 hParts
    cases hAction
    exact .showMessage hKind hMessage hSeverity
  · obtain ⟨priority, hPriority, hAction⟩ := (bind_nullable hKeys Json.exact_int32 rfl).1 hParts
    cases hAction
    exact .modifyPriority hKind hPriority
  · cases hParts

theorem WrittenIn.ofJson?_eq (hKeys : (fields.map Prod.fst).Nodup) {a : RuleAction}
    (h : a.WrittenIn fields) : ofJson? (.obj fields) = some a := by
  cases h with
  | requireTag hKind hAim | requirePlotBlock hKind hAim | forbidTag hKind hAim
  | suggestTag hKind hAim =>
    exact (bind_required hKeys Json.exact_str).2 ⟨_, hKind,
      (targeted?_eq_some hKeys).2 ⟨_, _, hAim, rfl⟩⟩
  | showMessage hKind hMessage hSeverity =>
    exact (bind_required hKeys Json.exact_str).2 ⟨_, hKind,
      (bind_nullable hKeys Json.exact_str rfl).2 ⟨_, hMessage,
        (bind_nullable hKeys Severity.exact rfl).2 ⟨_, hSeverity, rfl⟩⟩⟩
  | modifyPriority hKind hPriority =>
    exact (bind_required hKeys Json.exact_str).2 ⟨_, hKind,
      (bind_nullable hKeys Json.exact_int32 rfl).2 ⟨_, hPriority, rfl⟩⟩

theorem ofJson?_congr {kind : String} (hKind : fields.get? "action_type" = some (.str kind))
    (hUsed : ∀ key ∈ usedKeys kind, fields.get? key = fields'.get? key) :
    ofJson? (.obj fields) = ofJson? (.obj fields') := by
  obtain ⟨hSame, hParts⟩ := List.forall_mem_cons.1 hUsed
  simp only [ofJson?, targeted?, Json.fields?_obj, Json.Fields.required_eq,
    Json.Fields.nullable_eq, hKind, ← hSame, Option.bind_some, Option.bind_eq_bind, Json.str?_str]
  split
  all_goals
    simp only [List.forall_mem_cons] at hParts
    simp only [hParts]

end RuleAction

/-- Conditions and actions are read from the fields that tell them and from no others. Of the fields
only those under the keys of the kind that they name matter, in any order. -/
theorem ruleParts_exact {fields : Json.Fields} (hKeys : (fields.map Prod.fst).Nodup) :
    (∀ c, RuleCondition.ofJson? (.obj fields) = some c ↔ c.WrittenIn fields) ∧
    (∀ a, RuleAction.ofJson? (.obj fields) = some a ↔ a.WrittenIn fields) ∧
    ∀ fields' : Json.Fields, (fields'.map Prod.fst).Nodup →
      (∀ kind, ("condition_type", .str kind) ∈ fields →
        Json.Fields.SameUnder (RuleCondition.usedKeys kind) fields fields' →
        RuleCondition.ofJson? (.obj fields) = RuleCondition.ofJson? (.obj fields')) ∧
      (∀ kind, ("action_type", .str kind) ∈ fields →
        Json.Fields.SameUnder (RuleAction.usedKeys kind) fields fields' →
        RuleAction.ofJson? (.obj fields) = RuleAction.ofJson? (.obj fields')) ∧
      (fields.Perm fields' →
        RuleCondition.ofJson? (.obj fields) = RuleCondition.ofJson? (.obj fields') ∧
        RuleAction.ofJson? (.obj fields) = RuleAction.ofJson? (.obj fields')) := by
  refine ⟨fun c => RuleCondition.ofJson?_eq_some hKeys, fun a =>
    ⟨RuleAction.ofJson?_sound hKeys, RuleAction.WrittenIn.ofJson?_eq hKeys⟩, fun fields' hKeys' =>
    ⟨fun kind hKind hSame => ?_, fun kind hKind hSame => ?_, fun hPerm => ?_⟩⟩
  · exact RuleCondition.ofJson?_congr ((Json.Fields.get?_eq_some hKeys).2 hKind)
      fun key hUsed => hSame.get?_eq hKeys hKeys' hUsed
  · exact RuleAction.ofJson?_congr ((Json.Fields.get?_eq_some hKeys).2 hKind)
      fun key hUsed => hSame.get?_eq hKeys hKeys' hUsed
  · have hGet (key : String) : fields.get? key = fields'.get? key := by
      ext value
      rw [Json.Fields.get?_eq_some hKeys, Json.Fields.get?_eq_some hKeys', hPerm.mem_iff]
    constructor
    · simp only [RuleCondition.ofJson?, Test.ofFields?, Json.fields?_obj, Option.bind_eq_bind,
        Option.bind_some, Json.Fields.required_eq, Json.Fields.optional_eq, hGet]
    · simp only [RuleAction.ofJson?, RuleAction.targeted?, Json.fields?_obj, Option.bind_eq_bind,
        Option.bind_some, Json.Fields.required_eq, Json.Fields.nullable_eq, hGet]

/-- Neither the order nor a value, which only counts and depths have, matters to a presence. -/
theorem ruleParts_exact_scattered :
    let plain : Json.Fields := [("condition_type", .str "has_tag"), ("operator", .str "in"),
      ("target_ids", .arr [.int 1]), ("logic_operator", .str "OR")]
    let scattered : Json.Fields := [("logic_operator", .str "OR"), ("target_ids", .arr [.int 1]),
      ("value", .null), ("operator", .str "in"), ("condition_type", .str "has_tag")]
    RuleCondition.ofJson? (.obj plain) = some { test := .hasTag .someOf [1], joiner := .or } ∧
    RuleCondition.ofJson? (.obj plain) = RuleCondition.ofJson? (.obj scattered) := by
  intro plain scattered
  have hKeys : (plain.map Prod.fst).Nodup := by decide
  obtain ⟨hConditions, -, hOthers⟩ := ruleParts_exact hKeys
  have hTest : Test.WrittenIn plain (.hasTag .someOf [1]) :=
    .hasTag (by simp [plain]) (by simp [plain, Presence.toJson, Presence.name])
      (by simp [plain, Ident.listToJson, Ident.toJson, Json.ofList, Json.ofInt64])
  have hJoiner : plain.HoldsOr "logic_operator" Joiner.toJson .and .or :=
    .inl (by simp [plain, Joiner.toJson, Joiner.name])
  refine ⟨(hConditions _).2 ⟨hTest, hJoiner⟩, (hOthers scattered (by decide)).1 "has_tag" ?_ ?_⟩
  · exact List.mem_cons_self
  · simp [Json.Fields.SameUnder, RuleCondition.usedKeys, Test.partKeys, plain, scattered]

end StoryRules
