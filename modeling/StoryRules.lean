import StoryRules.Item
import StoryRules.Table
import StoryRules.Text.Blank
import StoryRules.Finding
import StoryRules.Report
import StoryRules.Settings
import StoryRules.Content
import StoryRules.Graph
import StoryRules.Graph.Depth
import StoryRules.Distinct
import StoryRules.Selection
import StoryRules.Requirement
import StoryRules.Requirement.Cycle
import StoryRules.Enhancement
import StoryRules.TagClass.Check
import StoryRules.Template.Match
import StoryRules.Rule
import StoryRules.Rule.Compiled
import StoryRules.Rule.Run
import StoryRules.Conflict
import StoryRules.Pathway
import StoryRules.Snapshot
import StoryRules.Store
import StoryRules.Proofs.Except
import StoryRules.Proofs.StableOrder
import StoryRules.Proofs.Distinct
import StoryRules.Proofs.Table
import StoryRules.Proofs.Content
import StoryRules.Proofs.Content.Order
import StoryRules.Proofs.Report
import StoryRules.Proofs.Report.Outline
import StoryRules.Proofs.Report.Consistent
import StoryRules.Proofs.Graph.Depth
import StoryRules.Proofs.TagClass
import StoryRules.Proofs.TagClass.Verdict
import StoryRules.Proofs.Conflict
import StoryRules.Proofs.Enhancement
import StoryRules.Proofs.Requirement.Walk
import StoryRules.Proofs.Requirement.Search
import StoryRules.Proofs.Requirement.Cycle
import StoryRules.Proofs.Requirement.CycleReport
import StoryRules.Proofs.Requirement.Level
import StoryRules.Proofs.Requirement.Repair
import StoryRules.Proofs.Requirement.Kinds
import StoryRules.Proofs.Requirement.Unmet
import StoryRules.Proofs.Requirement.Longest
import StoryRules.Proofs.Rule.Effect
import StoryRules.Proofs.Rule.Run
import StoryRules.Proofs.Rule.Chain
import StoryRules.Proofs.Rule.Fault
import StoryRules.Proofs.Rule.Lazy
import StoryRules.Proofs.Selection.Alike
import StoryRules.Proofs.Selection.Known
import StoryRules.Proofs.Selection.Repeats
import StoryRules.Proofs.Selection.Order
import StoryRules.Proofs.Selection.Metadata
import StoryRules.Proofs.Snapshot.Pass
import StoryRules.Proofs.Snapshot.Switch
import StoryRules.Proofs.Snapshot.Consistent
import StoryRules.Proofs.Pathway
import StoryRules.Proofs.Store
import StoryRules.Proofs.Rule.Order
import StoryRules.Proofs.Conflict.Clash
import StoryRules.Proofs.Item
import StoryRules.Proofs.TagClass.Additive
import StoryRules.Proofs.Snapshot.Addition
import StoryRules.Proofs.Json.Field
import StoryRules.Proofs.Json.Input
import StoryRules.Proofs.Json.Report
import StoryRules.Proofs.Pathway.Places
import StoryRules.Proofs.Conflict.Asked
import StoryRules.Proofs.Template.Matched
import StoryRules.Proofs.Template.Listed
import StoryRules.Proofs.Rule.Meaning
import StoryRules.Proofs.Rule.Action
import StoryRules.Proofs.TagClass.Repair
import StoryRules.Proofs.Enhancement.Exact
import StoryRules.Proofs.Graph.Conditions
import StoryRules.Proofs.Requirement.Recursion
import StoryRules.Proofs.Requirement.Turn
import StoryRules.Proofs.Requirement.Once
import StoryRules.Proofs.Settings
import StoryRules.Proofs.Json.Rule
