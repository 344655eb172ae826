import Perflint.Budget
import Perflint.Main
import Perflint.Outline.Document
import Perflint.Proofs.Sites
import Perflint.Proofs.Scopes
import Perflint.Text.Encoding
import Perflint.Proofs.CostPaths
import Perflint.Proofs.Clusters
import Perflint.Proofs.Messages
import Perflint.Proofs.Aggregation
import Perflint.Proofs.Lowering
import Perflint.Proofs.Nesting
import Perflint.Proofs.CatalogPlaces
import Perflint.Proofs.Containment
import Perflint.Proofs.Places
import Perflint.Proofs.Imprints
import Perflint.Proofs.Correspondence
import Perflint.Proofs.Rejection
import Perflint.Proofs.RuleRuns
import Perflint.Proofs.BudgetCuts
import Perflint.Proofs.RuleIsolation
import Perflint.Proofs.StalledLoops
import Perflint.Proofs.ScopeNodes
import Perflint.Proofs.CallResolution
import Perflint.Proofs.HintOrder
import Perflint.Proofs.Shifts
import Perflint.Proofs.ShiftedRules
import Perflint.Proofs.ShiftedCosts
import Perflint.Proofs.ShiftedEstimates
import Perflint.Proofs.ShiftedFindings
import Perflint.Proofs.Fingerprints
import Perflint.Proofs.Selection
import Perflint.Proofs.ExitCodes
import Perflint.Proofs.Locality
import Perflint.Proofs.Twins
import Perflint.Proofs.TwinEstimates
import Perflint.Proofs.FunctionBodies
import Perflint.Proofs.Shadowing
import Perflint.Proofs.CatalogHits
import Perflint.Proofs.Severities
import Perflint.Proofs.LoopRules
import Perflint.Proofs.Templates
import Perflint.Proofs.Suggestions
import Perflint.Proofs.SourceText
import Perflint.Proofs.NodeOrigins
import Perflint.Proofs.Assignments
import Perflint.Proofs.CatalogFaults
import Perflint.Proofs.RepeatedQueries
import Perflint.Proofs.CoherentEstimates
import Perflint.Proofs.Namesakes
import Perflint.Proofs.PatternNames
import Perflint.Proofs.RebuiltLists
import Perflint.Proofs.GrowingCollections
import Perflint.Proofs.Placeholders
import Perflint.Proofs.SarifLogs
import Perflint.Proofs.ParserChoice
import Perflint.Proofs.Numbering
import Perflint.Proofs.LogFactors
import Perflint.Proofs.ScopePartition
import Perflint.Proofs.Subtrees
import Perflint.Proofs.EnclosingLoops
import Perflint.Proofs.FirstValues
import Perflint.Proofs.Keywords
