import SolidityAudit.Http.Layers
import SolidityAudit.Log.Message
import SolidityAudit.Main
import SolidityAudit.Metrics.Amount
import SolidityAudit.Proofs.AppendedCode
import SolidityAudit.Proofs.BodyLimit
import SolidityAudit.Proofs.CallOrder
import SolidityAudit.Proofs.CommentedLists
import SolidityAudit.Proofs.DirectoryScan
import SolidityAudit.Proofs.Exposition
import SolidityAudit.Proofs.LabelCollisions
import SolidityAudit.Proofs.RequestTracing
import SolidityAudit.Proofs.RequireSearch
import SolidityAudit.Proofs.ScoreRounding
import SolidityAudit.Proofs.SeenCode
import SolidityAudit.Proofs.ServiceTraffic
import SolidityAudit.Proofs.SourceGrammar
import SolidityAudit.Proofs.SourceShape
import SolidityAudit.Proofs.SubtractionSearch
import SolidityAudit.Proofs.TokenRuns
import SolidityAudit.Proofs.TruncatedSource
import SolidityAudit.Record.Draft
import SolidityAudit.Proofs.ParameterSpelling
import SolidityAudit.Proofs.ScoreLaws
import SolidityAudit.Proofs.EventOrder
import SolidityAudit.Proofs.HistogramBuckets
import SolidityAudit.Proofs.RequestMetrics
import SolidityAudit.Proofs.EscapedText
import SolidityAudit.Proofs.WrittenJson
import SolidityAudit.Proofs.JsonReadBack
import SolidityAudit.Proofs.LogLines
import SolidityAudit.Proofs.PathLabels
