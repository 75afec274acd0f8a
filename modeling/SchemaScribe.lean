import SchemaScribe.FileTree
import SchemaScribe.Main
import SchemaScribe.Proofs.AliasSwitch
import SchemaScribe.Proofs.BlockLayout
import SchemaScribe.Proofs.BodyLineAccount
import SchemaScribe.Proofs.CatalogueDocument
import SchemaScribe.Proofs.CatalogueHistory
import SchemaScribe.Proofs.CheckPrediction
import SchemaScribe.Proofs.ChoiceReach
import SchemaScribe.Proofs.Concatenation
import SchemaScribe.Proofs.DiagnosticLines
import SchemaScribe.Proofs.DraftLevels
import SchemaScribe.Proofs.FieldTokens
import SchemaScribe.Proofs.HyphenatedNames
import SchemaScribe.Proofs.LineEndings
import SchemaScribe.Proofs.MalformedText
import SchemaScribe.Proofs.MemberKeys
import SchemaScribe.Proofs.OutputOrder
import SchemaScribe.Proofs.Redeclarations
import SchemaScribe.Proofs.RenderInjective
import SchemaScribe.Proofs.RepeatedRun
import SchemaScribe.Proofs.RoundTrip
import SchemaScribe.Proofs.SettingChannels
import SchemaScribe.Proofs.StoredArtifacts
import SchemaScribe.Proofs.SwallowedHeader
