import DuckTyping.Adapter.AdaptError
import DuckTyping.Adapter.Adapter
import DuckTyping.Conversion.Builtin
import DuckTyping.Conversion.ConversionError
import DuckTyping.Conversion.Registry
import DuckTyping.Conversion.Tabulated
import DuckTyping.Mapping.Dictionary
import DuckTyping.Mapping.ForeignMapping
import DuckTyping.Mapping.KeyComparison
import DuckTyping.Mapping.Mapping
import DuckTyping.Number.Binary64
import DuckTyping.Number.Digits
import DuckTyping.Number.FloatLiteral
import DuckTyping.Number.Integer
import DuckTyping.Number.Shortest
import DuckTyping.Object.ForeignObject
import DuckTyping.Object.RecordObject
import DuckTyping.Plan.Inspection
import DuckTyping.Plan.Options
import DuckTyping.Plan.Plan
import DuckTyping.Plan.Source
import DuckTyping.Store.Copy
import DuckTyping.Store.Reading
import DuckTyping.Store.Sensitivity
import DuckTyping.Store.Store
import DuckTyping.Text.CaseIgnorable
import DuckTyping.Text.CaseMapping
import DuckTyping.Text.CaseRun
import DuckTyping.Text.Cased
import DuckTyping.Text.CharSet
import DuckTyping.Text.GraphemeExtend
import DuckTyping.Text.LowerCase
import DuckTyping.Text.Quoted
import DuckTyping.Text.Scan
import DuckTyping.Text.Unprintable
import DuckTyping.Text.UpperCase
import DuckTyping.Text.WhiteSpace
import DuckTyping.Time.Calendar
import DuckTyping.Time.DateTime
import DuckTyping.Time.Lenient
import DuckTyping.Time.Rfc3339
import DuckTyping.Toml.Document
import DuckTyping.Toml.Node
import DuckTyping.Toml.Scalar
import DuckTyping.Typer.Configuration
import DuckTyping.Typer.Typer
import DuckTyping.Types.Canonical
import DuckTyping.Types.Sameness
import DuckTyping.Types.Conformance
import DuckTyping.Types.ConformanceContext
import DuckTyping.Types.EnumType
import DuckTyping.Types.Identical
import DuckTyping.Types.TypeError
import DuckTyping.Types.ValueType
import DuckTyping.Uuid
import DuckTyping.Value.EnumValue
import DuckTyping.Value.HostError
import DuckTyping.Value.Reference
import DuckTyping.Value.Refusal
import DuckTyping.Value.Value
import DuckTyping.Proofs.KeyedEntries
import DuckTyping.Proofs.DictionaryEntries
import DuckTyping.Proofs.DictionaryRuns
import DuckTyping.Proofs.ViewStack
import DuckTyping.Proofs.CanonicalForm
import DuckTyping.Proofs.PlanAgreement
import DuckTyping.Proofs.PlanMemo
import DuckTyping.Proofs.CopyDiscovery
import DuckTyping.Proofs.GraphCopy
import DuckTyping.Proofs.ViewWrites
import DuckTyping.Proofs.ViewPaths
import DuckTyping.Proofs.ConformanceOrder
import DuckTyping.Proofs.ConformanceTable
import DuckTyping.Proofs.SatisfiedShapes
import DuckTyping.Proofs.SchemaResolutions
import DuckTyping.Proofs.RepeatedViews
import DuckTyping.Proofs.SoundConverters
import DuckTyping.Proofs.ObtainedAdapters
import DuckTyping.Proofs.TypedReads
import DuckTyping.Proofs.HonouredPlans
import DuckTyping.Proofs.AdapterWrites
import DuckTyping.Proofs.UnalteredValues
import DuckTyping.Proofs.CorrespondingMappings
import DuckTyping.Proofs.RelaxedOptions
import DuckTyping.Proofs.ReportedTerms
import DuckTyping.Proofs.RecordRuns
import DuckTyping.Proofs.ReadThrough
import DuckTyping.Proofs.ForwardedCalls
import DuckTyping.Proofs.MemberSets
import DuckTyping.Proofs.LastRegistration
import DuckTyping.Proofs.AgreeingAnswers
import DuckTyping.Proofs.WrittenDigits
import DuckTyping.Proofs.WrittenScalars
import DuckTyping.Proofs.CivilDates
import DuckTyping.Proofs.TimeStamps
import DuckTyping.Proofs.VariantNames
import DuckTyping.Proofs.ReadAfterWrite
import DuckTyping.Proofs.AbsentMembers
import DuckTyping.Proofs.IntegerTexts
import DuckTyping.Proofs.UnresolvedPaths
import DuckTyping.Proofs.AnsweringMembers
import DuckTyping.Proofs.InferredSensitivity
