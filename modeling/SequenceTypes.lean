import SequenceTypes.AtomicType
import SequenceTypes.AtomicValue
import SequenceTypes.Calendar.Date
import SequenceTypes.Calendar.Time
import SequenceTypes.Cast
import SequenceTypes.Catalog.Basic
import SequenceTypes.Catalog.Lattice
import SequenceTypes.Catalog.Session
import SequenceTypes.Catalog.Static
import SequenceTypes.Cause
import SequenceTypes.Diagnostic.ErrorCode
import SequenceTypes.Diagnostic.ErrorKind
import SequenceTypes.Diagnostic.Failure
import SequenceTypes.Diagnostic.Location
import SequenceTypes.Diagnostic.Report
import SequenceTypes.Item
import SequenceTypes.KindTest
import SequenceTypes.Name
import SequenceTypes.Node
import SequenceTypes.Number.Decimal
import SequenceTypes.Number.Floating
import SequenceTypes.Number.Literal
import SequenceTypes.Number.Shortest
import SequenceTypes.Occurrence
import SequenceTypes.Promotion
import SequenceTypes.SeqType.Basic
import SequenceTypes.SeqType.Lattice
import SequenceTypes.SeqType.Subtype
import SequenceTypes.SeqType.Text
import SequenceTypes.StaticContext
import SequenceTypes.Text.Basic
import SequenceTypes.Text.Category
import SequenceTypes.Text.Pattern
import SequenceTypes.Proofs.BaseOrder
import SequenceTypes.Proofs.Fragment
import SequenceTypes.Proofs.SubtypeOrder
import SequenceTypes.Proofs.InstanceCheck
import SequenceTypes.Proofs.CastTypes
import SequenceTypes.Proofs.PromotionSoundness
import SequenceTypes.Proofs.StaticCover
import SequenceTypes.Proofs.TreatCheck
import SequenceTypes.Proofs.BaseLattice
import SequenceTypes.Proofs.UnionBounds
import SequenceTypes.Proofs.LeastBounds
import SequenceTypes.Proofs.FlatIntersection
import SequenceTypes.Proofs.CastAgreement
import SequenceTypes.Proofs.CastSoundness
import SequenceTypes.Proofs.LookupFunctions
import SequenceTypes.Proofs.DerivedStrings
import SequenceTypes.Proofs.TokenLists
import SequenceTypes.Proofs.DigitText
import SequenceTypes.Proofs.NumberText
import SequenceTypes.Proofs.CalendarText
import SequenceTypes.Proofs.LexicalRoundTrip
import SequenceTypes.Proofs.IntegerCast
import SequenceTypes.Proofs.DecimalReading
import SequenceTypes.Proofs.LexicalErrors
import SequenceTypes.Proofs.LatticeLaws
import SequenceTypes.Proofs.PromotionLoop
import SequenceTypes.Proofs.PromotionPrediction
import SequenceTypes.Proofs.AbsentIntersection
import SequenceTypes.Proofs.PossibleContent
import SequenceTypes.Proofs.PrefixErasure
import SequenceTypes.Proofs.ValueErasure
import SequenceTypes.Proofs.EqualityCongruence
import SequenceTypes.Proofs.CatalogGrowth
import SequenceTypes.Proofs.CatalogTransparency
import SequenceTypes.Proofs.TypeText
import SequenceTypes.Proofs.Homogeneity
import SequenceTypes.Proofs.Atomization
import SequenceTypes.Proofs.RefinedCast
import SequenceTypes.Proofs.CastFailures
import SequenceTypes.Proofs.PromotionFailures
import SequenceTypes.Proofs.CoercionOptions
import SequenceTypes.Proofs.NameReading
import SequenceTypes.Proofs.SourcePosition
import SequenceTypes.Proofs.MessageText
import SequenceTypes.Proofs.LeafOrder
