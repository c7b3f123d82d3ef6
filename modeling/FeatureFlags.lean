import FeatureFlags.Context.CanonicalKey
import FeatureFlags.Evaluation.Flag
import FeatureFlags.Json.Reader
import FeatureFlags.Proofs.Evaluation.Unfolding
import FeatureFlags.Proofs.Evaluation.Effect
import FeatureFlags.Proofs.Evaluation.Ending
import FeatureFlags.Proofs.Evaluation.Path
import FeatureFlags.Proofs.Evaluation.Prerequisites
import FeatureFlags.Proofs.Evaluation.WellFormed
import FeatureFlags.Proofs.Evaluation.Depth
import FeatureFlags.Proofs.Attribute.Exclusion
import FeatureFlags.Proofs.Context.Redaction
import FeatureFlags.Proofs.Evaluation.Progress
import FeatureFlags.Proofs.Context.Privacy
import FeatureFlags.Proofs.Attribute.Name
import FeatureFlags.Proofs.Context.AllPrivate
import FeatureFlags.Proofs.Evaluation.Memberships
import FeatureFlags.Proofs.Store.OwnKeys
import FeatureFlags.Proofs.Evaluation.Report
import FeatureFlags.Proofs.Evaluation.Abort
import FeatureFlags.Proofs.Evaluation.Circular
import FeatureFlags.Proofs.Evaluation.Consistency
import FeatureFlags.Proofs.Evaluation.Health
import FeatureFlags.Proofs.Restoring.Flag
import FeatureFlags.Proofs.Restoring.Event
import FeatureFlags.Proofs.Evaluation.InStep
import FeatureFlags.Proofs.Evaluation.Reading
import FeatureFlags.Proofs.Context.Parts
import FeatureFlags.Proofs.Evaluation.Kinds
import FeatureFlags.Proofs.Evaluation.Legacy
import FeatureFlags.Proofs.Evaluation.BigSegments
import FeatureFlags.Proofs.Evaluation.Precedence
import FeatureFlags.Proofs.Store.History
import FeatureFlags.Proofs.DataSet.Isolation
import FeatureFlags.Proofs.Context.Secrecy
import FeatureFlags.Proofs.Context.Identity
import FeatureFlags.Proofs.Context.Acceptance
import FeatureFlags.Proofs.Context.CanonicalKey
import FeatureFlags.Proofs.Evaluation.Experiment
import FeatureFlags.Proofs.Context.Reordering
import FeatureFlags.Proofs.Evaluation.Reordering
import FeatureFlags.Proofs.Attribute.Removal
import FeatureFlags.Proofs.Attribute.Composition
import FeatureFlags.Proofs.Attribute.Path
import FeatureFlags.Proofs.Context.Accounting
import FeatureFlags.Proofs.Attribute.Grammar
import FeatureFlags.Proofs.Attribute.Comparison
import FeatureFlags.Proofs.Number.Whole
import FeatureFlags.Proofs.Context.Integer
import FeatureFlags.Proofs.Operator.Integer
import FeatureFlags.Proofs.Number.Decimal
import FeatureFlags.Proofs.Version.Grammar
import FeatureFlags.Proofs.Version.Reading
import FeatureFlags.Proofs.Operator.Version
import FeatureFlags.Proofs.Evaluation.Negation
import FeatureFlags.Proofs.Evaluation.Rearrangement
import FeatureFlags.Proofs.Evaluation.Targets
import FeatureFlags.Proofs.Evaluation.Partition
import FeatureFlags.Proofs.Evaluation.Stickiness
import FeatureFlags.Proofs.Context.RawKey
import FeatureFlags.Proofs.Bucket.HexDigits
import FeatureFlags.Proofs.Bucket.Range
import FeatureFlags.Proofs.Evaluation.Stacks
