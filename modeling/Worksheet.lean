import Worksheet.Text.Ranges
import Worksheet.Catalogue
import Worksheet.Cell.Digest
import Worksheet.Database.Functions
import Worksheet.Diagnostics
import Worksheet.Json.Codec
import Worksheet.Pivot.Plan
import Worksheet.Pivot.Summary
import Worksheet.Proofs.Database.Columns
import Worksheet.Proofs.Database.FieldHeaders
import Worksheet.Proofs.Database.Masks
import Worksheet.Proofs.Database.RowSelection
import Worksheet.Proofs.Database.ErrorArguments
import Worksheet.Proofs.Pivot.ExactMoments
import Worksheet.Proofs.Pivot.MergeTree
import Worksheet.Proofs.Pivot.RecordedErrors
import Worksheet.Proofs.Criteria.WildcardScan
import Worksheet.Proofs.Criteria.OpenEnds
import Worksheet.Proofs.Database.Outcomes
import Worksheet.Proofs.Pivot.PartitionedScan
import Worksheet.Proofs.Block
import Worksheet.Proofs.Database.CoalescedColumns
import Worksheet.Proofs.Database.BlockForms
import Worksheet.Proofs.Catalogue.Registration
import Worksheet.Proofs.Decimal.ExactValue
import Worksheet.Proofs.Database.OrdinalFields
import Worksheet.Proofs.Pivot.ChunkPlans
import Worksheet.Proofs.Pivot.TwoPassVariance
import Worksheet.Proofs.Database.DeviationFamily
import Worksheet.Proofs.Json.StoredValues
import Worksheet.Proofs.Database.Counts
import Worksheet.Proofs.Database.EmptyAggregates
import Worksheet.Proofs.Pivot.PristineMoments
import Worksheet.Proofs.Pivot.SampleGuards
import Worksheet.Proofs.Decimal.ScannedNumbers
import Worksheet.Proofs.Criteria.CaseFolding
import Worksheet.Proofs.Criteria.OrderingOperators
import Worksheet.Proofs.Decimal.NearestInteger
import Worksheet.Proofs.Decimal.PlainNumbers
import Worksheet.Proofs.Cell.Digests
import Worksheet.Proofs.Database.TypedCriteria
import Worksheet.Proofs.Decimal.NeutralOperands
import Worksheet.Proofs.Pivot.NeutralMerge
import Worksheet.Proofs.Database.ArgumentCounts
import Worksheet.Proofs.Database.SharedBuckets
import Worksheet.Proofs.Criteria.OperatorSplitting
import Worksheet.Proofs.Database.MaskRuns
import Worksheet.Proofs.ErrorCodes
