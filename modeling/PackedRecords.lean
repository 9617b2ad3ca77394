import PackedRecords.Bits.View
import PackedRecords.Bits.Word
import PackedRecords.Catalog.Cached
import PackedRecords.Catalog.Dictionary
import PackedRecords.Datum.Accessors
import PackedRecords.Datum.Nullable
import PackedRecords.Definition
import PackedRecords.Store.Memory
import PackedRecords.Writer.Commit
import PackedRecords.Proofs.Batch.Transposition
import PackedRecords.Proofs.Bits.Discipline
import PackedRecords.Proofs.Bits.Widths
import PackedRecords.Proofs.Catalog.Enumerations
import PackedRecords.Proofs.Column.Construction
import PackedRecords.Proofs.Datum.Extraction
import PackedRecords.Proofs.Field.Lossless
import PackedRecords.Proofs.Field.Scaled
import PackedRecords.Proofs.Field.Validity
import PackedRecords.Proofs.Layout.Draining
import PackedRecords.Proofs.Layout.Isolation
import PackedRecords.Proofs.Series.Filling
import PackedRecords.Proofs.Writer.Accumulation
import PackedRecords.Proofs.Writer.Memory
import PackedRecords.Proofs.Writer.Records
import PackedRecords.Proofs.Writer.SameCells
import PackedRecords.Proofs.Writer.SingleRow
