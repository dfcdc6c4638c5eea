import TableMapper.Gateway.Recording
import TableMapper.Mapper.Basic
import TableMapper.Mapper.Uuid
import TableMapper.Model.Builder
import TableMapper.Model.Document
import TableMapper.Server.Row
import TableMapper.Server.Session
import TableMapper.Settings.Builder
import TableMapper.Settings.Document
import TableMapper.Proofs.Calendar.FixedWidth
import TableMapper.Proofs.Column.Dates
import TableMapper.Proofs.Column.Delivered
import TableMapper.Proofs.Column.Documents
import TableMapper.Proofs.Column.Encodable
import TableMapper.Proofs.Column.OpaqueIds
import TableMapper.Proofs.Column.Protocols
import TableMapper.Proofs.Mapper.Agreement
import TableMapper.Proofs.Mapper.Autoupdate
import TableMapper.Proofs.Mapper.Batch
import TableMapper.Proofs.Mapper.NewRow
import TableMapper.Proofs.Mapper.SingleStatement
import TableMapper.Proofs.Mapper.Verdict
import TableMapper.Proofs.Migration.Confinement
import TableMapper.Proofs.Migration.Convergence
import TableMapper.Proofs.Migration.Creation
import TableMapper.Proofs.Migration.Enumerations
import TableMapper.Proofs.Migration.Executability
import TableMapper.Proofs.Migration.Idempotence
import TableMapper.Proofs.Migration.Listing
import TableMapper.Proofs.Migration.Reported
import TableMapper.Proofs.Query.Documents
import TableMapper.Proofs.Query.FirstFault
import TableMapper.Proofs.Query.Insertion
import TableMapper.Proofs.Query.Meaning
import TableMapper.Proofs.Query.OrderList
import TableMapper.Proofs.Query.Selection
import TableMapper.Proofs.Query.Updating
import TableMapper.Proofs.Settings.Documents
