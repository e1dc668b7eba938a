import StreamPay.Calls
import StreamPay.Foundation.Run
import StreamPay.System
import StreamPay.Book
import StreamPay.Refinement
import StreamPay.Records
import StreamPay.Escrow
import StreamPay.Solvency
import StreamPay.Supply
import StreamPay.Lifecycle
import StreamPay.Payouts
import StreamPay.Authority
import StreamPay.Batches
import StreamPay.EventLog
import StreamPay.Persistence
import StreamPay.Safety
import StreamPay.Cancellation
import StreamPay.Foundation.Agreement
import StreamPay.Noninterference
import StreamPay.Foundation.Lease
import StreamPay.Lifetimes
import StreamPay.Schedule
import StreamPay.Withdrawals
import StreamPay.Answers
import StreamPay.Overflows
import StreamPay.PendingTransfer
import StreamPay.ChecksFirst
import StreamPay.BatchOutcome
import StreamPay.Commutation
import StreamPay.Foundation.Accounting
import StreamPay.Transcript
import StreamPay.Shortfall
import StreamPay.Drift
import StreamPay.Foundation.Replay
import StreamPay.Governance
import StreamPay.WindDown
import StreamPay.Upgrades
import StreamPay.Isolation
import StreamPay.Foundation.Codec
import StreamPay.Wire
import StreamPay.LedgerEntries
import StreamPay.Interface
import StreamPay.Advances
import StreamPay.Settlement
import StreamPay.Foundation.Fusion
import StreamPay.Instalments
import StreamPay.Lifespan
import StreamPay.Refusals
import StreamPay.Expiry
import StreamPay.Shown
