import TradeReconcile.Properties.Payments
import TradeReconcile.Properties.Orders
import TradeReconcile.Properties.Atomicity
import TradeReconcile.Properties.Reconciliation
import TradeReconcile.Properties.Replays
import TradeReconcile.Properties.Notifications
import TradeReconcile.Properties.BackgroundTasks
import TradeReconcile.Properties.Delivery
import TradeReconcile.Properties.Batches
import TradeReconcile.Messaging.Publisher
import TradeReconcile.Properties.Confirms
import TradeReconcile.Properties.Deduplication
import TradeReconcile.Messaging.Rounds
import TradeReconcile.Properties.LifeCycle
import TradeReconcile.Transactions.Pool
import TradeReconcile.Properties.Connections
import TradeReconcile.Controllers
import TradeReconcile.Properties.Answers
import TradeReconcile.Conduct.Alone
import TradeReconcile.Properties.Acceptance
import TradeReconcile.Properties.Payability
import TradeReconcile.IdGenerator
import TradeReconcile.ByteOrder
import TradeReconcile.Properties.Classification
import TradeReconcile.Properties.Identifiers
import TradeReconcile.Properties.BillFormat
import TradeReconcile.Properties.Signatures
import TradeReconcile.Properties.TradeNumbers
import TradeReconcile.Properties.OrderTotals
import TradeReconcile.Properties.DayWindows
import TradeReconcile.Properties.Handling
import TradeReconcile.Properties.PooledTasks
import TradeReconcile.Bills
import TradeReconcile.Properties.GeneratedBills
import TradeReconcile.Properties.Amounts
import TradeReconcile.RequestIdFilter
import TradeReconcile.Properties.RequestIds
import TradeReconcile.Messaging.RunLoop
import TradeReconcile.Properties.BrokerConnections
import TradeReconcile.Properties.MessageBodies
import TradeReconcile.Properties.Serialization
import TradeReconcile.Properties.Accounts
import TradeReconcile.Transactions.Decisions
import TradeReconcile.Conduct.Refusals
import TradeReconcile.Properties.Refusals
import TradeReconcile.Properties.Sales
import TradeReconcile.Messaging.Pipeline
import TradeReconcile.Properties.Provenance
import TradeReconcile.Properties.Pipeline
import TradeReconcile.Properties.Completion
import TradeReconcile.Properties.Columns
import TradeReconcile.Properties.Injections
import TradeReconcile.Properties.Closing
import TradeReconcile.Properties.Draining
import TradeReconcile.Conduct.Rereads
