import PropertyTax.Library.FixedPoint
import PropertyTax.Library.KeyedTable
import PropertyTax.Library.Runs
import PropertyTax.Library.JsText
import PropertyTax.Library.JsJson
import PropertyTax.Money
import PropertyTax.Schema
import PropertyTax.Auth
import PropertyTax.Payments.Rules
import PropertyTax.Gateway.AtomCallback
import PropertyTax.Store
import PropertyTax.Payments.OnlineSuccess
import PropertyTax.Payments.Callback
import PropertyTax.Payments.Requery
import PropertyTax.Concurrency.Delivery
import PropertyTax.Concurrency.CreditOnce
import PropertyTax.Concurrency.LateFailure
import PropertyTax.Gateway.SignedFields
import PropertyTax.Demands.Assessment
import PropertyTax.Demands.Publish
import PropertyTax.Demands.YearEnd
import PropertyTax.Payments.Online
import PropertyTax.Payments.Offline
import PropertyTax.Payments.Refund
import PropertyTax.Ledger.Step
import PropertyTax.Ledger.Payments
import PropertyTax.Ledger.Publish
import PropertyTax.Ledger.YearEnd
import PropertyTax.Ledger.Operation
import PropertyTax.Ledger.Reconciled
import PropertyTax.Ledger.Arrears
import PropertyTax.Ledger.Collectible
import PropertyTax.Concurrency.Publisher
import PropertyTax.Ledger.Refunded
import PropertyTax.Concurrency.Refunds
import PropertyTax.Ledger.Callbacks
import PropertyTax.Ledger.Isolation
import PropertyTax.Concurrency.YearEnd
import PropertyTax.Concurrency.YearEndPayments
import PropertyTax.Ledger.YearEndComplete
import PropertyTax.Ledger.PublishWard
import PropertyTax.Concurrency.Checkouts
import PropertyTax.Ledger.CardData
import PropertyTax.Ledger.RefundBalance
import PropertyTax.Ledger.AtomConfirmed
import PropertyTax.Ledger.Receipts
import PropertyTax.TaxConfigs.LiveSnapshots
import PropertyTax.TaxConfigs.Outcome
import PropertyTax.TaxConfigs.Atomicity
import PropertyTax.Concurrency.AdjustmentRules
import PropertyTax.Sessions.ResetLinks
import PropertyTax.Sessions.Revocation
import PropertyTax.Users.Privileges
import PropertyTax.Surveys.IdentityLaw
import PropertyTax.Surveys.BilledFloors
import PropertyTax.Surveys.Reprocess
import PropertyTax.Demands.Adjustments
import PropertyTax.Library.LastWrite
import PropertyTax.Tax.ReportCells
import PropertyTax.Tax.Preview
import PropertyTax.PublicPropertyTax.Notice
import PropertyTax.PublicPropertyTax.RowOrder
import PropertyTax.PublicPropertyTax.Checkout
import PropertyTax.PublicPropertyTax.SearchDues
import PropertyTax.Concurrency.Counter
import PropertyTax.Concurrency.CounterKey
import PropertyTax.Ledger.RefundParts
import PropertyTax.Ledger.RefundRequest
import PropertyTax.Library.Waterfall
import PropertyTax.Payments.ReceiptAllocation
import PropertyTax.Library.NumberWords
import PropertyTax.Payments.InrWords
import PropertyTax.Tax.UsageClass
import PropertyTax.Tax.CommercialRate
import PropertyTax.Library.KeyedFold
import PropertyTax.Library.ScriptViews
import PropertyTax.Surveys.Export
import PropertyTax.Surveys.Endpoints
import PropertyTax.Surveys.AadhaarReplies
import PropertyTax.Surveys.AadhaarSecrecy
import PropertyTax.Surveys.AadhaarView
import PropertyTax.Dashboard.TaxDemand
import PropertyTax.Surveys.IdCodec
import PropertyTax.Surveys.StatusLaw
import PropertyTax.Surveys.HeldIds
import PropertyTax.Surveys.ImportRuns
import PropertyTax.Surveys.StoredValues
import PropertyTax.Library.Columns
import PropertyTax.Surveys.AuditTrail
import PropertyTax.Surveys.LiveSurveys
import PropertyTax.Library.Decimals
import PropertyTax.Surveys.FloorsEditor
import PropertyTax.Surveys.FloorScans
import PropertyTax.Surveys.FloorHeads
import PropertyTax.Surveys.FloorTexts
import PropertyTax.Surveys.FloorRoundTrip
import PropertyTax.Surveys.FloorParsed
import PropertyTax.Surveys.FloorEdits
import PropertyTax.Surveys.ImportPreview
import PropertyTax.Surveys.PreviewLaw
import PropertyTax.Concurrency.CounterAnswers
import PropertyTax.Sessions.SessionCalls
import PropertyTax.Sessions.CacheLaw
import PropertyTax.Sessions.LoginProtection
import PropertyTax.Http.Protections
import PropertyTax.Library.Percent
import PropertyTax.Http.Cookies
import PropertyTax.Sent
import PropertyTax.Users.Edits
import PropertyTax.Users.EditLaws
import PropertyTax.Users.Seed
import PropertyTax.Users.LockOut
import PropertyTax.Library.Paths
import PropertyTax.Storage.ObjectKeys
import PropertyTax.Library.JsonText
import PropertyTax.Reference.AssessmentYears
import PropertyTax.Reference.YearLaws
import PropertyTax.Library.Words
import PropertyTax.Tax.ZoneWords
import PropertyTax.Tax.ZoneNumbers
import PropertyTax.Surveys.SharedPruning
import PropertyTax.Surveys.JobCounts
import PropertyTax.Library.Visits
import PropertyTax.PublicPropertyTax.Search
import PropertyTax.PublicPropertyTax.MobileSecrecy
import PropertyTax.Library.Pages
import PropertyTax.Surveys.ListPages
import PropertyTax.Payments.PaymentList
import PropertyTax.PublicPropertyTax.SearchPages
import PropertyTax.Surveys.RepairScript
import PropertyTax.Sessions.Passwords
import PropertyTax.Sessions.LoginSecrecy
import PropertyTax.Library.Groups
import PropertyTax.Dashboard.Summary
import PropertyTax.Storage.StoredFiles
import PropertyTax.Storage.SignedLinks
import PropertyTax.Library.Spans
import PropertyTax.Http.RateLimits
import PropertyTax.PublicPropertyTax.RaisedRates
