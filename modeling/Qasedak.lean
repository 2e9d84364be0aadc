import Qasedak.Foundation.Run
import Qasedak.Payments.Confirmation
import Qasedak.Payments.Amount
import Qasedak.Orders.RenewalOnce
import Qasedak.Orders.RenewalRefusal
import Qasedak.Orders.RefusedOrders
import Qasedak.Orders.ConcurrentApproval
import Qasedak.Orders.Identity
import Qasedak.Panels.XuiClients
import Qasedak.Orders.FrozenScope
import Qasedak.Orders.LocalClients
import Qasedak.Orders.ModernActivation
import Qasedak.Orders.Delivery
import Qasedak.Orders.Inventory
import Qasedak.Orders.PlanDelivery
import Qasedak.Orders.CupFulfillment
import Qasedak.Orders.ScopeFidelity
import Qasedak.Orders.Stock
import Qasedak.Orders.StockAccounting
import Qasedak.Foundation.Frame
import Qasedak.Orders.ServiceFrames
import Qasedak.Orders.TopUp
import Qasedak.Orders.DeliveryRetries
import Qasedak.Orders.Readiness
import Qasedak.Orders.StockFigures
import Qasedak.Orders.ReadyDelivery
import Qasedak.Orders.RecipeItems
import Qasedak.Orders.RecipeRetries
import Qasedak.Orders.Checkout
import Qasedak.Orders.DiscountQuota
import Qasedak.Orders.DuplicateOrders
import Qasedak.Orders.ProgrammeFrames
import Qasedak.Orders.DeliveryOutcomes
import Qasedak.Orders.ReferralRewards
import Qasedak.Panels.ReferralTraffic
import Qasedak.Orders.ReferralRedemption
import Qasedak.Orders.RenewalExpiry
import Qasedak.Subscriptions.Model
import Qasedak.Subscriptions.Refill
import Qasedak.Subscriptions.Feeds
import Qasedak.Subscriptions.Reconcile
import Qasedak.Subscriptions.Sync
import Qasedak.Subscriptions.Adoption
import Qasedak.Subscriptions.DropProtection
import Qasedak.Subscriptions.Cups
import Qasedak.Subscriptions.Rebuild
import Qasedak.Subscriptions.RebuildAgain
import Qasedak.Foundation.Fence
import Qasedak.Subscriptions.Workers
import Qasedak.Subscriptions.LeaseSafety
import Qasedak.Orders.Assignment
import Qasedak.Orders.AutoReview
import Qasedak.Orders.AutoReviewSafety
import Qasedak.Foundation.Grouping
import Qasedak.Panels.PanelJson
import Qasedak.Reconciliation.Checks
import Qasedak.Reconciliation.Evidence
import Qasedak.Reconciliation.SoundChecks
import Qasedak.Reconciliation.CleanupSafety
import Qasedak.CustomerActivity.Mapping
import Qasedak.CustomerActivity.Attribution
import Qasedak.CustomerActivity.Recording
import Qasedak.CustomerActivity.ActivityLabel
import Qasedak.CustomerActivity.Collector
import Qasedak.CustomerActivity.CollectorFence
import Qasedak.Broadcasts.Model
import Qasedak.Broadcasts.Senders
import Qasedak.Broadcasts.AtMostOnce
import Qasedak.Broadcasts.Cancellation
import Qasedak.Reminders.Model
import Qasedak.Reminders.Policy
import Qasedak.Foundation.Window
import Qasedak.Revenue.Guards
import Qasedak.Revenue.Caps
import Qasedak.Outreach.Model
import Qasedak.Outreach.Runners
import Qasedak.Outreach.Reservation
import Qasedak.Outreach.Caps
import Qasedak.Foundation.ExpiringLock
import Qasedak.FreeTrials.Model
import Qasedak.FreeTrials.Calls
import Qasedak.FreeTrials.Steps
import Qasedak.FreeTrials.Requests
import Qasedak.FreeTrials.Trials
import Qasedak.FreeTrials.Leftovers
import Qasedak.FreeTrials.Cleanup
import Qasedak.TelegramBot.Polling
import Qasedak.TelegramBot.Segments
import Qasedak.TelegramLinks.Linking
import Qasedak.PlanRoutes.Model
import Qasedak.PlanRoutes.Operations
import Qasedak.PlanRoutes.Changes
import Qasedak.PlanRoutes.Preview
import Qasedak.PlanRoutes.Application
import Qasedak.PlanRoutes.Agreement
import Qasedak.WizwizImport.Model
import Qasedak.WizwizImport.Analysis
import Qasedak.WizwizImport.Outcomes
import Qasedak.WizwizImport.Importable
import Qasedak.WizwizImport.Found
import Qasedak.WizwizImport.Again
import Qasedak.WizwizImport.Contract
import Qasedak.Orders.DeliveredStock
import Qasedak.Orders.StrayStock
import Qasedak.Orders.RecipeStock
import Qasedak.Orders.StockRuns
import Qasedak.CupCenter.Model
import Qasedak.CupCenter.ServedStock
import Qasedak.Foundation.Growth
import Qasedak.Orders.CustomerView
import Qasedak.Orders.PartialRetries
import Qasedak.PanelHealth.Alerts
import Qasedak.CupCenter.BuildReport
import Qasedak.Staff.LockOut
import Qasedak.Panels.ClientMatching
import Qasedak.Panels.RightClient
import Qasedak.Panels.PanelWrites
import Qasedak.Panels.TruthfulWrites
import Qasedak.Deployment.Redeploy
import Qasedak.Orders.BotRenewals
import Qasedak.Deployment.PortBook
import Qasedak.Deployment.PortsTrue
import Qasedak.Services.Burial
import Qasedak.Services.QuietDeliveries
import Qasedak.Services.StaysDeleted
import Qasedak.Foundation.Silence
import Qasedak.Orders.AdminGrants
import Qasedak.Orders.AssignedOnce
import Qasedak.Orders.GrantedOnce
import Qasedak.Orders.MetadataWrites
import Qasedak.Foundation.Ranking
import Qasedak.Orders.DueOrders
import Qasedak.PanelUsage.Daily
import Qasedak.PanelUsage.Additive
import Qasedak.Foundation.Separated
import Qasedak.Orders.IdentityCollisions
import Qasedak.PanelUsage.InboundOrder
import Qasedak.PanelUsage.PanelTotals
import Qasedak.NativeConfigs.Filtering
import Qasedak.Orders.SourceQuantities
import Qasedak.Foundation.Regex
import Qasedak.Payments.SmsFaithful
import Qasedak.PlanRoutes.OptimalSelection
import Qasedak.Panels.UsageTruth
import Qasedak.Reminders.DryRun
import Qasedak.Subscriptions.Numbering
import Qasedak.Orders.Pricing
import Qasedak.Panels.TopUps
import Qasedak.Foundation.Sql
import Qasedak.Analytics.OrderRevenue
import Qasedak.Analytics.Segments
import Qasedak.Analytics.SegmentsAgree
import Qasedak.Revenue.RetentionScan
import Qasedak.Revenue.WinBack
import Qasedak.Backup.Accepted
import Qasedak.Backup.ChecksumList
import Qasedak.Backup.Packing
import Qasedak.Backup.RoundTrip
import Qasedak.Panels.Topology
import Qasedak.Panels.TopologyMatching
