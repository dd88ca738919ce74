import Conduit.CheckoutSpark.Coverage
import Conduit.CheckoutSpark.Recovery
import Conduit.CheckoutSpark.MerchantCommutes
import Conduit.Router.Paid
import Conduit.Stock.Closing
import Conduit.Cart.TabRuns
import Conduit.Orders.PaidOnce
import Conduit.Stock.OneWriter
import Conduit.Stock.OrderReplay
import Conduit.Inbox.Annotations
import Conduit.Inbox.Paging
import Conduit.Markets.Revocation
import Conduit.Inbox.PrivateReports
import Conduit.Gateway.Authority
import Conduit.Network.ReplacedInboxes
import Conduit.ProductDelivery.Publication
import Conduit.ProductStock.DecidedOnce
import Conduit.Markets.HandoffRuns
import Conduit.Markets.RecoveryGuarantees
import Conduit.Signer.SessionRuns
import Conduit.Signer.Nip46Runs
import Conduit.Wallets.Migrated
import Conduit.Wallets.SessionLocks
import Conduit.Social.FollowGuarantees
import Conduit.CheckoutSpark.RetirementGuarantees
import Conduit.Lnurl
import Conduit.CheckoutSpark.ShippingShares
import Conduit.Markets.RosterForks
import Conduit.Markets.AssignmentDrafts
import Conduit.OrderPhase
import Conduit.GuestSigners
import Conduit.TelemetryProxy
import Conduit.Wallets.LightningAddress
