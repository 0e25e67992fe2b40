import PalmyProtocol.Library.Rounding
import PalmyProtocol.Library.BitField
import PalmyProtocol.Math.MathUtils
import PalmyProtocol.System.Registry
import PalmyProtocol.Proofs.StableAggregate
import PalmyProtocol.Proofs.AccrualViews
import PalmyProtocol.Proofs.DebtsCounted
import PalmyProtocol.Proofs.RatesMatch
import PalmyProtocol.System.DebtConsent
import PalmyProtocol.Proofs.Consent
import PalmyProtocol.Proofs.RebalanceGuard
import PalmyProtocol.Library.SharePool
import PalmyProtocol.Proofs.SupplyBacked
import PalmyProtocol.Proofs.SoundConfiguration
import PalmyProtocol.System.Upgrades
import PalmyProtocol.Proofs.AcrossUpgrades
import PalmyProtocol.Proofs.PauseFreezes
import PalmyProtocol.Oracles.ChainsightOracle
import PalmyProtocol.Oracles.PalmyOracle
import PalmyProtocol.Proofs.FallbackPrice
import PalmyProtocol.Proofs.AccrualFlows
import PalmyProtocol.Proofs.DepositsAuthorised
import PalmyProtocol.System.FrozenFlag
import PalmyProtocol.Proofs.FrozenExposure
import PalmyProtocol.Proofs.OrderIndependence
import PalmyProtocol.Pool.HealthFactor
import PalmyProtocol.Proofs.CollateralReceived
import PalmyProtocol.System.AccountMoves
import PalmyProtocol.Proofs.HealthKept
import PalmyProtocol.Library.Holdings
import PalmyProtocol.Proofs.ScaledTokens
import PalmyProtocol.Proofs.StableExactness
import PalmyProtocol.Proofs.LiquidationAmounts
import PalmyProtocol.System.PriceFeeds
import PalmyProtocol.Proofs.PriceProvenance
import PalmyProtocol.Proofs.CollateralRemoval
import PalmyProtocol.Proofs.RemovalAnswers
import PalmyProtocol.Proofs.NoDust
import PalmyProtocol.Proofs.FlagsFollow
import PalmyProtocol.Proofs.FlashLoanAccounts
import PalmyProtocol.System.FlagsBacked
import PalmyProtocol.Proofs.FlagsAlongRuns
import PalmyProtocol.Proofs.PremiumShares
import PalmyProtocol.Pool.InterestRates
import PalmyProtocol.Proofs.BorrowRates
import PalmyProtocol.Proofs.FactorBound
import PalmyProtocol.Proofs.FactorChange
import PalmyProtocol.Proofs.SwitchedOff
import PalmyProtocol.Library.Averages
import PalmyProtocol.Proofs.BorrowingPower
import PalmyProtocol.Proofs.AccountSums
import PalmyProtocol.Misc.WETHGateway
import PalmyProtocol.Proofs.GatewayRepay
import PalmyProtocol.System.DebtlessTransfers
import PalmyProtocol.Proofs.GatewayWithdraw
import PalmyProtocol.Library.Compounding
import PalmyProtocol.Proofs.FixedPoint
import PalmyProtocol.Proofs.InterestFactors
import PalmyProtocol.Proofs.ReserveBitmap
import PalmyProtocol.Proofs.UserBitmap
import PalmyProtocol.Proofs.StableRates
import PalmyProtocol.Proofs.StableEvents
import PalmyProtocol.Library.Traces
import PalmyProtocol.Pool.StandingDebts
import PalmyProtocol.System.StateUpdates
import PalmyProtocol.Proofs.TaxedOnce
import PalmyProtocol.Proofs.CashAccounted
import PalmyProtocol.Library.Footprint
import PalmyProtocol.Pool.ReserveCells
import PalmyProtocol.System.Footprints
import PalmyProtocol.System.CashFlows
import PalmyProtocol.Proofs.Bystanders
import PalmyProtocol.Proofs.StableRateHeld
import PalmyProtocol.Proofs.GrantsCover
import PalmyProtocol.Library.Words
import PalmyProtocol.Library.Nonces
import PalmyProtocol.Tokenization.Permit
import PalmyProtocol.System.Permits
import PalmyProtocol.Proofs.PermitsOnce
import PalmyProtocol.Upgradeability.Proxy
import PalmyProtocol.Configuration.LendingPoolAddressesProvider
import PalmyProtocol.System.Governance
import PalmyProtocol.Library.Levels
import PalmyProtocol.Proofs.UpgradesGoverned
import PalmyProtocol.System.ShareBooks
import PalmyProtocol.Proofs.SharesTracked
import PalmyProtocol.System.DebtBooks
import PalmyProtocol.Proofs.DebtsTracked
import PalmyProtocol.Library.Announced
import PalmyProtocol.Tokenization.IncentivesController
import PalmyProtocol.Proofs.IncentivesTold
import PalmyProtocol.System.SharePrices
import PalmyProtocol.Proofs.DepositsGrow
import PalmyProtocol.Proofs.BystandersHealth
import PalmyProtocol.Library.Projection
import PalmyProtocol.System.Settings
import PalmyProtocol.Proofs.SettingsGoverned
import PalmyProtocol.Library.Growth
import PalmyProtocol.System.RateCeilings
import PalmyProtocol.Proofs.DebtCeilings
import PalmyProtocol.System.NetClaims
import PalmyProtocol.Proofs.ValueKept
