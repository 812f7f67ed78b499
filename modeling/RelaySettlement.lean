import RelaySettlement.Hub.AddressCodec
import RelaySettlement.Hub.Allowance
import RelaySettlement.Oracle.Ledger
import RelaySettlement.Oracle.Network
import RelaySettlement.Executor.Safety
import RelaySettlement.Executor.Isolation
import RelaySettlement.Pool.Solvency
import RelaySettlement.Pool.Draws
import RelaySettlement.Resolver.Residue
import RelaySettlement.PriceOracle.Freshness
import RelaySettlement.PriceOracle.StorkCache
import RelaySettlement.RateLimiter.Amount
import RelaySettlement.RateLimiter.Batch
import RelaySettlement.FeeCalculator.Bps
import RelaySettlement.Multisig.Quorum
import RelaySettlement.Depository.ExactlyOnce
import RelaySettlement.PayloadBuilder.Payouts
import RelaySettlement.PayloadBuilder.XrpVm
import RelaySettlement.PayloadBuilder.SolanaVm
import RelaySettlement.Sdk.HyperliquidVm
import RelaySettlement.Sdk.BitcoinAddress
import RelaySettlement.Sdk.HederaAddress
import RelaySettlement.Sdk.LighterVm
import RelaySettlement.LitDepositAddress.EthereumVmChain
import RelaySettlement.LitDepositAddress.Ed25519Signature
import RelaySettlement.LitDepositAddress.TonVmMessage
import RelaySettlement.LitDepositAddress.SolanaVmMessage
import RelaySettlement.PayloadBuilder.TonVm
import RelaySettlement.LitAllocator.Attestation
import RelaySettlement.PayloadBuilder.BitcoinAddress
import RelaySettlement.PayloadBuilder.BitcoinDigest
import RelaySettlement.LitAllocator.XrpVm
import RelaySettlement.Indexer.Audit
