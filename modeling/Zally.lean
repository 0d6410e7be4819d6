import Zally.Disclosure.RoundTrip
import Zally.Disclosure.Preimage
import Zally.Disclosure.Agreement
import Zally.Keys.SealedSeed
import Zally.Storage.HoldEnding
import Zally.Storage.LockedNotesBlob
import Zally.Storage.PcztLedger
import Zally.Wallet.ReserveReplay
import Zally.Wallet.Rebuild
import Zally.Wallet.RefreshRewind
import Zally.Wallet.SpendRace
import Zally.Wallet.InFlight
import Zally.Wallet.Observation
import Zally.Wallet.TreeRoots
import Zally.Wallet.ScanEvents
import Zally.Wallet.PendingWork
import Zally.Wallet.Escalation
import Zally.Wallet.Reconciled
import Zally.Wallet.Backfill
import Zally.Wallet.BlockStream
import Zally.Wallet.ScanChunks
import Zally.Wallet.RefreshCommits
import Zally.Wallet.Builder
import Zally.Wallet.AccountBalance
import Zally.Wallet.PaymentRequest
import Zally.Storage.TextMemo
import Zally.IntentHash
import Zally.Pczt.SignerCoverage
import Zally.Pczt.ExportCompleteness
import Zally.Wallet.RetryAttempts
import Zally.Wallet.BreakerCalls
import Zally.Storage.PendingBroadcastLedger
import Zally.Pczt.Updater
import Zally.Constructions
import Zally.Async.ActorProgress
import Zally.Storage.WalletDbRuns
import Zally.Wallet.PaymentDisclosure
import Zally.Storage.ScanFeed
import Zally.Wallet.PcztRelease
import Zally.Chain.SharedConnection
import Zally.Wallet.ChainEvents
import Zally.Wallet.PcztSubmission
import Zally.Async.Broadcast
import Zally.Async.Watch
import Zally.Sql.Select
import Zally.Storage.LedgerQueries
import Zally.Storage.Preparation
import Zally.Wallet.EventStream
import Zally.Wallet.SyncSnapshots
