import Zally.Core

/-! Errors of the chain-read and broadcast planes and the posture of each. -/
namespace Zally

/-- Retry classes of the indexer client; `unknown` stands for any later variant. -/
inductive IndexerRetryPolicy where
  | retryWithBackoff
  | refreshChainEpoch
  | restartFromEarliestRetained
  | operatorActionRequired
  | clientError
  | unknown
  deriving DecidableEq, Repr

def postureForIndexer : IndexerRetryPolicy → FailurePosture
  | .retryWithBackoff => .retryable
  | .refreshChainEpoch | .restartFromEarliestRetained => .restartable
  | .operatorActionRequired => .requiresOperator
  | .clientError => .notRetryable
  | .unknown => .requiresOperator

/-- An indexer client failure; only its retry class is read here. -/
structure IndexerError where
  retryPolicy : IndexerRetryPolicy
  deriving DecidableEq, Repr

inductive ChainEventCursorRecovery where
  | earliestRetained
  | unknown
  deriving DecidableEq, Repr

inductive ChainSourceError where
  | unavailable (reason : String)
  | blockHeightBelowFloor (requestedHeight earliestHeight : BlockHeight)
  | blockHeightAboveVisibleTip (requestedHeight visibleTipHeight : BlockHeight)
  | capabilitiesUnavailable (capabilities : List String)
  | contractRevisionUnsupported (minimumRevision actualRevision : UInt32)
  | chainEpochPinUnavailable
  | chainEventCursorExpired (recovery : ChainEventCursorRecovery)
  | unsupportedResponse (response : String)
  | treeStateAnchorHeightMismatch (requestedHeight returnedHeight : BlockHeight)
  | networkMismatch (chainSourceNetwork requestedNetwork : Network)
  | malformedCompactBlock (blockHeight : BlockHeight) (reason : String)
  | compactBlockStreamOrder (expectedHeight : BlockHeight) (actualHeight : Option BlockHeight)
  | malformedSubtreeRootPage (pool : ShieldedPool) (reason : String)
  | malformedTransparentUtxoSet (reason : String)
  | blockingTaskFailed (reason : String)
  | shieldedPoolUnsupported (pool : ShieldedPool)
  | indexer (error : IndexerError)
  deriving DecidableEq, Repr

def ChainSourceError.posture : ChainSourceError → FailurePosture
  | unavailable _ | blockingTaskFailed _ => .retryable
  | chainEpochPinUnavailable | chainEventCursorExpired _ => .restartable
  | blockHeightBelowFloor _ _ | blockHeightAboveVisibleTip _ _ => .notRetryable
  | networkMismatch _ _ | capabilitiesUnavailable _ | contractRevisionUnsupported _ _
  | unsupportedResponse _ | malformedCompactBlock _ _ | compactBlockStreamOrder _ _
  | malformedSubtreeRootPage _ _ | malformedTransparentUtxoSet _
  | treeStateAnchorHeightMismatch _ _ | shieldedPoolUnsupported _ => .requiresOperator
  | indexer error => postureForIndexer error.retryPolicy

inductive SubmitterError where
  | unavailable (reason : String)
  | requestRejected (reason : String)
  | networkMismatch (submitter transaction : Network)
  | capabilitiesUnavailable (capabilities : List String)
  | unsupportedResponse (response : String)
  | blockingTaskFailed (reason : String)
  | indexer (error : IndexerError)
  deriving DecidableEq, Repr

def SubmitterError.posture : SubmitterError → FailurePosture
  | unavailable _ | blockingTaskFailed _ => .retryable
  | requestRejected _ => .notRetryable
  | networkMismatch _ _ => .requiresOperator
  | capabilitiesUnavailable _ | unsupportedResponse _ => .requiresOperator
  | indexer error => postureForIndexer error.retryPolicy

end Zally
