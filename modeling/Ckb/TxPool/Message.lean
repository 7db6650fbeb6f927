import Ckb.Packed.Basic

/-!
# Tx-pool messages

The messages `TxPoolController` sends to the tx-pool service, the replies their
responders receive, and what each handler of `process` computes from the pool
it has locked (`tx-pool/src/service.rs`).

The pool, the block assembler, the fee estimator and the verifier live outside
this repository. `TxPoolApi` names the types the service moves around and the
methods of those collaborators that `process` calls; everything proved about the
service holds for every choice of them.
-/

set_option autoImplicit false

namespace Ckb.TxPool

open Ckb.Packed

/-- `DEFAULT_CHANNEL_SIZE`: the capacity of the service's message channel. -/
def defaultChannelSize : Nat := 512

/-- `packed::ProposalShortId`. -/
abbrev ProposalShortId := Bytes

/-- `core::Cycle`. -/
abbrev Cycle := Nat

/-- The collaborators of the service. `add_pending` and `add_proposed` give the
pool after the call: the error either may report only goes to the log. -/
structure TxPoolApi where
  TxPool : Type
  TransactionView : Type
  TxEntry : Type
  TxPoolInfo : Type
  FeeRate : Type
  UncleBlockView : Type
  CandidateUncles : Type
  BlockTemplateResult : Type
  SubmitTxsResult : Type
  info : TxPool → TxPoolInfo
  containsProposalId : TxPool → ProposalShortId → Bool
  proposedGet : TxPool → ProposalShortId → Option TxEntry
  transaction : TxEntry → TransactionView
  getTxWithoutConflict : TxPool → ProposalShortId → Option TransactionView
  getTxFromPoolOrStore : TxPool → ProposalShortId → Option TransactionView
  getTxWithCycles : TxPool → ProposalShortId → Option (TransactionView × Option Cycle)
  addPending : TxPool → TxEntry → TxPool
  addProposed : TxPool → TxEntry → TxPool
  estimate : TxPool → Nat → FeeRate
  insertUncle : CandidateUncles → UncleBlockView → CandidateUncles

/-- `process::PlugTarget`. -/
inductive PlugTarget where
  | pending
  | proposed
  deriving DecidableEq, Repr

section Messages

variable (api : TxPoolApi)

/-- `Message`, with its responders beside it (see `Envelope`). The blocks,
proposal ids and snapshot of `ChainReorg` only reach `update_tx_pool_for_reorg`,
which is not in this repository; of its callback `NotifyTxs` keeps whether
there is one. -/
inductive Message where
  | blockTemplate (bytesLimit proposalsLimit maxVersion : Option Nat)
  | submitTxs (txs : List api.TransactionView)
  | notifyTxs (txs : List api.TransactionView) (callback : Bool)
  | chainReorg
  | freshProposalsFilter (proposals : List ProposalShortId)
  | fetchTxs (shortIds : List ProposalShortId)
  | fetchTxsWithCycles (shortIds : List ProposalShortId)
  | getTxPoolInfo
  | fetchTxRPC (id : ProposalShortId)
  | newUncle (uncle : api.UncleBlockView)
  | plugEntry (entries : List api.TxEntry) (target : PlugTarget)
  | estimateFeeRate (expectConfirmBlocks : Nat)

/-- What a responder receives: the reply types of the `Request`s, and the
`SubmitTxsResult` a `NotifyTxs` callback is called with. -/
inductive Reply where
  | blockTemplate (result : api.BlockTemplateResult)
  | submitTxs (result : api.SubmitTxsResult)
  | freshProposalsFilter (proposals : List ProposalShortId)
  | fetchTxs (txs : List (ProposalShortId × api.TransactionView))
  | fetchTxsWithCycles (txs : List (ProposalShortId × api.TransactionView × Cycle))
  | getTxPoolInfo (info : api.TxPoolInfo)
  | fetchTxRPC (tx : Option (Bool × api.TransactionView))
  | plugEntry
  | estimateFeeRate (feeRate : api.FeeRate)

/-- A responder: the sending half of the `crossbeam_channel::bounded(1)` that a
controller call makes for its reply, or a `NotifyTxs` callback. -/
abbrev Responder := Nat

/-- A message as it travels through the channel, with its responder if it has one. -/
structure Envelope where
  message : Message api
  responder : Option Responder

/-- How `process` handles a message: under the read lock, under the write lock
(`PlugEntry`), on the block assembler (`NewUncle`), or in a service method that
is not in this repository (`get_block_template`, `process_txs`,
`update_tx_pool_for_reorg`). -/
inductive Handler where
  | read
  | plug
  | uncle
  | external
  deriving DecidableEq, Repr

end Messages

section Handlers

variable {api : TxPoolApi}

/-- Whether a message carries a responder: every `Request`, and `NotifyTxs`
with a callback. -/
def Message.hasResponder : Message api → Bool
  | .notifyTxs _ callback => callback
  | .chainReorg | .newUncle _ => false
  | _ => true

/-- The arm of `process` a message takes. -/
def Message.handler : Message api → Handler
  | .blockTemplate .. | .submitTxs _ | .notifyTxs .. | .chainReorg => .external
  | .newUncle _ => .uncle
  | .plugEntry .. => .plug
  | _ => .read

/-- Whether an external method's result ends the handling of `message`: a
template for `BlockTemplate`, a `SubmitTxsResult` for `SubmitTxs` and
`NotifyTxs`, and nothing for `ChainReorg`. -/
def Message.endsWith : Message api → Option (Reply api) → Bool
  | .blockTemplate .., some (.blockTemplate _) => true
  | .submitTxs _, some (.submitTxs _) => true
  | .notifyTxs .., some (.submitTxs _) => true
  | .chainReorg, none => true
  | _, _ => false

/-- What a responder is sent: `responder.send(reply)`, or the callback called;
nothing when the message has no responder or the handler has no reply. -/
def Envelope.answer (envelope : Envelope api) (result : Option (Reply api)) :
    List (Responder × Reply api) :=
  match envelope.responder, result with
  | some responder, some reply => [(responder, reply)]
  | _, _ => []

theorem Envelope.mem_answer {envelope : Envelope api} {result : Option (Reply api)}
    {answered : Responder × Reply api} (mem : answered ∈ envelope.answer result) :
    envelope.responder = some answered.1 := by
  unfold Envelope.answer at mem
  split at mem
  · rw [List.mem_singleton.mp mem]; assumption
  · cases mem

theorem Envelope.answer_nodup (envelope : Envelope api) (result : Option (Reply api)) :
    ((envelope.answer result).map Prod.fst).Nodup := by
  unfold Envelope.answer
  split <;> simp

/-- `add_pending` or `add_proposed`, as `PlugEntry`'s target says. -/
def PlugTarget.add (api : TxPoolApi) : PlugTarget → api.TxPool → api.TxEntry → api.TxPool
  | .pending => api.addPending
  | .proposed => api.addProposed

variable (pool : api.TxPool)

/-- `FreshProposalsFilter`: `proposals.retain(|id| !tx_pool.contains_proposal_id(&id))`. -/
def freshProposalsFilter (proposals : List ProposalShortId) : List ProposalShortId :=
  proposals.filter fun id => !api.containsProposalId pool id

/-- `FetchTxRPC`: the transaction of a proposed entry, flagged `true`, or else
one without conflict, flagged `false`. -/
def fetchTxRPC (id : ProposalShortId) : Option (Bool × api.TransactionView) :=
  ((api.proposedGet pool id).map fun entry => (true, api.transaction entry)).orElse
    fun _ => (api.getTxWithoutConflict pool id).map fun tx => (false, tx)

/-- `FetchTxs`: the pairs collected into the reply's `HashMap`. -/
def fetchTxs (shortIds : List ProposalShortId) : List (ProposalShortId × api.TransactionView) :=
  shortIds.filterMap fun shortId => (api.getTxFromPoolOrStore pool shortId).map fun tx => (shortId, tx)

/-- `FetchTxsWithCycles`: the transactions found with their cycles; one found
without cycles is left out like one not found. -/
def fetchTxsWithCycles (shortIds : List ProposalShortId) :
    List (ProposalShortId × api.TransactionView × Cycle) :=
  shortIds.filterMap fun shortId =>
    (api.getTxWithCycles pool shortId).bind fun found => found.2.map fun cycles => (shortId, found.1, cycles)

/-- `PlugEntry`'s loop: each entry added in turn, an entry that fails left out. -/
def plugEntry (entries : List api.TxEntry) (target : PlugTarget) : api.TxPool :=
  entries.foldl (target.add api) pool

/-- The reply of a read-lock arm of `process`, computed from the pool it read. -/
def readReply : Message api → Option (Reply api)
  | .freshProposalsFilter proposals => some (.freshProposalsFilter (freshProposalsFilter pool proposals))
  | .fetchTxRPC id => some (.fetchTxRPC (fetchTxRPC pool id))
  | .fetchTxs shortIds => some (.fetchTxs (fetchTxs pool shortIds))
  | .fetchTxsWithCycles shortIds => some (.fetchTxsWithCycles (fetchTxsWithCycles pool shortIds))
  | .getTxPoolInfo => some (.getTxPoolInfo (api.info pool))
  | .estimateFeeRate expectConfirmBlocks => some (.estimateFeeRate (api.estimate pool expectConfirmBlocks))
  | _ => none

/-- One arm of `process` run start to end on `pool`: the pool it leaves and what
its responder is sent; `none` for the arms that call external methods. -/
def serve : Message api → Option (api.TxPool × Option (Reply api))
  | .plugEntry entries target => some (plugEntry pool entries target, some .plugEntry)
  | .newUncle _ => some (pool, none)
  | message => (readReply pool message).map fun reply => (pool, some reply)

theorem readReply_isSome_iff (message : Message api) :
    (readReply pool message).isSome ↔ message.handler = .read := by
  cases message <;> simp [readReply, Message.handler]

theorem plugEntry_append (done rest : List api.TxEntry) (target : PlugTarget) :
    plugEntry pool (done ++ rest) target = plugEntry (plugEntry pool done target) rest target :=
  List.foldl_append _ _ _ _

theorem plugEntry_concat (done : List api.TxEntry) (entry : api.TxEntry) (target : PlugTarget) :
    plugEntry pool (done ++ [entry]) target = target.add api (plugEntry pool done target) entry := by
  rw [plugEntry_append]; rfl

end Handlers

end Ckb.TxPool
