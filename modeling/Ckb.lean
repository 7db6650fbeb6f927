import Ckb.Packed.Basic
import Ckb.Packed.Identify
import Ckb.Network.Payload
import Ckb.Network.Transport
import Ckb.Network.Protocol
import Ckb.Network.Handlers
import Ckb.Network.Runs
import Ckb.Network.Registry
import Ckb.Network.Handshake
import Ckb.Network.Hygiene
import Ckb.Network.Isolation
import Ckb.Network.IdentifyCallback
import Ckb.Network.Peers
import Ckb.Network.Policy
import Ckb.TxPool.Message
import Ckb.TxPool.Service
import Ckb.TxPool.Invariants
import Ckb.TxPool.Serial
import Ckb.TxPool.Fair
import Ckb.TxPool.Progress
