import Ckb.Packed.Basic

/-!
# Sessions and addresses

What the identify protocol sees of the session transport: multiaddrs and
their socket addresses, session contexts, and time. The two address utilities
of the `p2p` crate, `multiaddr_to_socketaddr` and `is_reachable`, are
parameters: every result about the protocol holds for any of them.
-/

set_option autoImplicit false

namespace Ckb.Network

open Ckb.Packed

/-! ## Addresses -/

/-- `std::net::IpAddr`. -/
inductive IpAddr where
  | v4 (octets : BitVec 32)
  | v6 (segments : BitVec 128)
deriving DecidableEq, Repr

/-- `std::net::SocketAddr`. -/
structure SocketAddr where
  ip : IpAddr
  port : UInt16
deriving DecidableEq, Repr

/-- `multiaddr::Protocol`: one component of a multiaddr. -/
inductive Protocol where
  | dns4 (name : String)
  | dns6 (name : String)
  | ip4 (addr : BitVec 32)
  | ip6 (addr : BitVec 128)
  | p2p (peer : Bytes)
  | tcp (port : UInt16)
  | tls (name : String)
  | ws
  | wss
  | memory (port : UInt64)
deriving DecidableEq, Repr

/-- `Multiaddr`: its components in order, as `iter` yields and `collect` takes them. -/
abbrev Multiaddr := List Protocol

/-- The `Protocol::P2P(_)` arm of the component matches. -/
def Protocol.isP2p : Protocol → Bool
  | .p2p _ => true
  | _ => false

/-- The address utilities of `p2p::utils`. -/
structure P2pUtils where
  multiaddrToSocketaddr : Multiaddr → Option SocketAddr
  isReachable : IpAddr → Bool

/-- The address filter of `connected` and `process_listens`: the address has a
socket address, whose IP must be reachable when `global_ip_only` is set. -/
def P2pUtils.reachableAddr (utils : P2pUtils) (globalIpOnly : Bool) (addr : Multiaddr) : Bool :=
  ((utils.multiaddrToSocketaddr addr).map fun socketAddr =>
    !globalIpOnly || utils.isReachable socketAddr.ip).getD false

/-- `multiaddr_to_socketaddr(a) = Some(sa)` with `is_reachable(sa.ip())`. -/
def P2pUtils.Reachable (utils : P2pUtils) (addr : Multiaddr) : Prop :=
  ∃ socketAddr, utils.multiaddrToSocketaddr addr = some socketAddr ∧
    utils.isReachable socketAddr.ip = true

/-- Modelled from the spec: `multiaddr_to_socketaddr` of the `p2p` crate, which
is not in this repository. A multiaddr names the socket of its leading IP
component and the TCP port right after it. -/
def multiaddrToSocketaddr : Multiaddr → Option SocketAddr
  | .ip4 addr :: .tcp port :: _ => some ⟨.v4 addr, port⟩
  | .ip6 addr :: .tcp port :: _ => some ⟨.v6 addr, port⟩
  | _ => none

/-- With `global_ip_only` set, the filter passes exactly the reachable addresses. -/
theorem P2pUtils.reachableAddr_true_iff (utils : P2pUtils) (addr : Multiaddr) :
    utils.reachableAddr true addr = true ↔ utils.Reachable addr := by
  unfold P2pUtils.reachableAddr P2pUtils.Reachable
  cases utils.multiaddrToSocketaddr addr <;> simp

/-! ## Sessions -/

/-- `SessionId`. -/
abbrev SessionId := Nat

/-- `SessionType`: which side opened the session. -/
inductive SessionType where
  | inbound
  | outbound
deriving DecidableEq, Repr

/-- `SessionType::is_outbound`. -/
def SessionType.isOutbound : SessionType → Bool
  | .outbound => true
  | .inbound => false

/-- `SessionType::is_inbound`. -/
def SessionType.isInbound : SessionType → Bool
  | .inbound => true
  | .outbound => false

/-- `PeerId`: the hash of a peer's public key. -/
structure PeerId where
  hash : Bytes
deriving DecidableEq, Repr

/-- A secio `PublicKey`. The protocol reads a key only through
`PeerId::from_public_key`, so a key is the peer id it hashes to. -/
structure PublicKey where
  peerId : PeerId
deriving DecidableEq, Repr

/-- `PeerId::from_public_key`. -/
def PeerId.fromPublicKey (key : PublicKey) : PeerId := key.peerId

/-- `SessionContext`: the fields of a session the protocol reads. -/
structure SessionContext where
  id : SessionId
  address : Multiaddr
  ty : SessionType
  remotePubkey : Option PublicKey
deriving DecidableEq, Repr

/-! ## Time -/

/-- `Instant`, in nanoseconds. -/
abbrev Instant := Nat

/-- `Duration`, in nanoseconds. -/
abbrev Duration := Nat

/-- `Duration::from_secs`. -/
def Duration.fromSecs (secs : Nat) : Duration := secs * 1000000000

end Ckb.Network
