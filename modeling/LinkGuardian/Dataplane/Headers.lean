import LinkGuardian.Library.OnesComplement
import LinkGuardian.Library.P4Core

/-!
# Packet headers shared by the two switches

`common/linkradar_hdr.p4` and the parts of the two `includes/headers.p4` that agree: the
LinkRadar headers, the network headers, and the constants both programs use.  Every header
comes with its wire format, which is the field list of the source in order.
-/

namespace LinkGuardian

open P4 WireFormat

abbrev PortId := BitVec 9
abbrev QueueId := BitVec 5
abbrev MirrorId := BitVec 10
abbrev MulticastGroupId := BitVec 16
abbrev SeqNo := BitVec 16
abbrev MacAddr := BitVec 48
abbrev Ipv4Addr := BitVec 32

/-! ## Constants of `linkradar_hdr.p4` -/

def seqNumbersHalfRange : SeqNo := 32768
def maxSeqNo : SeqNo := 65535
def retxQid : QueueId := 2

def linkradarHdrTypeData : BitVec 2 := 0b00
def linkradarHdrTypeLack : BitVec 2 := 0b01
def linkradarHdrTypeLackLossNotify : BitVec 2 := 0b10
def linkradarHdrTypeTxBuffered : BitVec 2 := 0b11

def receiverSwAddr : MacAddr := 0xAABBCCDDEEFF
def senderSwAddr : MacAddr := 0xAAAABBBBCCCC

/-! ## `ether_type_t` and the internal header types -/

namespace EtherType

def ipv4 : BitVec 16 := 0x0800
def arp : BitVec 16 := 0x0806
def pktgen : BitVec 16 := 0xBFBF
def linkradar : BitVec 16 := 0xABCD
def pausePfc : BitVec 16 := 0x8808

end EtherType

def ipProtocolTcp : BitVec 8 := 6
def ipProtocolUdp : BitVec 8 := 17
def udpPortRoceV2 : BitVec 16 := 4791

def internalHdrTypeBridgedMeta : BitVec 4 := 0xA
def internalHdrTypeIgMirror : BitVec 4 := 0xB
def internalHdrTypeEgMirror : BitVec 4 := 0xC

/-! ## LinkRadar headers -/

/-- `linkradar_data_h` -/
structure LinkradarData where
  type : BitVec 2
  pad : BitVec 1
  era : BitVec 1
  reTx : BitVec 1
  dummy : BitVec 1
  blockingMode : BitVec 1
  rxBuffered : BitVec 1
  seqNo : SeqNo
deriving DecidableEq, Repr, Inhabited

/-- `linkradar_lack_h` -/
structure LinkradarLack where
  type : BitVec 2
  isPiggyBacked : BitVec 1
  era : BitVec 1
  pad : BitVec 4
  leadingAck : SeqNo
deriving DecidableEq, Repr, Inhabited

/-- `linkradar_loss_notification_h` -/
structure LinkradarLossNotification where
  holeSize : BitVec 8
  firstLostSeqNo : SeqNo
deriving DecidableEq, Repr, Inhabited

/-- `linkradar_buffered_h`, sender only -/
structure LinkradarBuffered where
  type : BitVec 2
  padCount : BitVec 5
  dstEgPort : PortId
deriving DecidableEq, Repr, Inhabited

/-- `linkradar_rx_buffered_h`, receiver only -/
structure LinkradarRxBuffered where
  origIgPort : BitVec 8
deriving DecidableEq, Repr, Inhabited

def linkradarDataFormat : WireFormat LinkradarData :=
  ((bits 2).pair ((bits 1).pair ((bits 1).pair ((bits 1).pair ((bits 1).pair ((bits 1).pair
    ((bits 1).pair (bits 16)))))))).iso
  { toFun := fun ⟨a, b, c, d, e, f, g, h⟩ => ⟨a, b, c, d, e, f, g, h⟩
    invFun := fun ⟨a, b, c, d, e, f, g, h⟩ => ⟨a, b, c, d, e, f, g, h⟩
    left_inv := fun _ => rfl
    right_inv := fun _ => rfl }

def linkradarLackFormat : WireFormat LinkradarLack :=
  ((bits 2).pair ((bits 1).pair ((bits 1).pair ((bits 4).pair (bits 16))))).iso
  { toFun := fun ⟨a, b, c, d, e⟩ => ⟨a, b, c, d, e⟩
    invFun := fun ⟨a, b, c, d, e⟩ => ⟨a, b, c, d, e⟩
    left_inv := fun _ => rfl
    right_inv := fun _ => rfl }

def linkradarLossNotificationFormat : WireFormat LinkradarLossNotification :=
  ((bits 8).pair (bits 16)).iso
  { toFun := fun ⟨a, b⟩ => ⟨a, b⟩
    invFun := fun ⟨a, b⟩ => ⟨a, b⟩
    left_inv := fun _ => rfl
    right_inv := fun _ => rfl }

def linkradarBufferedFormat : WireFormat LinkradarBuffered :=
  ((bits 2).pair ((bits 5).pair (bits 9))).iso
  { toFun := fun ⟨a, b, c⟩ => ⟨a, b, c⟩
    invFun := fun ⟨a, b, c⟩ => ⟨a, b, c⟩
    left_inv := fun _ => rfl
    right_inv := fun _ => rfl }

def linkradarRxBufferedFormat : WireFormat LinkradarRxBuffered :=
  (bits 8).iso
  { toFun := fun a => ⟨a⟩
    invFun := fun ⟨a⟩ => a
    left_inv := fun _ => rfl
    right_inv := fun _ => rfl }

/-! ## Network headers -/

/-- `ethernet_h` -/
structure Ethernet where
  dstAddr : MacAddr
  srcAddr : MacAddr
  etherType : BitVec 16
deriving DecidableEq, Repr, Inhabited

/-- `remaining_ethernet_h`: what is left of the Ethernet header after a packet-generator
header has replaced its first six bytes. -/
structure RemainingEthernet where
  srcAddr : MacAddr
  etherType : BitVec 16
deriving DecidableEq, Repr, Inhabited

/-- `pktgen_timer_header_t` of the target. -/
structure PktgenTimer where
  pad1 : BitVec 3
  pipeId : BitVec 2
  appId : BitVec 3
  pad2 : BitVec 8
  batchId : BitVec 16
  packetId : BitVec 16
deriving DecidableEq, Repr, Inhabited

/-- `arp_h` -/
structure Arp where
  htype : BitVec 16
  ptype : BitVec 16
  hlen : BitVec 8
  plen : BitVec 8
  oper : BitVec 16
  senderHwAddr : MacAddr
  senderIpAddr : Ipv4Addr
  targetHwAddr : MacAddr
  targetIpAddr : Ipv4Addr
deriving DecidableEq, Repr, Inhabited

/-- `ipv4_h` -/
structure Ipv4 where
  version : BitVec 4
  ihl : BitVec 4
  dscp : BitVec 6
  ecn : BitVec 2
  totalLen : BitVec 16
  identification : BitVec 16
  flags : BitVec 3
  fragOffset : BitVec 13
  ttl : BitVec 8
  protocol : BitVec 8
  hdrChecksum : BitVec 16
  srcAddr : Ipv4Addr
  dstAddr : Ipv4Addr
deriving DecidableEq, Repr, Inhabited

/-- `tcp_h` -/
structure Tcp where
  srcPort : BitVec 16
  dstPort : BitVec 16
  seqNo : BitVec 32
  ackNo : BitVec 32
  dataOffset : BitVec 4
  res : BitVec 4
  flags : BitVec 8
  window : BitVec 16
  checksum : BitVec 16
  urgentPtr : BitVec 16
deriving DecidableEq, Repr, Inhabited

/-- `udp_h` -/
structure Udp where
  srcPort : BitVec 16
  dstPort : BitVec 16
  hdrLength : BitVec 16
  checksum : BitVec 16
deriving DecidableEq, Repr, Inhabited

def ethernetFormat : WireFormat Ethernet :=
  ((bits 48).pair ((bits 48).pair (bits 16))).iso
  { toFun := fun ⟨a, b, c⟩ => ⟨a, b, c⟩
    invFun := fun ⟨a, b, c⟩ => ⟨a, b, c⟩
    left_inv := fun _ => rfl
    right_inv := fun _ => rfl }

def remainingEthernetFormat : WireFormat RemainingEthernet :=
  ((bits 48).pair (bits 16)).iso
  { toFun := fun ⟨a, b⟩ => ⟨a, b⟩
    invFun := fun ⟨a, b⟩ => ⟨a, b⟩
    left_inv := fun _ => rfl
    right_inv := fun _ => rfl }

def pktgenTimerFormat : WireFormat PktgenTimer :=
  ((bits 3).pair ((bits 2).pair ((bits 3).pair ((bits 8).pair ((bits 16).pair (bits 16)))))).iso
  { toFun := fun ⟨a, b, c, d, e, f⟩ => ⟨a, b, c, d, e, f⟩
    invFun := fun ⟨a, b, c, d, e, f⟩ => ⟨a, b, c, d, e, f⟩
    left_inv := fun _ => rfl
    right_inv := fun _ => rfl }

def arpFormat : WireFormat Arp :=
  ((bits 16).pair ((bits 16).pair ((bits 8).pair ((bits 8).pair ((bits 16).pair
    ((bits 48).pair ((bits 32).pair ((bits 48).pair (bits 32))))))))).iso
  { toFun := fun ⟨a, b, c, d, e, f, g, h, i⟩ => ⟨a, b, c, d, e, f, g, h, i⟩
    invFun := fun ⟨a, b, c, d, e, f, g, h, i⟩ => ⟨a, b, c, d, e, f, g, h, i⟩
    left_inv := fun _ => rfl
    right_inv := fun _ => rfl }

def ipv4Format : WireFormat Ipv4 :=
  ((bits 4).pair ((bits 4).pair ((bits 6).pair ((bits 2).pair ((bits 16).pair ((bits 16).pair
    ((bits 3).pair ((bits 13).pair ((bits 8).pair ((bits 8).pair ((bits 16).pair
    ((bits 32).pair (bits 32))))))))))))).iso
  { toFun := fun ⟨a, b, c, d, e, f, g, h, i, j, k, l, m⟩ =>
      ⟨a, b, c, d, e, f, g, h, i, j, k, l, m⟩
    invFun := fun ⟨a, b, c, d, e, f, g, h, i, j, k, l, m⟩ =>
      ⟨a, b, c, d, e, f, g, h, i, j, k, l, m⟩
    left_inv := fun _ => rfl
    right_inv := fun _ => rfl }

def tcpFormat : WireFormat Tcp :=
  ((bits 16).pair ((bits 16).pair ((bits 32).pair ((bits 32).pair ((bits 4).pair ((bits 4).pair
    ((bits 8).pair ((bits 16).pair ((bits 16).pair (bits 16)))))))))).iso
  { toFun := fun ⟨a, b, c, d, e, f, g, h, i, j⟩ => ⟨a, b, c, d, e, f, g, h, i, j⟩
    invFun := fun ⟨a, b, c, d, e, f, g, h, i, j⟩ => ⟨a, b, c, d, e, f, g, h, i, j⟩
    left_inv := fun _ => rfl
    right_inv := fun _ => rfl }

def udpFormat : WireFormat Udp :=
  ((bits 16).pair ((bits 16).pair ((bits 16).pair (bits 16)))).iso
  { toFun := fun ⟨a, b, c, d⟩ => ⟨a, b, c, d⟩
    invFun := fun ⟨a, b, c, d⟩ => ⟨a, b, c, d⟩
    left_inv := fun _ => rfl
    right_inv := fun _ => rfl }

/-! ### The IPv4 checksum -/

namespace Ipv4

/-- The words listed in `ipv4_checksum.update`: the fixed header without its checksum. -/
def checksumWords (h : Ipv4) : List (BitVec 16) :=
  [h.version ++ h.ihl ++ h.dscp ++ h.ecn, h.totalLen, h.identification,
    h.flags ++ h.fragOffset, h.ttl ++ h.protocol,
    h.srcAddr.extractLsb' 16 16, h.srcAddr.extractLsb' 0 16,
    h.dstAddr.extractLsb' 16 16, h.dstAddr.extractLsb' 0 16]

/-- `hdr.ipv4.hdr_checksum = ipv4_checksum.update(…)` -/
def updateChecksum (h : Ipv4) : Ipv4 :=
  { h with hdrChecksum := OnesComplement.checksum h.checksumWords }

end Ipv4

/-! ### Header lengths -/

lemma hasWidth_arp : arpFormat.HasWidth 224 :=
  ((hasWidth_bits 16).pair ((hasWidth_bits 16).pair ((hasWidth_bits 8).pair
    ((hasWidth_bits 8).pair ((hasWidth_bits 16).pair ((hasWidth_bits 48).pair
    ((hasWidth_bits 32).pair ((hasWidth_bits 48).pair (hasWidth_bits 32))))))))).iso _

lemma hasWidth_ipv4 : ipv4Format.HasWidth 160 :=
  ((hasWidth_bits 4).pair ((hasWidth_bits 4).pair ((hasWidth_bits 6).pair
    ((hasWidth_bits 2).pair ((hasWidth_bits 16).pair ((hasWidth_bits 16).pair
    ((hasWidth_bits 3).pair ((hasWidth_bits 13).pair ((hasWidth_bits 8).pair
    ((hasWidth_bits 8).pair ((hasWidth_bits 16).pair ((hasWidth_bits 32).pair
    (hasWidth_bits 32))))))))))))).iso _

lemma hasWidth_tcp : tcpFormat.HasWidth 160 :=
  ((hasWidth_bits 16).pair ((hasWidth_bits 16).pair ((hasWidth_bits 32).pair
    ((hasWidth_bits 32).pair ((hasWidth_bits 4).pair ((hasWidth_bits 4).pair
    ((hasWidth_bits 8).pair ((hasWidth_bits 16).pair ((hasWidth_bits 16).pair
    (hasWidth_bits 16)))))))))).iso _

lemma hasWidth_udp : udpFormat.HasWidth 64 :=
  ((hasWidth_bits 16).pair ((hasWidth_bits 16).pair ((hasWidth_bits 16).pair
    (hasWidth_bits 16)))).iso _

end LinkGuardian
