import Mathlib.Data.Nat.Basic
import Mathlib.Tactic.Common

/-!
# The GeoNetworking and BTP headers

The structs of `GeoNetHeaders.h` and of `net/ethernet.h` with the bytes they occupy in
memory.  All members are naturally aligned, so there is no padding.  The host is little
endian: a member of two or four bytes is stored with its lowest byte first, and `htons`,
`htonl` swap the bytes.
-/

namespace OpenC2X.Dcc

/-! ## Integers in memory -/

/-- The two bytes of a `uint16_t` in memory. -/
def memory16 (x : UInt16) : List UInt8 := [x.toUInt8, (x >>> 8).toUInt8]

/-- The four bytes of a `uint32_t` in memory. -/
def memory32 (x : UInt32) : List UInt8 :=
  [x.toUInt8, (x >>> 8).toUInt8, (x >>> 16).toUInt8, (x >>> 24).toUInt8]

def htons (x : UInt16) : UInt16 := (x <<< 8) ||| (x >>> 8)

def htonl (x : UInt32) : UInt32 :=
  (x <<< 24) ||| ((x &&& (0xff00 : UInt32)) <<< 8) ||| ((x >>> 8) &&& (0xff00 : UInt32)) |||
    (x >>> 24)

/-- `ntohs` of the `uint16_t` whose bytes in memory are `first` and `second`. -/
def ntohs (first second : UInt8) : ℕ := first.toNat * 256 + second.toNat

/-! ## Ethernet -/

def ETHERMTU : ℕ := 1500

/-- The ethertype of GeoNetworking. -/
def ETHERTYPE_CAR : UInt16 := 0x8947

/-- `struct ether_addr`: the six octets of a MAC address. -/
structure EtherAddr where
  octets : List UInt8
  length_eq : octets.length = 6

@[ext] theorem EtherAddr.ext {a b : EtherAddr} (h : a.octets = b.octets) : a = b := by
  cases a; cases b; simp_all

instance : DecidableEq EtherAddr := fun a b =>
  decidable_of_iff (a.octets = b.octets) ⟨EtherAddr.ext, fun h => h ▸ rfl⟩

/-- `FF:FF:FF:FF:FF:FF` -/
def EtherAddr.broadcast : EtherAddr := ⟨List.replicate 6 0xff, rfl⟩

/-- `ether_ntoa` of six bytes: hexadecimal numbers without leading zeros, separated
by colons. -/
def ether_ntoa (octets : List UInt8) : String :=
  ":".intercalate (octets.map fun o => String.ofList (Nat.toDigits 16 o.toNat))

structure EtherHeader where
  ether_dhost : EtherAddr
  ether_shost : EtherAddr
  ether_type : UInt16

def EtherHeader.bytes (h : EtherHeader) : List UInt8 :=
  h.ether_dhost.octets ++ h.ether_shost.octets ++ memory16 h.ether_type

def sizeofEtherHeader : ℕ := 14

/-! ## GeoNetworking and BTP -/

structure GeoNetBasicHeader where
  versionAndNH : UInt8
  reserved : UInt8
  lifetime : UInt8
  remainingHopLimit : UInt8

def GeoNetBasicHeader.bytes (h : GeoNetBasicHeader) : List UInt8 :=
  [h.versionAndNH, h.reserved, h.lifetime, h.remainingHopLimit]

structure GeoNetCommonHeader where
  nhAndReserved : UInt8
  htAndHst : UInt8
  tc : UInt8
  flags : UInt8
  payload : UInt16
  maxHop : UInt8
  reserved : UInt8

def GeoNetCommonHeader.bytes (h : GeoNetCommonHeader) : List UInt8 :=
  [h.nhAndReserved, h.htAndHst, h.tc, h.flags] ++ memory16 h.payload ++ [h.maxHop, h.reserved]

structure GeoNetAddress where
  assignmentTypeCountryCode : UInt16
  llAddr : EtherAddr

def GeoNetAddress.bytes (a : GeoNetAddress) : List UInt8 :=
  memory16 a.assignmentTypeCountryCode ++ a.llAddr.octets

structure SourcePositionVector where
  addr : GeoNetAddress
  timestamp : UInt32
  latitude : UInt32
  longitude : UInt32
  speed : UInt16
  heading : UInt16

def SourcePositionVector.bytes (v : SourcePositionVector) : List UInt8 :=
  v.addr.bytes ++ memory32 v.timestamp ++ memory32 v.latitude ++ memory32 v.longitude ++
    memory16 v.speed ++ memory16 v.heading

structure GeoNetTSB where
  spv : SourcePositionVector
  reserved : UInt32

def GeoNetTSB.bytes (t : GeoNetTSB) : List UInt8 := t.spv.bytes ++ memory32 t.reserved

structure GeoBroadcast where
  sequenceNumber : UInt16
  reserved : UInt16
  spv : SourcePositionVector
  latitude : UInt32
  longitude : UInt32
  distA : UInt16
  distB : UInt16
  angle : UInt16
  resrvd : UInt16

def GeoBroadcast.bytes (g : GeoBroadcast) : List UInt8 :=
  memory16 g.sequenceNumber ++ memory16 g.reserved ++ g.spv.bytes ++ memory32 g.latitude ++
    memory32 g.longitude ++ memory16 g.distA ++ memory16 g.distB ++ memory16 g.angle ++
    memory16 g.resrvd

structure BTPHeader where
  mDestinationPort : UInt16
  mSourcePort : UInt16

def BTPHeader.bytes (h : BTPHeader) : List UInt8 :=
  memory16 h.mDestinationPort ++ memory16 h.mSourcePort

def sizeofBTPHeader : ℕ := 4

/-- A GeoNetworking header followed by the BTP header.  The two kinds of message differ
only in the extended header between the common header and BTP. -/
structure GeoNetworkAndBTPHeader (Extended : Type) where
  basicHeader : GeoNetBasicHeader
  commonHeader : GeoNetCommonHeader
  extended : Extended
  mBTPHdr : BTPHeader

abbrev GeoNetworkAndBTPHeaderCAM := GeoNetworkAndBTPHeader GeoNetTSB

abbrev GeoNetworkAndBTPHeaderDENM := GeoNetworkAndBTPHeader GeoBroadcast

def GeoNetworkAndBTPHeader.bytes {Extended : Type} (extendedBytes : Extended → List UInt8)
    (h : GeoNetworkAndBTPHeader Extended) : List UInt8 :=
  h.basicHeader.bytes ++ h.commonHeader.bytes ++ extendedBytes h.extended ++ h.mBTPHdr.bytes

def sizeofGeoNetworkAndBTPHeaderCAM : ℕ := 44

def sizeofGeoNetworkAndBTPHeaderDENM : ℕ := 60

/-! ## The sizes -/

@[simp] theorem EtherHeader.length_bytes (h : EtherHeader) : h.bytes.length = 14 := by
  simp [EtherHeader.bytes, memory16, EtherAddr.length_eq]

@[simp] theorem SourcePositionVector.length_bytes (v : SourcePositionVector) :
    v.bytes.length = 24 := by
  simp [SourcePositionVector.bytes, GeoNetAddress.bytes, memory16, memory32, EtherAddr.length_eq]

@[simp] theorem GeoNetTSB.length_bytes (t : GeoNetTSB) : t.bytes.length = 28 := by
  simp [GeoNetTSB.bytes, memory32]

@[simp] theorem GeoBroadcast.length_bytes (g : GeoBroadcast) : g.bytes.length = 44 := by
  simp [GeoBroadcast.bytes, memory16, memory32]

theorem GeoNetworkAndBTPHeader.length_bytes {Extended : Type}
    (extendedBytes : Extended → List UInt8) (h : GeoNetworkAndBTPHeader Extended) :
    (h.bytes extendedBytes).length = 16 + (extendedBytes h.extended).length := by
  simp only [bytes, GeoNetBasicHeader.bytes, GeoNetCommonHeader.bytes, BTPHeader.bytes, memory16,
    List.length_append, List.length_cons, List.length_nil]
  omega

end OpenC2X.Dcc
