import OpenC2X.Common.Data
import OpenC2X.Dcc.GeoNetHeaders
import Mathlib.Data.List.GetD

/-!
# Sending frames

`SendToHardwareViaMAC` wraps an encoded message into Ethernet, GeoNetworking and BTP
headers.  The two GeoNetworking headers are members of the object: `sendWithGeoNet`
first fills the member for the message type, then copies it into the frame.
-/

namespace OpenC2X.Dcc

/-- The parts of the sender object that end up in a frame.  The Ethernet header is set by
the constructor and never changed. -/
structure SendToHardwareViaMAC where
  mOwnMac : EtherAddr
  mEth_hdr : EtherHeader
  mGeoBtpHdrForCam : GeoNetworkAndBTPHeaderCAM
  mGeoBtpHdrForDenm : GeoNetworkAndBTPHeaderDENM
  mEth_hdr_eq : mEth_hdr =
    { ether_dhost := .broadcast, ether_shost := mOwnMac, ether_type := htons ETHERTYPE_CAR }

namespace SendToHardwareViaMAC

/-- The constructor: broadcast destination and the own address as source.  The two
GeoNetworking headers are not initialized. -/
def new (mOwnMac : EtherAddr) (cam : GeoNetworkAndBTPHeaderCAM)
    (denm : GeoNetworkAndBTPHeaderDENM) : SendToHardwareViaMAC where
  mOwnMac := mOwnMac
  mEth_hdr :=
    { ether_dhost := .broadcast
      ether_shost := mOwnMac
      ether_type := htons ETHERTYPE_CAR }
  mGeoBtpHdrForCam := cam
  mGeoBtpHdrForDenm := denm
  mEth_hdr_eq := rfl

/-- `htons(payloadLen + sizeof(struct BTPHeader))` -/
def payloadField (payloadLen : ℕ) : UInt16 := htons (UInt16.ofNat (payloadLen + sizeofBTPHeader))

/-- `basicHeader` as both fill functions set it. -/
def basicHeader : GeoNetBasicHeader where
  versionAndNH := 1
  reserved := 0
  lifetime := 241
  remainingHopLimit := 1

/-- Fills every member of the CAM header but `flags`. -/
def fillGeoNetBTPheaderForCam (s : SendToHardwareViaMAC) (payloadLen : ℕ) :
    SendToHardwareViaMAC :=
  { s with
    mGeoBtpHdrForCam :=
      { basicHeader := basicHeader
        commonHeader :=
          { nhAndReserved := 32
            htAndHst := 80
            tc := 2
            flags := s.mGeoBtpHdrForCam.commonHeader.flags
            payload := payloadField payloadLen
            maxHop := 1
            reserved := 0 }
        extended :=
          { spv :=
              { addr := { assignmentTypeCountryCode := htons 38393, llAddr := s.mOwnMac }
                timestamp := htonl 2810450329
                latitude := htonl 424937722
                longitude := htonl 3460636913
                speed := htons 496
                heading := htons 1996 }
            reserved := htonl 0 }
        mBTPHdr := { mDestinationPort := htons 2001, mSourcePort := htons 0 } } }

/-- Fills every member of the DENM header but `flags`.  The two negative longitudes are
converted to `uint32_t`; `distA` and `distB` are stored in host order. -/
def fillGeoNetBTPheaderForDenm (s : SendToHardwareViaMAC) (payloadLen : ℕ) :
    SendToHardwareViaMAC :=
  { s with
    mGeoBtpHdrForDenm :=
      { basicHeader := basicHeader
        commonHeader :=
          { nhAndReserved := 32
            htAndHst := 66
            tc := 1
            flags := s.mGeoBtpHdrForDenm.commonHeader.flags
            payload := payloadField payloadLen
            maxHop := 1
            reserved := 0 }
        extended :=
          { sequenceNumber := 0
            reserved := 0
            spv :=
              { addr := { assignmentTypeCountryCode := htons 38393, llAddr := s.mOwnMac }
                timestamp := htonl 2810450329
                latitude := htonl 424939708
                longitude := htonl (0 - 834330986)
                speed := htons 496
                heading := htons 1996 }
            latitude := htonl 424939708
            longitude := htonl (0 - 834330985)
            distA := 200
            distB := 100
            angle := 0
            resrvd := 0 }
        mBTPHdr := { mDestinationPort := htons 2002, mSourcePort := htons 0 } } }

/-- The first step of `sendWithGeoNet`: fill the header member of the message type. -/
def fillHeader (s : SendToHardwareViaMAC) (type : DATA.Kind) (payloadLen : ℕ) :
    SendToHardwareViaMAC :=
  match type with
  | .DENM => s.fillGeoNetBTPheaderForDenm payloadLen
  | .CAM => s.fillGeoNetBTPheaderForCam payloadLen

/-- The header member of the message type, as it is copied into the frame. -/
def geoHdr (s : SendToHardwareViaMAC) : DATA.Kind → List UInt8
  | .DENM => s.mGeoBtpHdrForDenm.bytes GeoBroadcast.bytes
  | .CAM => s.mGeoBtpHdrForCam.bytes GeoNetTSB.bytes

def geoHdrLen : DATA.Kind → ℕ
  | .DENM => sizeofGeoNetworkAndBTPHeaderDENM
  | .CAM => sizeofGeoNetworkAndBTPHeaderCAM

/-- The second step of `sendWithGeoNet`: copy the headers and the message into a packet. -/
def packet (s : SendToHardwareViaMAC) (type : DATA.Kind) (msg : List UInt8) : List UInt8 :=
  s.mEth_hdr.bytes ++ s.geoHdr type ++ msg

/-- Builds the frame of `msg` and hands it to the socket of its access category. -/
def sendWithGeoNet (s : SendToHardwareViaMAC) (msg : List UInt8) (priority : AccessCategory)
    (type : DATA.Kind) : SendToHardwareViaMAC × AccessCategory × List UInt8 :=
  let s := s.fillHeader type msg.length
  (s, priority, s.packet type msg)

/-! ## The frame -/

@[simp] theorem length_geoHdr (s : SendToHardwareViaMAC) (type : DATA.Kind) :
    (s.geoHdr type).length = geoHdrLen type := by
  cases type <;> simp [geoHdr, geoHdrLen, GeoNetworkAndBTPHeader.length_bytes,
    sizeofGeoNetworkAndBTPHeaderCAM, sizeofGeoNetworkAndBTPHeaderDENM]

theorem length_packet (s : SendToHardwareViaMAC) (type : DATA.Kind) (msg : List UInt8) :
    (s.packet type msg).length = 14 + geoHdrLen type + msg.length := by
  simp [packet, Nat.add_assoc]

theorem drop_packet (s : SendToHardwareViaMAC) (type : DATA.Kind) (msg : List UInt8) :
    (s.packet type msg).drop (14 + geoHdrLen type) = msg := by
  rw [packet]
  exact List.drop_left' (by simp)

theorem packet_shost (s : SendToHardwareViaMAC) (type : DATA.Kind) (msg : List UInt8) :
    ((s.packet type msg).drop 6).take 6 = s.mOwnMac.octets := by
  have hdhost := EtherAddr.broadcast.length_eq
  have hshost := s.mOwnMac.length_eq
  simp only [packet, s.mEth_hdr_eq, EtherHeader.bytes, List.append_assoc]
  rw [List.drop_left' hdhost, List.take_left' hshost]

theorem packet_ether_type (s : SendToHardwareViaMAC) (type : DATA.Kind) (msg : List UInt8) :
    (s.packet type msg).getD 12 0 = 0x89 ∧ (s.packet type msg).getD 13 0 = 0x47 := by
  have hdhost := EtherAddr.broadcast.length_eq
  have hshost := s.mOwnMac.length_eq
  simp only [packet, s.mEth_hdr_eq, EtherHeader.bytes, List.append_assoc]
  constructor <;>
  · rw [List.getD_append_right _ _ _ _ (by omega), List.getD_append_right _ _ _ _ (by omega),
      hdhost, hshost]
    rfl

/-- The byte by which a receiver tells the type. -/
def htAndHst : DATA.Kind → UInt8
  | .CAM => 80
  | .DENM => 66

theorem packet_htAndHst (s : SendToHardwareViaMAC) (type : DATA.Kind) (msg : List UInt8)
    (payloadLen : ℕ) :
    ((s.fillHeader type payloadLen).packet type msg).getD 19 0 = htAndHst type := by
  rw [packet, List.append_assoc, List.getD_append_right _ _ _ _ (by simp)]
  cases type <;> simp [EtherHeader.length_bytes, geoHdr, fillHeader, fillGeoNetBTPheaderForCam,
    fillGeoNetBTPheaderForDenm, GeoNetworkAndBTPHeader.bytes, GeoNetBasicHeader.bytes,
    GeoNetCommonHeader.bytes, htAndHst]

end SendToHardwareViaMAC

end OpenC2X.Dcc
