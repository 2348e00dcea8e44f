/-
  The meter's side of a conversation.

  1. **Frames** — `SentFrame raw frame`: an encoded frame that fits its length field;
     `Carries raw payload`: such an I-frame around an APDU.

  2. **`Serves S R`** — a meter that answers: `R s answers sent` says which frames will still come,
     one for each time the client reads, and what the client has sent.  Proofs about a conversation
     use the two laws and nothing else of the socket.

  3. **Concrete traffic** — `meterFrame apdu`, and `arrived frames`, a plain socket on which these
     frames have already arrived and nothing else will.
-/
import RiseSun.Gateway.HdlcDlms

namespace RiseSun.Gateway

open Proc

variable {σ : Type}

/-! ## Frames -/

/-- A frame as a meter sends it: encoded, and short enough for its length field. -/
structure SentFrame (raw : Bytes) (frame : HdlcFrame) : Prop where
  encoded : frame.encode = .ok raw
  short : raw.length ≤ 2047 + 2

theorem SentFrame.decode {raw : Bytes} {frame : HdlcFrame} (h : SentFrame raw frame) :
    HdlcFrame.decode raw = .ok frame := by
  obtain ⟨haddr, hlen⟩ := encode_totalLength h.encoded
  obtain ⟨raw', hraw, _, hdecode⟩ := frame_roundtrip haddr (by rw [← hlen]; exact h.short)
  have hsame := h.encoded
  rw [hraw] at hsame
  cases hsame
  exact hdecode

theorem SentFrame.of_short {raw : Bytes} {frame : HdlcFrame} (h : frame.encode = .ok raw)
    (hlen : frame.information.length ≤ 2003) : SentFrame raw frame := by
  refine ⟨h, ?_⟩
  rw [(encode_totalLength h).2]
  exact HdlcFrame.totalLength_short hlen

/-- An I-frame with `payload` behind the LLC header. -/
def Carries (raw payload : Bytes) : Prop :=
  ∃ frame, SentFrame raw frame ∧ frame.control &&& 0x01 = 0 ∧
    unwrapLlc frame.information = .ok payload

/-! ## A meter that answers -/

/-- The meter will answer with the frames `answers`, one for each read; `sent` is what it was
    sent. -/
structure Serves (S : MeterSocket σ) (R : σ → List Bytes → List Bytes → Prop) : Prop where
  read : ∀ {s raw frame answers sent}, SentFrame raw frame → R s (raw :: answers) sent →
    ∃ s', readFrameFromTransport S s = (.ok raw, s') ∧ R s' answers sent
  send : ∀ {s answers sent} data, R s answers sent →
    ∃ s', send S data s = (.ok (), s') ∧ R s' answers (sent ++ [data])

variable {S : MeterSocket σ} {R : σ → List Bytes → List Bytes → Prop}

theorem Serves.recvIFrame (h : Serves S R) {s : σ} {raw : Bytes} {frame : HdlcFrame}
    {answers sent : List Bytes} (hsent : SentFrame raw frame)
    (hcontrol : frame.control &&& 0x01 = 0) (hR : R s (raw :: answers) sent) :
    ∃ s', recvIFrame S s = (.ok frame, s') ∧ R s' answers sent := by
  obtain ⟨s', hread, hR'⟩ := h.read hsent hR
  refine ⟨s', ?_, hR'⟩
  show recvIFrameLoop S (19 + 1) s = _
  rw [recvIFrameLoop, bind_ok hread, hsent.decode, lift_ok_bind_run, if_pos hcontrol]
  rfl

/-! ## Concrete traffic -/

/-- The meter with physical address 1 answers with `apdu`. -/
def meterReply (apdu : Bytes) : HdlcFrame :=
  { destination := defaultClientAddress, source := 0x4001
    control := controlInformationFrame 0 0, information := wrapLlcResponse apdu }

/-- The bytes of this answer. -/
def meterFrame (apdu : Bytes) : Bytes := (meterReply apdu).encode.toOption.getD []

theorem meterFrame_sent {apdu : Bytes} (h : apdu.length ≤ 2000) :
    SentFrame (meterFrame apdu) (meterReply apdu) := by
  have hlen : (meterReply apdu).information.length ≤ 2003 := by
    have hinformation : (meterReply apdu).information.length = 3 + apdu.length :=
      List.length_append
    omega
  have hbounds : (0 ≤ defaultClientAddress ∧ defaultClientAddress < 2 ^ 28) ∧
      0 ≤ (0x4001 : Int) ∧ (0x4001 : Int) < 2 ^ 28 := by decide
  obtain ⟨raw, hraw⟩ := encode_short (show (meterReply apdu).Addressed from hbounds) hlen
  have hframe : meterFrame apdu = raw := by
    unfold meterFrame
    rw [hraw]
    rfl
  rw [hframe]
  exact .of_short hraw hlen

/-- The frame in which the meter answers is an I-frame. -/
theorem meterReply_control (apdu : Bytes) : (meterReply apdu).control &&& 0x01 = 0 := by
  show controlInformationFrame 0 0 &&& 0x01 = 0
  decide

/-- An APDU of at most 2000 bytes is what the client unwraps from the meter's frame. -/
theorem meterFrame_carries {apdu : Bytes} (h : apdu.length ≤ 2000) :
    Carries (meterFrame apdu) apdu :=
  ⟨meterReply apdu, meterFrame_sent h, meterReply_control apdu, rfl⟩

/-- AARE: the association is accepted. -/
def aareAccepted : Bytes := [aareTag, 5, aareResultTag, 3, 2, 1, aareResultAccepted]

/-- The frames have all arrived at time 0. -/
def arrived (frames : List Bytes) : Wire :=
  { timeout := 5
    incoming := (frames.map fun frame => (RxEvent.ofBytes frame).map fun ev => (0, ev)).flatten }

/-- A plain socket whose peer sends what is on its schedule, whatever it is asked. -/
def scheduled : MeterSocket Wire := .plain (wire fun _ => none)

end RiseSun.Gateway
