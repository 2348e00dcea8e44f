/-
  The exceptions of the Gateway (`errors.py`) and of the Python runtime under it.

  * `GatewayError` — one record for the whole class hierarchy of `errors.py`: the class, the
    message, the `is_partial` flag and the raw frame.  `ErrorClass.code` is the machine-readable
    code the Backend sees.
  * `Message` — a formatted message as the pieces its f-string is built from: literal text and the
    values put in.  Two messages are equal iff they are built from equal pieces.
  * `PyExc` — everything that can be raised.  The grouping is Python's: `DlmsDataError` and
    `UnicodeDecodeError` are `ValueError`s but not `GatewayError`s; `socket.timeout` and
    `ConnectionError` are `OSError`s.  Which `except` clause catches what is decided by the
    predicates below.
-/
import RiseSun.Lib.Bytes
import RiseSun.Lib.Proc
import RiseSun.Lib.Socket

namespace RiseSun.Gateway

/-- One piece of a formatted message. -/
inductive Piece
  | text (s : String)
  | int (n : Int)
  | hex (b : Bytes)
  | hexByte (n : Nat)
  | quoted (s : String)
  | number (q : ℚ)
  deriving DecidableEq, Repr

abbrev Message := List Piece

/-- The classes of `errors.py`. -/
inductive ErrorClass
  | gatewayError
  | meterTimeoutError
  | authFailedError
  | connectionLostError
  | crcError
  | addressingError
  | noConnectionEstablishedError
  deriving DecidableEq, Repr

/-- The `code` attribute. -/
def ErrorClass.code : ErrorClass → String
  | .gatewayError => "GATEWAY_ERROR"
  | .meterTimeoutError => "TIMEOUT"
  | .authFailedError => "AUTH_FAILED"
  | .connectionLostError => "CONNECTION_LOST"
  | .crcError => "CRC_ERROR"
  | .addressingError => "ADDRESSING_ERROR"
  | .noConnectionEstablishedError => "NO_CONNECTION_YET"

structure GatewayError where
  cls : ErrorClass
  message : Message
  isPartial : Bool := false
  rawFrame : Option Bytes := none
  deriving DecidableEq, Repr

def GatewayError.code (e : GatewayError) : String := e.cls.code

/-- Everything a Gateway function can raise.  A `ValueError` of the runtime itself has the empty
    message: no text of the program stands in it. -/
inductive PyExc
  | gateway (e : GatewayError)
  | dlmsData (message : Message)
  | valueError (message : Message)
  | unicodeError
  | indexError
  | overflowError
  | typeError
  | unboundLocalError
  | assertionError
  | socket (e : SocketError)
  deriving DecidableEq, Repr

/-- Raise a plain `GatewayError`. -/
def PyExc.plain (message : Message) : PyExc := .gateway { cls := .gatewayError, message := message }

/-- Raise a `CrcError` that keeps the frame. -/
def PyExc.crc (message : Message) (rawFrame : Bytes) : PyExc :=
  .gateway { cls := .crcError, message := message, rawFrame := some rawFrame }

/-- Raise an `AddressingError`. -/
def PyExc.addressing (message : Message) : PyExc :=
  .gateway { cls := .addressingError, message := message }

/-- `except OSError` (it covers `socket.timeout` and `ConnectionError`). -/
def PyExc.isOSError : PyExc → Bool
  | .socket _ => true
  | _ => false

/-- `except ValueError`. -/
def PyExc.isValueError : PyExc → Bool
  | .valueError _ => true
  | .unicodeError => true
  | .dlmsData _ => true
  | _ => false

/-- `except GatewayError`. -/
def PyExc.isGatewayError : PyExc → Bool
  | .gateway _ => true
  | _ => false

/-- `except (ConnectionLostError, MeterTimeoutError, ConnectionError, OSError)`: the link itself
    is gone. -/
def PyExc.isLinkLoss : PyExc → Bool
  | .gateway e => e.cls == .connectionLostError || e.cls == .meterTimeoutError
  | .socket _ => true
  | _ => false

/-- A `GatewayError` about the bytes of an answer: they are malformed, or their checksum is off. -/
def PyExc.isBadAnswer : PyExc → Bool
  | .gateway e => e.cls == .gatewayError || e.cls == .crcError
  | _ => false

theorem PyExc.isBadAnswer_isGatewayError {e : PyExc} (h : e.isBadAnswer = true) :
    e.isGatewayError = true := by
  cases e with
  | gateway e => rfl
  | dlmsData | valueError | unicodeError | indexError | overflowError | typeError
  | unboundLocalError | assertionError | socket => cases h

/-- A bad answer is not the loss of the link. -/
theorem PyExc.isBadAnswer_not_linkLoss {e : PyExc} (h : e.isBadAnswer = true) :
    e.isLinkLoss = false := by
  cases e with
  | gateway e =>
    rcases e with ⟨cls, message, isPartial, rawFrame⟩
    cases cls with
    | gatewayError | crcError => rfl
    | meterTimeoutError | authFailedError | connectionLostError | addressingError
    | noConnectionEstablishedError => cases h
  | dlmsData | valueError | unicodeError | indexError | overflowError | typeError
  | unboundLocalError | assertionError | socket => cases h

/-! ## Indexing and number formats of `bytes` -/

/-- `data[i]`. -/
def byteAt (data : Bytes) (i : Nat) : Except PyExc UInt8 :=
  match data[i]? with
  | some b => .ok b
  | none => .error .indexError

theorem byteAt_ok {data : Bytes} {i : Nat} (h : i < data.length) : byteAt data i = .ok data[i] := by
  simp only [byteAt, List.getElem?_eq_getElem h]

theorem byteAt_error {data : Bytes} {i : Nat} (h : data.length ≤ i) :
    byteAt data i = .error .indexError := by
  simp only [byteAt, List.getElem?_eq_none h]

/-- Only a string that is too short makes `data[i]` raise. -/
theorem byteAt_eq_error {data : Bytes} {i : Nat} {e : PyExc} (h : byteAt data i = .error e) :
    data.length ≤ i ∧ e = .indexError := by
  rcases Nat.lt_or_ge i data.length with hlt | hge
  · rw [byteAt_ok hlt] at h
    cases h
  · rw [byteAt_error hge] at h
    cases h
    exact ⟨hge, rfl⟩

@[simp] theorem byteAt_append_length (p s : Bytes) (b : UInt8) :
    byteAt (p ++ b :: s) p.length = .ok b := by
  simp [byteAt]

/-- `n.to_bytes(w, "big", signed=False)`. -/
def toBytes (w : Nat) (n : Int) : Except PyExc Bytes :=
  if 0 ≤ n ∧ n < 256 ^ w then .ok (Bytes.toBE w n.toNat) else .error .overflowError

theorem toBytes_length {w : Nat} {n : Int} {bytes : Bytes} (h : toBytes w n = .ok bytes) :
    bytes.length = w := by
  unfold toBytes at h
  split at h
  · cases h
    exact Bytes.toBE_length w n.toNat
  · cases h

/-- `n.to_bytes(w, "big", signed=True)`. -/
def toBytesSigned (w : Nat) (n : Int) : Except PyExc Bytes :=
  if -(256 ^ w : Int) ≤ 2 * n ∧ 2 * n < 256 ^ w then .ok (Bytes.toSignedBE w n)
  else .error .overflowError

/-- `bytes([n])`. -/
def singleByte (n : Nat) : Except PyExc Bytes :=
  if n < 256 then .ok [UInt8.ofNat n] else .error (.valueError [])

end RiseSun.Gateway
