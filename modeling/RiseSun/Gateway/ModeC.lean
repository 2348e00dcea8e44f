/-
  The profile IEC 62056-21 mode C (`protocols/mode_c.py`).

  1. **Messages** — what the client sends, and the identification of the meter.  A text is the list of
     its characters.

  2. **Data readout** — `parseDataReadout`: framing and checksum first, then the lines, of which those
     that do not fit the pattern are passed over.

  3. **Reading** — `readValue`, from the identification to the number of one OBIS code.
-/
import Mathlib.Data.List.Infix
import RiseSun.Lib.Lines
import RiseSun.Lib.PyFloat
import RiseSun.Lib.Table
import RiseSun.Lib.UpTo
import RiseSun.Gateway.Datatypes
import RiseSun.Gateway.Transport

namespace RiseSun.Gateway.ModeC

open Proc

/-! ## Messages -/

def ack : UInt8 := 0x06

def nak : UInt8 := 0x15

def stx : UInt8 := 0x02

def etx : UInt8 := 0x03

def crlf : Bytes := [0x0D, 0x0A]

/-- `text.encode("ascii")`. -/
def encodeText (text : List Char) : Except PyExc Bytes := asciiEncode (String.ofList text)

/-- `raw.decode("ascii", errors="strict")`. -/
def decodeText (raw : Bytes) : Except PyExc (List Char) := (asciiDecode raw).map String.toList

/-- `/?<serial>!` and a line end. -/
def buildIdentificationRequest (serial : List Char) : Except PyExc Bytes :=
  (encodeText serial).map fun raw => [0x2F, 0x3F] ++ raw ++ [0x21] ++ crlf

structure IdentificationMessage where
  manufacturer : List Char
  baudChar : Char
  identification : List Char
  deriving DecidableEq

def isLineEnd (c : Char) : Bool := c = '\r' ∨ c = '\n'

def parseIdentification (raw : Bytes) : Except PyExc IdentificationMessage := do
  let text ← decodeText raw
  match (text.dropWhile isLineEnd).rdropWhile isLineEnd with
  | '/' :: a :: b :: c :: baudChar :: identification => .ok ⟨[a, b, c], baudChar, identification⟩
  | _ => .error (.plain [.text "Некорректное сообщение идентификации счётчика: ", .hex raw])

def buildOptionSelect (baudChar : Char) (mode : List Char) : Except PyExc Bytes := do
  let mode ← encodeText mode
  let baud ← encodeText [baudChar]
  pure ([ack] ++ mode ++ baud ++ [0x30] ++ crlf)

/-! ## Data readout -/

def computeBcc (data : Bytes) : UInt8 := data.foldl (· ^^^ ·) 0

/-- `[0-9.]`. -/
def isCodeChar (c : Char) : Bool := ('0' ≤ c ∧ c ≤ '9') ∨ c = '.'

/-- `[^*)]`. -/
def isValueChar (c : Char) : Bool := c ≠ '*' ∧ c ≠ ')'

/-- `[^)]`. -/
def isUnitChar (c : Char) : Bool := c ≠ ')'

/-- `\)$`: the end may be that of a last line. -/
def closesLine (rest : List Char) : Bool := rest = [')'] ∨ rest = [')', '\n']

/-- `_DATA_LINE_RE`: the code, the value, and the unit if there is one.  What follows each group is no
    character of the group, so the longest run is the only one that can match. -/
def matchDataLine (line : List Char) : Option (List Char × List Char × Option (List Char)) :=
  let code := line.takeWhile isCodeChar
  match line.dropWhile isCodeChar with
  | '(' :: rest =>
    let value := rest.takeWhile isValueChar
    if code = [] then none
    else match rest.dropWhile isValueChar with
      | '*' :: rest =>
        if closesLine (rest.dropWhile isUnitChar) then
          some (code, value, some (rest.takeWhile isUnitChar))
        else none
      | rest => if closesLine rest then some (code, value, none) else none
  | _ => none

/-- The values under their codes, each with its unit. -/
abbrev DataReadout := Table (List Char) (List Char × List Char)

def DataReadout.empty : DataReadout := ⟨[], List.nodup_nil⟩

/-- One turn of the loop over the lines. -/
def readLine (values : DataReadout) (line : List Char) : DataReadout :=
  let line := PyText.strip line
  if line = [] ∨ line = ['!'] then values
  else match matchDataLine line with
    | none => values
    | some (obis, value, unit) => values.setItem obis (value, unit.getD [])

def readLines (values : DataReadout) (text : List Char) : DataReadout :=
  (splitPair '\r' '\n' text).foldl readLine values

def parseDataReadout (stxByte bodyWithEtx bccByte : Bytes) : Except PyExc DataReadout :=
  if stxByte ≠ [stx] then
    .error (.plain [.text "Ожидался STX в начале data readout, получено: ", .hex stxByte])
  else if bodyWithEtx.getLast? ≠ some etx then
    .error (.plain [.text "Data readout не завершается байтом ETX"])
  else if bccByte.head? ≠ some (computeBcc bodyWithEtx) then
    .error (.crc [.text "Контрольная сумма (BCC) data readout не сошлась"]
      (stxByte ++ bodyWithEtx ++ bccByte))
  else (decodeText bodyWithEtx.dropLast).map (readLines .empty)

/-! ## Reading -/

variable {F σ : Type}

/-- What `recv_until` raises after `buf`. -/
def recvUntilFailed (buf : Bytes) : Option SocketError → PyExc
  | none => .gateway {
      cls := .connectionLostError
      message := [.text "Соединение закрыто счётчиком до получения полного ответа"]
      isPartial := decide (0 < buf.length), rawFrame := some buf }
  | some .timeout => .gateway {
      cls := .meterTimeoutError
      message := [.text "Таймаут ожидания ответа счётчика"]
      isPartial := decide (0 < buf.length), rawFrame := some buf }
  | some e => .socket e

def recvUntilTooLong (buf : Bytes) : PyExc := .gateway {
  cls := .gatewayError
  message := [.text "Превышен максимальный размер ответа счётчика"]
  rawFrame := some buf }

/-- `max_len`. -/
def maxAnswerLength : Nat := 8192

/-- `recv_until`. -/
def recvUntil (S : MeterSocket σ) (terminator : Bytes) : Proc PyExc σ Bytes :=
  Stream.upTo S.recv recvUntilFailed recvUntilTooLong (fun buf => decide (terminator <:+: buf))
    maxAnswerLength

/-- `decode_bcd_ascii_number`. -/
def decodeBcdAsciiNumber (fmt : PyText.FloatFormat F) (text : List Char) : Except PyExc F :=
  match PyText.pyFloat fmt text with
  | some number => .ok number
  | none => .error (.valueError [])

/-- The number of one code. -/
def readoutValue (fmt : PyText.FloatFormat F) (serial obis5 : List Char) (values : DataReadout) :
    Except PyExc F :=
  match values.get obis5 with
  | none => .error (.plain [.text "OBIS-код ", .quoted (String.ofList obis5),
      .text " отсутствует в data readout счётчика ", .text (String.ofList serial)])
  | some (rawValue, _) => decodeBcdAsciiNumber fmt rawValue

/-- What follows the option select. -/
def readReadout (fmt : PyText.FloatFormat F) (S : MeterSocket σ) (serial obis5 : List Char) :
    Proc PyExc σ F := do
  let stxByte ← recvExact S 1
  if stxByte = [nak] then
    raise (.gateway {
      cls := .authFailedError
      message := [.text "Счётчик ", .text (String.ofList serial),
        .text " отклонил запрос (NAK) — неверный адрес доступа"] })
  else do
    let bodyWithEtx ← recvUntil S [etx]
    let bccByte ← recvExact S 1
    let readout ← lift (parseDataReadout stxByte bodyWithEtx bccByte)
    lift (readoutValue fmt serial obis5 readout)

/-- `read_value`. -/
def readValue (fmt : PyText.FloatFormat F) (S : MeterSocket σ) (serial obis5 : List Char) :
    Proc PyExc σ F := do
  let request ← lift (buildIdentificationRequest serial)
  send S request
  let identRaw ← recvUntil S crlf
  let ident ← lift (parseIdentification identRaw)
  let optionSelect ← lift (buildOptionSelect ident.baudChar ['0'])
  send S optionSelect
  readReadout fmt S serial obis5

end RiseSun.Gateway.ModeC
