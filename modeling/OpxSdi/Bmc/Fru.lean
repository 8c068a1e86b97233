import OpxSdi.Bmc.DevList
import OpxSdi.Lib.CString

/-!
# FRU data and OEM responses of the BMC (`sdi_bmc.c`)

The IPMI library hands the fields of the FRU data to the driver one by one, and answers to OEM requests when
they come. The indices into both are checked against the bytes that have come. Whether a debug trace
evaluates its arguments is up to the logging macro.
-/

namespace OpxSdi.Bmc

open Lib

/-! ## The entity info -/

/-- The part of `sdi_bmc_entity_info_t` that comes from the BMC. -/
structure BmcEntityInfo where
  valid : Bool
  boardManufacturer : List Byte
  boardProductName : List Byte
  boardSerialNumber : List Byte
  boardPartNumber : List Byte
  airFlow : Byte
  type : Byte
  deriving DecidableEq

/-- The fields of one byte, at which `resp_data` may point. -/
inductive ByteField
  | type | airFlow
  deriving DecidableEq, Repr

def BmcEntityInfo.setByte (info : BmcEntityInfo) : ByteField → Byte → BmcEntityInfo
  | .type, b => { info with type := b }
  | .airFlow, b => { info with airFlow := b }

/-- The texts that are copied from FRU fields of the same name. -/
inductive BoardField
  | manufacturer | productName | serialNumber | partNumber
  deriving DecidableEq, Repr

namespace BoardField

def fruName : BoardField → List Char
  | manufacturer => "board_info_board_manufacturer".toList
  | productName => "board_info_board_product_name".toList
  | serialNumber => "board_info_board_serial_number".toList
  | partNumber => "board_info_board_part_number".toList

/-- `SDI_MAX_NAME_LEN`, `SDI_PPID_LEN` or `SDI_PART_NUM_LEN`. -/
def size : BoardField → Nat
  | manufacturer => 64
  | productName => 64
  | serialNumber => 120
  | partNumber => 10

/-- The first field whose name the given one starts with. -/
def ofFruName (name : List Char) : Option BoardField :=
  [manufacturer, productName, serialNumber, partNumber].find? fun field => field.fruName.isPrefixOf name

end BoardField

def BmcEntityInfo.setText (info : BmcEntityInfo) : BoardField → List Byte → BmcEntityInfo
  | .manufacturer, s => { info with boardManufacturer := s }
  | .productName, s => { info with boardProductName := s }
  | .serialNumber, s => { info with boardSerialNumber := s }
  | .partNumber, s => { info with boardPartNumber := s }

/-! ## FRU fields -/

/-- `ipmi_fru_data_type_e`. -/
inductive FruDataType
  | int | time | ascii | binary | unicode | boolean | float | subNode
  deriving DecidableEq, Repr

/-- What `ipmi_fru_node_get_field` returns of a field. The length of the data is an `unsigned int`. -/
structure FruField where
  name : List Char
  dtype : FruDataType
  data : List Byte
  small : data.length < 2 ^ 32

namespace FruField

def dataLen (f : FruField) : BitVec 32 := BitVec.ofNat 32 f.data.length

def load (f : FruField) (i : BitVec 32) : Except Crash Byte :=
  ((Ptr.mk f.data 0).load i.toNat).mapError .access

def loadString (f : FruField) (n : Nat) : Except Crash (List Byte) :=
  ((Ptr.mk f.data 0).loadString n).mapError .access

end FruField

/-- A field, or a code that is neither 0 nor `EINVAL`. -/
inductive FruReply
  | field (f : FruField)
  | error

/-! ## The traversal -/

/-- The entity info, and the OEM requests with the fields that their answers go to. -/
structure Traversal where
  info : BmcEntityInfo
  requests : List (ByteField × OemCmdResult)

section

variable {μ : Type} (ipmi : Ipmi μ)

/-- The answer's destination is set before the command is executed. Its return code is only logged. -/
def requestByte (field : ByteField) (oemCmd : Option OemCmdInfo) (t : Traversal) : Except Crash Traversal :=
  match oemCmd with
  | none => .ok t
  | some oemCmd => do
      let r ← (oemCmdExecute ipmi oemCmd none).mapError Crash.access
      .ok { t with requests := t.requests ++ [(field, r)] }

/-- `elm_data` after the adjustment to the header. Its byte is a signed `char`. -/
def elmData (hdrSzOffset : BitVec 32) (b : Byte) : BitVec 32 :=
  let elmData := b.signExtend 32
  if elmData < hdrSzOffset then elmData else elmData - hdrSzOffset

/-- The air flow and the type of a power supply are read alike. -/
def readByte (f : FruField) (elmData offset : BitVec 32) (field : ByteField) (info : BmcEntityInfo) :
    Except Crash BmcEntityInfo :=
  if invalidOffset ≠ offset ∧ elmData + offset ≤ f.dataLen then do
    let b ← f.load (elmData + offset)
    .ok (info.setByte field b)
  else
    .ok info

def readInternalUse (res : DevResourceInfo) (f : FruField) (info : BmcEntityInfo) :
    Except Crash BmcEntityInfo :=
  if invalidOffset ≠ res.intUseElmOffset ∧ res.intUseElmOffset < f.dataLen then do
    let b ← f.load res.intUseElmOffset
    let elmData := elmData res.hdrSzOffset b
    let info ← readByte f elmData res.airflowOffset .airFlow info
    readByte f elmData res.psuTypeOffset .type info
  else
    .ok info

/-- `safestrncpy` looks at no more characters than fit. -/
def readText (f : FruField) (info : BmcEntityInfo) : Except Crash BmcEntityInfo :=
  match BoardField.ofFruName f.name with
  | none => .ok info
  | some field =>
      if f.dtype = .ascii then do
        let s ← f.loadString (field.size - 1)
        .ok (info.setText field s)
      else
        .ok info

def readField (res : DevResourceInfo) (f : FruField) (info : BmcEntityInfo) : Except Crash BmcEntityInfo :=
  if f.name = "internal_use".toList then readInternalUse res f info else readText f info

variable (devHdl : Option DevEntry) (sensorName : List Char)

def traverseField (t : Traversal) (f : FruField) : Except Crash Traversal := do
  match ← devGetByDataSdr devHdl sensorName with
  | none => .error .null -- The commands of `res` are looked at before `res` is compared with NULL.
  | some res =>
      let t ← requestByte ipmi .type res.psuTypeOemCmd t
      let t ← requestByte ipmi .airFlow res.airFlowOemCmd t
      let info ← readField res f t.info
      .ok { t with info }

def traverseReply (t : Traversal) : FruReply → Except Crash Traversal
  | .field f => traverseField ipmi devHdl sensorName t f
  | .error => .ok t

/-- `sdi_bmc_ipmi_traverse_fru_node_tree`, on the replies before the first `EINVAL`. -/
def traverseFruNodeTree (info : BmcEntityInfo) (replies : List FruReply) : Except Crash Traversal :=
  replies.foldlM (traverseReply ipmi devHdl sensorName) ⟨{ info with valid := true }, []⟩

end

/-! ## OEM responses -/

/-- `resp_data[i] = b`. -/
def BmcEntityInfo.storeByte (info : BmcEntityInfo) (field : ByteField) (i : Nat) (b : Byte) :
    Checked BmcEntityInfo :=
  if i = 0 then .ok (info.setByte field b) else .error (.store i)

/-- The next `n` bytes of the response, from index `i` on. -/
def copyResp (rsp : Ptr) (field : ByteField) : (n i : Nat) → BmcEntityInfo → Checked BmcEntityInfo
  | 0, _, info => .ok info
  | n + 1, i, info => do
      let b ← rsp.load (i + 1)
      let info ← info.storeByte field i b
      copyResp rsp field n (i + 1) info

variable {μ : Type}

def oemRespHandler (debug : Bool) (src : Option μ) (rsp : List Byte) (oemCmd : OemCmdInfo) (field : ByteField)
    (info : BmcEntityInfo) : Checked BmcEntityInfo :=
  match src with
  | none => .ok info
  | some _ => do
      let completion ← (Ptr.mk rsp 0).load 0
      if completion ≠ 0 then .ok info
      else do
        let info ← copyResp ⟨rsp, 0⟩ field oemCmd.dataSize.toNat 0 info
        if debug then do
          let _ ← (Ptr.mk rsp 0).load 1
          .ok info
        else .ok info

end OpxSdi.Bmc
