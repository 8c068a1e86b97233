import OpxSdi.Common.StdError
import OpxSdi.Lib.Checked

/-!
# OEM requests to the BMC (`sdi_bmc.c`)

A request is put together in the command itself and handed to the IPMI library, which sends the first
`data_len` bytes of it. The library is a parameter.
`oemDataLen` is `SDI_BMC_OEM_DATA_LEN`.
-/

namespace OpxSdi.Bmc

open Lib

def oemDataLen : Nat := 33

/-- `sdi_bmc_oem_cmd_info_t`, without the pointer to the answer. -/
structure OemCmdInfo where
  netfn : BitVec 32
  cmd : BitVec 32
  busId : BitVec 32
  slaveAddr : BitVec 32
  offset : BitVec 32
  dataSize : BitVec 32
  data : Byte
  reqData : Vector Byte (oemDataLen + 4)
  deriving DecidableEq

/-- The payload of a command, of as many bytes as the command says. -/
abbrev OemCmdInfo.Payload (oemCmd : OemCmdInfo) : Type := Vector Byte oemCmd.dataSize.toNat

/-- `ipmi_msg_t`. Its data is the array that is pointed at. -/
structure IpmiMsg where
  netfn : Byte
  cmd : Byte
  dataLen : BitVec 16
  data : Vector Byte (oemDataLen + 4)
  deriving DecidableEq

/-- What the library sends. -/
def IpmiMsg.bytes (msg : IpmiMsg) : List Byte := msg.data.toList.take msg.dataLen.toNat

/-- The IPMI library, with controllers `μ`. -/
structure Ipmi (μ : Type) where
  /-- `_ipmi_find_mc_by_addr` at the system interface, channel 0xf and LUN 0. -/
  systemInterfaceMc : Option μ
  /-- `ipmi_mc_send_command` with LUN 0, and with `oem_resp_handler` or without a handler. -/
  sendCommand : μ → IpmiMsg → (respHandler : Bool) → Int

/-- `+` binds tighter than `?:`, so the size is chosen by the number `4 + (data != NULL)`. -/
def OemCmdInfo.msgDataLen (oemCmd : OemCmdInfo) (hasPayload : Bool) : BitVec 16 :=
  if oemCmd.data ≠ 0 then 1
  else if 4 + hasPayload.toNat ≠ 0 then oemCmd.dataSize.setWidth 16 else 0

def OemCmdInfo.header (oemCmd : OemCmdInfo) : List Byte :=
  [oemCmd.busId.setWidth 8, oemCmd.slaveAddr.setWidth 8, oemCmd.dataSize.setWidth 8, oemCmd.offset.setWidth 8]

def OemCmdInfo.fillHead (oemCmd : OemCmdInfo) : Checked (Vector Byte (oemDataLen + 4)) :=
  if oemCmd.data = 0 then stores oemCmd.reqData 0 oemCmd.header else store oemCmd.reqData 0 oemCmd.data

def fillPayload {n : Nat} (reqData : Vector Byte (oemDataLen + 4)) :
    Option (Vector Byte n) → Checked (Vector Byte (oemDataLen + 4))
  | some payload => stores reqData 4 payload.toList
  | none => .ok reqData

/-- The return code, the command afterwards and the message that has been handed over. -/
structure OemCmdResult where
  rc : TStdError
  oemCmd : OemCmdInfo
  sent : Option IpmiMsg

variable {μ : Type}

def oemCmdExecute (ipmi : Ipmi μ) (oemCmd : OemCmdInfo) (data : Option oemCmd.Payload) :
    Checked OemCmdResult :=
  if oemDataLen < oemCmd.dataSize.toNat then .ok ⟨.errcode .emsgsize, oemCmd, none⟩
  else do
    let reqData ← oemCmd.fillHead
    let reqData ← fillPayload reqData data
    let msg : IpmiMsg :=
      ⟨oemCmd.netfn.setWidth 8, oemCmd.cmd.setWidth 8, oemCmd.msgDataLen data.isSome, reqData⟩
    let oemCmd := { oemCmd with reqData }
    match ipmi.systemInterfaceMc with
    | none => .ok ⟨.errcode .einval, oemCmd, none⟩
    | some mc =>
        let rv := ipmi.sendCommand mc msg data.isNone
        .ok ⟨if rv ≠ 0 then .errcode .eio else .ok, oemCmd, some msg⟩

end OpxSdi.Bmc
