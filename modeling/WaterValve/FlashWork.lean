import WaterValve.Basic
import WaterValve.Lib.Loop
import Mathlib.Data.Nat.Find
import Mathlib.Logic.Function.Basic

/-!
# WaterValve.FlashWork

`flashwork.c`: the device registry and its copy in flash.  Everything here
reads and writes only `Storage`; the functions of that file which also queue
messages or raise warnings are in `WaterValve.Offline`.

Every lookup of the source is the same loop, `while(num){ if(..) ..; num--; }`
from `Num` downwards, so it is `Nat.findGreatest`: the index at which the loop
stops, 0 when it runs out.  All reads of the environment go through
`flashGet`, all keys are the strings the source prints.
-/

namespace WaterValve

open CText

/-! ## the flash environment -/

/-- `"%ld"` of a `uint32_t`: the argument is printed as a `long`. -/
def printLd (value : UInt32) : List UInt8 := fmtInt 0 value.toInt32.toInt

/-- `"%d"` of a `uint8_t`. -/
def printD (value : UInt8) : List UInt8 := fmtInt 0 value.toNat

/-- The environment's keys, by what the source stores under them. -/
inductive FlashKey
  | num (key : UInt32)
  | learnNums
  | moto
  | rssi (id : UInt32)
  | alive (id : UInt32)
  | slaveAlarm (id : UInt32)
  | bat (id : UInt32)
  deriving DecidableEq

/-- The key string, as the source prints it. -/
def FlashKey.name : FlashKey → List UInt8
  | .num key => printLd key
  | .learnNums => ascii "Learn_Nums"
  | .moto => ascii "Moto"
  | .rssi id => ascii "Rssi:" ++ printLd id
  | .alive id => ascii "alive:" ++ printLd id
  | .slaveAlarm id => ascii "SlaveAlarm:" ++ printLd id
  | .bat id => ascii "Bat:" ++ printLd id

/-- `ef_set_env`. -/
def efSetEnv (key value : List UInt8) (env : Env) : Env := Function.update env key (some value)

/-- `ef_get_env_blob`: at most `bufLen` bytes of the value, none when the key is
absent. -/
def efGetEnvBlob (key : List UInt8) (bufLen : Nat) (env : Env) : List UInt8 :=
  ((env key).getD []).take bufLen

/-- The body all `Flash_Get_*` functions share: read at most 64 bytes and
convert them with `atol`. -/
def flashGet (key : FlashKey) (env : Env) : UInt32 :=
  let readValueTemp := efGetEnvBlob key.name 64 env
  if 0 < readValueTemp.length then UInt32.ofInt (atol readValueTemp) else 0

def flashGetLearnNums (env : Env) : UInt32 := flashGet .learnNums env

def flashGetDoorNums (env : Env) : UInt32 := flashGet (.num 88888888) env

def flashGetGatewayNums (env : Env) : UInt32 := flashGet (.num 88887777) env

def flashGetMotoFlag (env : Env) : UInt32 := flashGet .moto env

def flashGetKeyValue (key : UInt32) (env : Env) : UInt32 := flashGet (.num key) env

def deviceRssiGet (deviceID : UInt32) (env : Env) : UInt8 := (flashGet (.rssi deviceID) env).toUInt8

def flashAliveGet (deviceID : UInt32) (env : Env) : UInt8 :=
  (flashGet (.alive deviceID) env).toUInt8

def flashGetSlaveAlarm (deviceID : UInt32) (env : Env) : UInt8 :=
  (flashGet (.slaveAlarm deviceID) env).toUInt8

def deviceBatGet (deviceID : UInt32) (env : Env) : UInt8 := (flashGet (.bat deviceID) env).toUInt8

/-- Store a printed value under a key. -/
def Storage.put (key : FlashKey) (value : List UInt8) (st : Storage) : Storage :=
  { st with env := efSetEnv key.name value st.env }

def flashKeyChange (key value : UInt32) (st : Storage) : Storage :=
  st.put (.num key) (printLd value)

def flashLearnNumsChange (value : UInt32) (st : Storage) : Storage :=
  st.put .learnNums (printLd value)

def flashMotoChange (value : UInt8) (st : Storage) : Storage := st.put .moto (printD value)

def deviceRssiChange (deviceID : UInt32) (value : UInt8) (st : Storage) : Storage :=
  st.put (.rssi deviceID) (printD value)

def flashAliveChange (deviceID : UInt32) (value : UInt8) (st : Storage) : Storage :=
  st.put (.alive deviceID) (printD value)

def deviceSlaveAlarmChange (deviceID : UInt32) (value : UInt8) (st : Storage) : Storage :=
  st.put (.slaveAlarm deviceID) (printD value)

def deviceBatChange (deviceID : UInt32) (value : UInt8) (st : Storage) : Storage :=
  st.put (.bat deviceID) (printD value)

/-! ## lookups -/

namespace Storage

/-- `uint16_t num = Global_Device.Num;`, the start of every search. -/
def searchStart (st : Storage) : Nat := st.globalDevice.num % 2 ^ 16

/-- Where the search for `deviceID` stops; 0 when no slot holds it. -/
def slotOf (deviceID : UInt32) (st : Storage) : Nat :=
  Nat.findGreatest (fun num => st.globalDevice.id num = deviceID) st.searchStart

def flashGetKeyValid (deviceID : UInt32) (st : Storage) : UInt8 :=
  if st.slotOf deviceID = 0 then RT_ERROR else RT_EOK

/-- The source answers `RT_ERROR`, which is 1, for an empty registry. -/
def flashGetRssi (deviceID : UInt32) (st : Storage) : UInt8 :=
  if st.searchStart = 0 then RT_ERROR
  else if st.slotOf deviceID = 0 then 0
  else st.globalDevice.rssi (st.slotOf deviceID)

def getDoorID (st : Storage) : UInt32 :=
  if st.globalDevice.doorNum = 0 then 0 else st.globalDevice.id st.globalDevice.doorNum

def getGatewayID (st : Storage) : UInt32 :=
  if st.globalDevice.gatewayNum = 0 then 0 else st.globalDevice.id st.globalDevice.gatewayNum

def flashGetSlaveAlarmFlag (st : Storage) : UInt8 :=
  if Nat.findGreatest (fun num => st.globalDevice.slaveAlarm num ≠ 0) st.searchStart = 0 then 0
  else 1

end Storage

/-- `GetDoorValid`: is the id of the door class? -/
def getDoorValid (deviceID : UInt32) : UInt8 :=
  if 30000000 ≤ deviceID ∧ deviceID < 40000000 then RT_EOK else RT_ERROR

/-! ## learning and deleting -/

namespace Storage

/-- The lowest free slot, if any, with `Num` and `Learn_Nums` raised to it when
it is new; 0 when the registry is full. -/
def getLearnNumsValid (st : Storage) : Nat × Storage :=
  match (List.range' 1 (maxSupport - 1)).find? fun num => st.globalDevice.id num = 0 with
  | some num =>
    if num > st.globalDevice.num then
      (num, flashLearnNumsChange (UInt32.ofNat num)
        { st with globalDevice := { st.globalDevice with num := num } })
    else (num, st)
  | none => (0, st)

/-- `Global_Device.ID[num] = deviceID; Flash_Key_Change(num, deviceID);` -/
def setID (num : Nat) (deviceID : UInt32) (st : Storage) : Storage :=
  flashKeyChange (UInt32.ofNat num) deviceID
    { st with globalDevice := { st.globalDevice with
        id := Function.update st.globalDevice.id num deviceID } }

/-- `Global_Device.DoorNum = num; Flash_Key_Change(88888888, num);` -/
def setDoorNum (num : Nat) (st : Storage) : Storage :=
  flashKeyChange 88888888 (UInt32.ofNat num)
    { st with globalDevice := { st.globalDevice with doorNum := num } }

/-- `Global_Device.GatewayNum = num; Flash_Key_Change(88887777, num);` -/
def setGatewayNum (num : Nat) (st : Storage) : Storage :=
  flashKeyChange 88887777 (UInt32.ofNat num)
    { st with globalDevice := { st.globalDevice with gatewayNum := num } }

def addDevice (deviceID : UInt32) (st : Storage) : UInt8 × Storage :=
  let (num, st) := st.getLearnNumsValid
  if num = 0 then (RT_ERROR, st) else (RT_EOK, st.setID num deviceID)

/-- `Add_DoorDevice` without the `Replace_Door` notification, which only queues
a message (`WaterValve.addDoorDevice` sends it). -/
def addDoorDevice (deviceID : UInt32) (st : Storage) : UInt8 × Storage :=
  if st.getDoorID ≠ 0 then
    let num := (flashGetDoorNums st.env).toNat
    (RT_EOK, (st.setID num deviceID).setDoorNum num)
  else
    let (num, st) := st.getLearnNumsValid
    if num = 0 then (RT_ERROR, st) else (RT_EOK, (st.setID num deviceID).setDoorNum num)

def addGatewayDevice (deviceID : UInt32) (st : Storage) : UInt8 × Storage :=
  if st.getGatewayID ≠ 0 then
    let num := (flashGetGatewayNums st.env).toNat
    (RT_EOK, (st.setID num deviceID).setGatewayNum num)
  else
    let (num, st) := st.getLearnNumsValid
    if num = 0 then (RT_ERROR, st) else (RT_EOK, (st.setID num deviceID).setGatewayNum num)

def deleteDevice (deviceID : UInt32) (st : Storage) : UInt8 × Storage :=
  let num := st.slotOf deviceID
  if num = 0 then (RT_ERROR, st)
  else
    let st := st.setID num 0
    if getDoorValid deviceID = RT_EOK then (RT_EOK, st.setDoorNum 0) else (RT_EOK, st)

/-! ## per-device updates -/

def deviceAliveChange (deviceID : UInt32) (value : UInt8) (st : Storage) : UInt8 × Storage :=
  let num := st.slotOf deviceID
  let d := st.globalDevice
  if num = 0 then (RT_ERROR, st)
  else if d.alive num ≠ value.toUInt32 ∨ d.getMesssage num ≠ value.toUInt32 then
    (RT_EOK, flashAliveChange deviceID value { st with globalDevice := { d with
      alive := Function.update d.alive num value.toUInt32
      getMesssage := Function.update d.getMesssage num value.toUInt32 } })
  else (RT_EOK, st)

def updateDeviceBat (deviceID : UInt32) (bat : UInt8) (st : Storage) : UInt8 × Storage :=
  let num := st.slotOf deviceID
  let d := st.globalDevice
  if num = 0 then (RT_ERROR, st)
  else if d.bat num ≠ bat then
    (RT_EOK, deviceBatChange deviceID bat
      { st with globalDevice := { d with bat := Function.update d.bat num bat } })
  else (RT_EOK, st)

/-- The signal class of a reading in dBm. -/
def rssiClass (rssi : Int) : UInt8 :=
  if rssi < -94 then 0 else if -94 ≤ rssi ∧ rssi < -78 then 1 else 2

def updateDeviceRssi (deviceID : UInt32) (rssi : Int) (st : Storage) : UInt8 × Storage :=
  let num := st.slotOf deviceID
  let d := st.globalDevice
  if num = 0 then (RT_ERROR, st)
  else if rssiClass rssi ≠ d.rssi num then
    (RT_EOK, deviceRssiChange deviceID (rssiClass rssi)
      { st with globalDevice := { d with rssi := Function.update d.rssi num (rssiClass rssi) } })
  else (RT_EOK, st)

def clearDeviceTime (deviceID : UInt32) (st : Storage) : UInt8 × Storage :=
  let num := st.slotOf deviceID
  let d := st.globalDevice
  if num = 0 then (RT_ERROR, st)
  else (RT_EOK, { st with globalDevice := { d with idTime := Function.update d.idTime num 0 } })

def flashSetSlaveAlarmFlag (deviceID : UInt32) (flag : UInt8) (st : Storage) : UInt8 × Storage :=
  let num := st.slotOf deviceID
  let d := st.globalDevice
  if num = 0 then (RT_ERROR, st)
  else if d.slaveAlarm num ≠ flag then
    (RT_EOK, deviceSlaveAlarmChange deviceID flag
      { st with globalDevice := { d with slaveAlarm := Function.update d.slaveAlarm num flag } })
  else (RT_EOK, st)

/-! ## the hourly ageing -/

/-- One round of `Update_All_Time`. -/
def ageSlot (i : Nat) (st : Storage) : Storage :=
  let d := st.globalDevice
  if d.idTime i < 25 then
    { st with globalDevice := { d with idTime := Function.update d.idTime i (d.idTime i + 1) } }
  else st

/-- `none` when the `uint8_t` counter never passes `Num`. -/
def updateAllTime (st : Storage) : Option Storage :=
  if st.searchStart = 0 then some st else Loop.forUpTo st.searchStart ageSlot st

/-- One round of `Clear_All_Time`. -/
def clearSlot (i : Nat) (st : Storage) : Storage :=
  let d := st.globalDevice
  if d.idTime i < 25 ∨ d.getMesssage i = 1 then
    { st with globalDevice := { d with
        getMesssage := Function.update d.getMesssage i 0
        idTime := Function.update d.idTime i 0 } }
  else st

def clearAllTime (st : Storage) : Option Storage :=
  if st.searchStart = 0 then some st else Loop.forUpTo st.searchStart clearSlot st

/-! ## loading and erasing -/

/-- One round of the loading loop: the id of slot `i` and, when there is one,
the attributes stored under it. -/
def loadSlot (env : Env) (i : Nat) (d : DeviceInfo) : DeviceInfo :=
  let id := flashGetKeyValue (UInt32.ofNat i) env
  if id ≠ 0 then
    { d with
      id := Function.update d.id i id
      bat := Function.update d.bat i (deviceBatGet id env)
      rssi := Function.update d.rssi i (deviceRssiGet id env)
      alive := Function.update d.alive i (flashAliveGet id env).toUInt32
      slaveAlarm := Function.update d.slaveAlarm i (flashGetSlaveAlarm id env) }
  else { d with id := Function.update d.id i id }

/-- `LoadDevice2Memory`; `none` when the loading loop never ends. -/
def loadDevice2Memory (st : Storage) : Option Storage :=
  let num := (flashGetLearnNums st.env).toNat
  (Loop.forUpTo num (loadSlot st.env) { DeviceInfo.zero with num := num }).map fun d =>
    { st with globalDevice := { d with
        doorNum := (flashGetKeyValue 88888888 st.env).toNat
        gatewayNum := (flashGetKeyValue 88887777 st.env).toNat
        lastFlag := (flashGetMotoFlag st.env).toUInt8 } }

/-- What `DeleteAllDevice` leaves: a zeroed registry and the default
environment. -/
def eraseAll (_st : Storage) : Storage where
  globalDevice := .zero
  env := .default

end Storage

end WaterValve
