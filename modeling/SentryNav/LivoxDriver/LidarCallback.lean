import SentryNav.LivoxDriver.CacheIndex
import SentryNav.LivoxDriver.PubHandler

/-!
# `LivoxLidarCallback`: how a lidar gets its settings

The configuration file lists lidars with their settings.  When a lidar is announced, the driver asks
it for each setting that is listed, and keeps a bit for each that the lidar has not confirmed.  The
lidar counts as sampling, so that what it sends is published, when a confirmation comes and no bit
is left.  A request that has timed out is sent again.

The SDK calls back once for each request, in any order and between any announcements.  The callbacks
change a device under `config_mutex_`, each at once.  `ret_code` and `error_key` of a response are
only printed.
-/

namespace SentryNav.LivoxDriver

/-! ## The configuration file -/

/-- `extrinsic_parameter` in the configuration file, with the members that it has. -/
structure ExtrinsicsEntry (K : Type*) where
  roll : Option K
  pitch : Option K
  yaw : Option K
  x : Option ℤ
  y : Option ℤ
  z : Option ℤ

/-- An entry of `lidar_configs` in the configuration file, with the members that it has; `ip` is the
number of the address. -/
structure LidarConfigEntry (K : Type*) where
  ip : Option ℕ
  pclDataType : Option ℤ
  patternMode : Option ℤ
  blindSpotSet : Option ℤ
  dualEmitEn : Option ℤ
  extrinsicParameter : Option (ExtrinsicsEntry K)

/-- `UserLivoxLidarConfig`; a setting is `-1` if there is none. -/
structure UserLivoxLidarConfig (K : Type*) where
  handle : ℕ
  pclDataType : ℤ
  patternMode : ℤ
  blindSpotSet : ℤ
  dualEmitEn : ℤ
  extrinsicParam : ExtParameter K
  setBits : BitVec 32

/-- `static_cast<int8_t>`. -/
def toInt8 (v : ℤ) : ℤ := v.bmod (2 ^ 8)

variable {K : Type*} [Field K]

/-- `ParseExtrinsics`. -/
def parseExtrinsics (entry : ExtrinsicsEntry K) : ExtParameter K where
  roll := entry.roll.getD 0
  pitch := entry.pitch.getD 0
  yaw := entry.yaw.getD 0
  x := entry.x.getD 0
  y := entry.y.getD 0
  z := entry.z.getD 0

/-- Memory that is all zeros. -/
def ExtParameter.zero : ExtParameter K := ⟨0, 0, 0, 0, 0, 0⟩

/-- What `ParseUserConfigs` makes of an entry; one without an address is skipped. -/
def LidarConfigEntry.parse (entry : LidarConfigEntry K) : Option (UserLivoxLidarConfig K) :=
  entry.ip.map fun handle =>
    { handle := handle
      pclDataType := (entry.pclDataType.map toInt8).getD (-1)
      patternMode := (entry.patternMode.map toInt8).getD (-1)
      blindSpotSet := (entry.blindSpotSet.map toInt8).getD (-1)
      -- Cast to `uint8_t`, and stored in an `int8_t`.
      dualEmitEn := (entry.dualEmitEn.map fun v => toInt8 (v % 2 ^ 8)).getD (-1)
      extrinsicParam := (entry.extrinsicParameter.map parseExtrinsics).getD .zero
      setBits := 0 }

/-- `ParseUserConfigs`. -/
def parseUserConfigs (entries : List (LidarConfigEntry K)) : List (UserLivoxLidarConfig K) :=
  entries.filterMap LidarConfigEntry.parse

/-! ## Requests -/

/-- `LivoxLidarConfigCodeBit`: the settings that a lidar has to confirm. -/
inductive ConfigCode
  | dataType
  | scanPattern
  | blindSpot
  | dualEmit
deriving DecidableEq

namespace ConfigCode

/-- The settings, in the order in which a lidar is asked for them. -/
def all : List ConfigCode := [dataType, scanPattern, blindSpot, dualEmit]

/-- Which bit belongs to a setting. -/
def bit : ConfigCode → ℕ
  | dataType => 0
  | scanPattern => 1
  | blindSpot => 2
  | dualEmit => 3

def mask (code : ConfigCode) : BitVec 32 := BitVec.twoPow 32 code.bit

end ConfigCode

/-- What a lidar is asked for, by the functions `SetLivoxLidar…` and `EnableLivoxLidarImuData`. -/
inductive Request (K : Type*)
  | pclDataType (handle : ℕ) (dataType : ℤ)
  | scanPattern (handle : ℕ) (pattern : ℤ)
  | blindSpot (handle : ℕ) (distance : BitVec 32)
  | dualEmit (handle : ℕ) (enable : Bool)
  | installAttitude (handle : ℕ) (attitude : ExtParameter K)
  | workModeNormal (handle : ℕ)
  | imuData (handle : ℕ)

/-- `livox_status`: all errors but the timeout are one. -/
inductive LivoxStatus
  | success
  | timeout
  | failure
deriving DecidableEq

namespace UserLivoxLidarConfig

/-- The value for a setting. -/
def value (config : UserLivoxLidarConfig K) : ConfigCode → ℤ
  | .dataType => config.pclDataType
  | .scanPattern => config.patternMode
  | .blindSpot => config.blindSpotSet
  | .dualEmit => config.dualEmitEn

/-- There is a value for the setting. -/
def has (config : UserLivoxLidarConfig K) (code : ConfigCode) : Bool := config.value code != -1

/-- The request for a setting. -/
def request (config : UserLivoxLidarConfig K) (handle : ℕ) : ConfigCode → Request K
  | .dataType => .pclDataType handle config.pclDataType
  | .scanPattern => .scanPattern handle config.patternMode
  | .blindSpot => .blindSpot handle (BitVec.ofInt 32 config.blindSpotSet)
  | .dualEmit => .dualEmit handle (config.dualEmitEn != 0)

end UserLivoxLidarConfig

/-! ## Devices -/

/-- `LidarDevice`, as the callbacks need it. -/
structure ConfiguredDevice (K : Type*) where
  handle : ℕ
  connectState : LidarConnectState
  livoxConfig : UserLivoxLidarConfig K

namespace ConfiguredDevice

/-- A device that nothing has been written to: it is in static memory, and `ResetLidar` has been
called. -/
def reset : ConfiguredDevice K where
  handle := 0
  connectState := .off
  livoxConfig := ⟨0, 0, 0, 0, 0, .zero, 0⟩

/-- A confirmation is awaited from now on. -/
def await (d : ConfiguredDevice K) (code : ConfigCode) : ConfiguredDevice K :=
  { d with livoxConfig :=
      { d.livoxConfig with setBits := d.livoxConfig.setBits ||| code.mask } }

/-- A confirmation has come. -/
def confirm (d : ConfiguredDevice K) (code : ConfigCode) : ConfiguredDevice K :=
  let setBits := d.livoxConfig.setBits &&& ~~~code.mask
  { d with
    connectState := if setBits = 0 then .sampling else d.connectState
    livoxConfig := { d.livoxConfig with setBits := setBits } }

end ConfiguredDevice

/-- `LdsLidar`, with the extrinsics that it gives to the `PubHandler`. -/
structure LdsLidar (K : Type*) where
  cacheIndex : CacheIndex
  lidars : Fin kMaxSourceLidar → ConfiguredDevice K
  lidarExtrinsics : ℕ → Option (ExtParameter K)

namespace LdsLidar

def make : LdsLidar K where
  cacheIndex := .make
  lidars _ := .reset
  lidarExtrinsics _ := none

/-- `GetLidarDevice`. -/
def getLidarDevice (l : LdsLidar K) (handle : ℕ) : Option (Fin kMaxSourceLidar) :=
  l.cacheIndex.mapIndex handle

/-- `kLivoxLidarCartesianCoordinateLowData`. -/
def kLowData : ℤ := 2

/-- `InitLivoxLidar`, for one lidar of the configuration. -/
def fillIn (l : LdsLidar K) (config : UserLivoxLidarConfig K) : LdsLidar K :=
  match l.cacheIndex.getFreeIndex config.handle with
  | (c, none) => { l with cacheIndex := c }
  | (c, some i) =>
      let param := config.extrinsicParam
      { cacheIndex := c
        lidars := Function.update l.lidars i
          { l.lidars i with livoxConfig := config, handle := config.handle }
        lidarExtrinsics := Function.update l.lidarExtrinsics config.handle
          (some (if config.pclDataType = kLowData then
            { param with x := param.x.tdiv 10, y := param.y.tdiv 10, z := param.z.tdiv 10 }
          else param)) }

/-- `InitLivoxLidar`. -/
def initLivoxLidar (entries : List (LidarConfigEntry K)) : LdsLidar K :=
  (parseUserConfigs entries).foldl fillIn make

/-! ## Callbacks

Each gives the devices afterwards and the requests that it sends. -/

/-- `LidarInfoChangeCallback`. -/
def lidarInfoChangeCallback (l : LdsLidar K) (handle : ℕ) : LdsLidar K × List (Request K) :=
  match l.getLidarDevice handle with
  | none =>
      -- A lidar that is not listed gets a device, if there is one, but no configuration.
      match l.cacheIndex.getFreeIndex handle with
      | (c, none) => ({ l with cacheIndex := c }, [])
      | (c, some _) => ({ l with cacheIndex := c }, [.workModeNormal handle, .imuData handle])
  | some i =>
      let config := (l.lidars i).livoxConfig
      let asked := ConfigCode.all.filter config.has
      ({ l with lidars := Function.update l.lidars i (asked.foldl .await (l.lidars i)) },
        asked.map (config.request handle)
          ++ [.installAttitude config.handle config.extrinsicParam,
            .workModeNormal handle, .imuData handle])

/-- `WorkModeChangedCallback`. -/
def workModeChangedCallback (status : LivoxStatus) (handle : ℕ) : List (Request K) :=
  if status = .success then [] else [.workModeNormal handle]

/-- The callback for a setting. -/
def setCallback (code : ConfigCode) (l : LdsLidar K) (status : LivoxStatus) (handle : ℕ) :
    LdsLidar K × List (Request K) :=
  match l.getLidarDevice handle with
  | none => (l, [])
  | some i =>
      match status with
      | .success =>
          ({ l with lidars := Function.update l.lidars i ((l.lidars i).confirm code) }, [])
      | .timeout => (l, [(l.lidars i).livoxConfig.request handle code])
      | .failure => (l, [])

/-- `SetDataTypeCallback`. -/
def setDataTypeCallback : LdsLidar K → LivoxStatus → ℕ → LdsLidar K × List (Request K) :=
  setCallback .dataType

/-- `SetPatternModeCallback`. -/
def setPatternModeCallback : LdsLidar K → LivoxStatus → ℕ → LdsLidar K × List (Request K) :=
  setCallback .scanPattern

/-- `SetBlindSpotCallback`. -/
def setBlindSpotCallback : LdsLidar K → LivoxStatus → ℕ → LdsLidar K × List (Request K) :=
  setCallback .blindSpot

/-- `SetDualEmitCallback`. -/
def setDualEmitCallback : LdsLidar K → LivoxStatus → ℕ → LdsLidar K × List (Request K) :=
  setCallback .dualEmit

/-- `SetAttitudeCallback`. -/
def setAttitudeCallback (l : LdsLidar K) (status : LivoxStatus) (handle : ℕ) : List (Request K) :=
  match l.getLidarDevice handle with
  | none => []
  | some i =>
      let config := (l.lidars i).livoxConfig
      if status = .timeout then [.installAttitude config.handle config.extrinsicParam] else []

/-- `EnableLivoxLidarImuDataCallback`; `response` tells whether there is one. -/
def enableLivoxLidarImuDataCallback (l : LdsLidar K) (status : LivoxStatus) (response : Bool)
    (handle : ℕ) : List (Request K) :=
  match l.getLidarDevice handle with
  | none => []
  | some _ => if response && status = .timeout then [.imuData handle] else []

/-- The SDK calls back for a request. -/
def answered (l : LdsLidar K) (r : Request K) (status : LivoxStatus) (response : Bool) :
    LdsLidar K × List (Request K) :=
  match r with
  | .pclDataType handle _ => l.setDataTypeCallback status handle
  | .scanPattern handle _ => l.setPatternModeCallback status handle
  | .blindSpot handle _ => l.setBlindSpotCallback status handle
  | .dualEmit handle _ => l.setDualEmitCallback status handle
  | .installAttitude handle _ => (l, l.setAttitudeCallback status handle)
  | .workModeNormal handle => (l, workModeChangedCallback status handle)
  | .imuData handle => (l, l.enableLivoxLidarImuDataCallback status response handle)

end LdsLidar

/-! ## Runs -/

/-- What has happened, as the driver prints it. -/
inductive Happening (K : Type*)
  | announced (handle : ℕ)
  | answered (r : Request K) (status : LivoxStatus)

/-- The driver, with the requests for which the SDK has not called back, and what has happened, the
latest first. -/
structure Driver (K : Type*) where
  lds : LdsLidar K
  inFlight : List (Request K)
  log : List (Happening K)

/-- What can happen: a lidar is announced, or a request that is in flight is answered. -/
inductive DriverEvent
  | announced (handle : ℕ)
  | answered (k : ℕ) (status : LivoxStatus) (response : Bool)

namespace Driver

/-- The driver, when it has read the configuration. -/
def init (entries : List (LidarConfigEntry K)) : Driver K where
  lds := .initLivoxLidar entries
  inFlight := []
  log := []

def step (s : Driver K) : DriverEvent → Driver K
  | .announced handle =>
      let (lds, sent) := s.lds.lidarInfoChangeCallback handle
      { lds, inFlight := s.inFlight ++ sent, log := .announced handle :: s.log }
  | .answered k status response =>
      match s.inFlight[k]? with
      | none => s
      | some r =>
          let (lds, sent) := s.lds.answered r status response
          { lds, inFlight := s.inFlight.eraseIdx k ++ sent, log := .answered r status :: s.log }

end Driver

end SentryNav.LivoxDriver
