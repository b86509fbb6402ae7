import Mathlib.Data.UInt

/-!
# Hosts of a device

Rendering of `hidpp20::ChangeHost` (`features/ChangeHost.cpp:24-57`). What the device answers to
`GetHostInfo` is a parameter.
-/

namespace Logid.Backend.Hidpp20

/-- `Error::InvalidArgument`. -/
def errorInvalidArgument : UInt8 := 2

structure HostInfo where
  hostCount : UInt8
  currentHost : UInt8
  enhancedHostSwitch : Bool
  deriving DecidableEq, Repr

structure ChangeHost where
  /-- `_host_count`, 0 as long as no count has been read. -/
  hostCount : UInt8 := 0
  deriving DecidableEq, Repr

namespace ChangeHost

/-- `none` where the response has no three bytes. -/
def getHostInfo (feature : ChangeHost) (response : List UInt8) : Option (HostInfo × ChangeHost) :=
  match response with
  | hostCount :: currentHost :: flags :: _ =>
    some (⟨hostCount, currentHost, flags &&& 1 ≠ 0⟩,
      if feature.hostCount = 0 then ⟨hostCount⟩ else feature)
  | _ => none

/-- The parameters of `SetCurrentHost`, which is not answered, or the code of the error that is thrown.
`reread` is the response where the count has not been read. -/
def setHost (feature : ChangeHost) (reread : List UInt8) (host : UInt8) :
    Option (Except UInt8 (List UInt8) × ChangeHost) := do
  let feature ←
    if feature.hostCount = 0 then (feature.getHostInfo reread).map Prod.snd else some feature
  if host ≥ feature.hostCount then return (.error errorInvalidArgument, feature)
  else return (.ok [host], feature)

end ChangeHost

end Logid.Backend.Hidpp20
