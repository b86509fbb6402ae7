import Logid.Config.Schema

/-!
# Saving the configuration

Rendering of `Configuration::save` (`Configuration.cpp:118-137`). Whether the caller is authorised
and whether the file can be written are results of the environment.
-/

namespace Logid

open Config (Setting SettingException)

/-- What `save` throws. -/
inductive SaveException where
  | runtimeError (what : String)
  | setting (e : SettingException)
  | fileIoException
  deriving DecidableEq, Repr

/-- `config::set(_config.getRoot(), *this)` -/
def setConfig (root : Setting) (config : Config.Config) : Except SettingException Setting :=
  Config.Config.group.io.set root config

/-- The tree that is written, and kept as the new root. -/
def save (caller : String) (authorized : Bool) (written : Bool) (root : Setting)
    (config : Config.Config) : Except SaveException Setting :=
  if caller.isEmpty || !authorized then
    .error (.runtimeError "Not authorized to save configuration")
  else
    match setConfig root config with
    | .error e => .error (.setting e)
    | .ok root' => if written then .ok root' else .error .fileIoException

end Logid
