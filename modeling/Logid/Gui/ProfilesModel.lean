import Logid.Profiles

/-!
# The profiles model of the user interface

Rendering of `ProfilesModel.cpp`: the rows of the model, `removeProfile` with the calls that it makes,
and `renameProfile` with the chain of calls of `performRenameProfile`. The calls of one client are
carried out in the order in which they are made.
-/

namespace Logid.Gui

open Profiles (State Outcome Reply)

structure ProfilesModel where
  names : List String
  active : String
  default : String
  deriving DecidableEq, Repr

namespace ProfilesModel

/-- What `refresh` reads of the daemon and hands to `seedProfiles`. -/
def read (s : State) (id : Nat) : Option ProfilesModel := do
  let device ← s.live.find? id
  let conf ← s.config device
  return { names := conf.profiles.keys, active := device.profileName, default := conf.defaultProfile }

/-- The model shows the profiles of the daemon, in any order, and its two names. -/
def InSync (m : ProfilesModel) (s : State) (id : Nat) : Prop :=
  ∃ view, read s id = some view ∧ (∀ name, name ∈ m.names ↔ name ∈ view.names) ∧
    m.active = view.active ∧ m.default = view.default

/-- `renameProfile` up to its calls; `none` where it returns at once. -/
def renameProfile (m : ProfilesModel) (oldName newName : String) : Option ProfilesModel :=
  if oldName = "" ∨ newName = "" ∨ oldName = newName then none
  else if oldName ∉ m.names ∨ newName ∈ m.names then none
  else some { m with
    names := m.names.set (m.names.idxOf oldName) newName
    active := if m.active = oldName then newName else m.active }

/-- `performRenameProfile`: the state of the daemon and of the model after the last reply, and the
replies of the two calls that change the daemon. -/
def performRenameProfile (s : State) (id : Nat) (oldName newName : String) (outcome : Outcome) :
    Option (State × ProfilesModel × List Reply) := do
  let (s₁, created) ← Profiles.setProfile s id newName outcome
  let view ← read s₁ id
  if created = .ok ∧ newName ∈ view.names then
    let (s₂, removed) ← Profiles.removeProfile s₁ id oldName
    let refreshed ← read s₂ id
    return (s₂, refreshed, [created, removed])
  else
    return (s₁, view, [created])

/-- `removeProfile` up to its calls: the model, and the profile to switch to when the removed one was
active; `none` where it returns at once. -/
def removeProfile (m : ProfilesModel) (name : String) : Option (ProfilesModel × Option String) :=
  if name ∉ m.names ∨ m.names.length ≤ 1 then none
  else
    let m' := { m with names := m.names.erase name }
    match m'.names with
    | next :: _ =>
      if m.active = name then some ({ m' with active := next }, some next) else some (m', none)
    | [] => some (m', none)

/-- `performRemoveProfile`, and after it `performSetProfile` when there is a profile to switch to: the
state of the daemon and what the last `refresh` shows, with the replies. Both calls are on their way
before the first reply, so every refresh reads the last state. -/
def performRemoveProfile (s : State) (id : Nat) (name : String) (next : Option String)
    (outcome : Outcome) : Option (State × ProfilesModel × List Reply) := do
  let (s₁, removed) ← Profiles.removeProfile s id name
  match next with
  | none =>
    let refreshed ← read s₁ id
    return (s₁, refreshed, [removed])
  | some next =>
    let (s₂, switched) ← Profiles.setProfile s₁ id next outcome
    let refreshed ← read s₂ id
    return (s₂, refreshed, [removed, switched])

/-- What a removal promises: the profile is gone, the active one is what the model has shown since the
edit and shows after the refresh, and the other profiles are as they were. -/
def RemovalTakesEffect (s t : State) (id : Nat) (name : String) (edited refreshed : ProfilesModel) :
    Prop :=
  ∃ device conf device' conf',
    s.live.find? id = some device ∧ s.config device = some conf ∧
    t.live.find? id = some device' ∧ t.config device' = some conf' ∧
    conf'.profiles.find? name = none ∧
    device'.profileName = edited.active ∧ refreshed.active = edited.active ∧
    ∀ other, other ≠ name → conf'.profiles.find? other = conf.profiles.find? other

/-- What a rename promises: the new name has what the old one had, the old name is gone, and the
active profile changes only when it was the old one. -/
def RenamePreserves (s t : State) (id : Nat) (oldName newName : String) : Prop :=
  ∃ device conf device' conf',
    s.live.find? id = some device ∧ s.config device = some conf ∧
    t.live.find? id = some device' ∧ t.config device' = some conf' ∧
    (∃ node node', conf.profiles.find? oldName = some node ∧
      conf'.profiles.find? newName = some node' ∧ node'.profile = node.profile) ∧
    conf'.profiles.find? oldName = none ∧
    device'.profileName = if device.profileName = oldName then newName else device.profileName

end ProfilesModel

end Logid.Gui
