import Mathlib.Data.List.Infix
import Logid.Misc.Machine

/-!
# The unsaved changes of the user interface

Rendering of `ConfigState.cpp:35-132`. The replies to `Save` and `ClearProfile` are steps of their
own, so changes may be marked between a call and its reply.
-/

namespace Logid.Gui

structure ConfigState where
  dirty : Bool := false
  saving : Bool := false
  lastError : String := ""
  devicePath : String := ""
  deriving DecidableEq, Repr

namespace ConfigState

/-- `text.contains(needle, Qt::CaseInsensitive)`; the needles are letters of ASCII. -/
def containsCaseless (text needle : String) : Bool :=
  decide (needle.toList.map Char.toLower <:+: text.toList.map Char.toLower)

def isAuthDenied (name message : String) : Bool :=
  containsCaseless name "AccessDenied" || containsCaseless name "AuthFailed" ||
    containsCaseless message "not authorized" || containsCaseless message "authoriz"

def authDeclinedError : String :=
  "Couldn't save — authorization was declined. Your changes are still " ++
    "applied live; click Save to try again."

def daemonDownError : String :=
  "Couldn't save to disk. The daemon may be unavailable — check that " ++
    "logid is running, then try again."

def setDevicePath (s : ConfigState) (path : String) : ConfigState := { s with devicePath := path }

def markDirty (s : ConfigState) : ConfigState := { s with lastError := "", dirty := true }

/-- `save` with the call of `performSave`; `none` while one is pending. -/
def save (s : ConfigState) : Option ConfigState :=
  if s.saving then none else some { s with lastError := "", saving := true }

/-- The reply to a call, as `QDBusPendingReply` gives it. -/
inductive Reply where
  | success
  | error (name message : String)
  deriving DecidableEq, Repr

def onSaveReplied (s : ConfigState) : Reply → ConfigState
  | .success => { s with saving := false, lastError := "", dirty := false }
  -- `dirty` stays set
  | .error name message =>
    { s with
      saving := false
      lastError := if isAuthDenied name message then authDeclinedError else daemonDownError }

/-- The arguments of `ClearProfile` that `restoreDefaults` calls: the path and the profile. -/
def restoreDefaults (s : ConfigState) (profile : String) : Option (String × String) :=
  if s.devicePath = "" then none else some (s.devicePath, profile)

def onClearReplied (s : ConfigState) : Reply → ConfigState
  | .success => s.markDirty
  | .error _ _ => s

/-- The object and its calls. The numbers are not in the program: how many changes were marked so
far, how many before the call of `Save` that is pending, and how many before each one that was
answered with success. -/
structure Session where
  state : ConfigState := {}
  /-- The pending calls of `ClearProfile`. -/
  clears : List (String × String) := []
  marked : Nat := 0
  pendingSave : Option Nat := none
  saves : List Nat := []
  deriving DecidableEq, Repr

inductive Label where
  | setDevicePath (path : String)
  | markDirty
  | save
  | saveReplied (reply : Reply)
  | restoreDefaults (profile : String)
  /-- The reply to the `n`-th pending `ClearProfile`. -/
  | clearReplied (n : Nat) (reply : Reply)
  deriving DecidableEq, Repr

def step (s : Session) : Label → Option Session
  | .setDevicePath path => some { s with state := s.state.setDevicePath path }
  | .markDirty => some { s with state := s.state.markDirty, marked := s.marked + 1 }
  | .save =>
    match s.state.save with
    | none => some s
    | some state => some { s with state := state, pendingSave := some s.marked }
  | .saveReplied reply => do
    let covered ← s.pendingSave
    return { s with
      state := s.state.onSaveReplied reply
      pendingSave := none
      saves := if reply = .success then covered :: s.saves else s.saves }
  | .restoreDefaults profile =>
    match s.state.restoreDefaults profile with
    | none => some s
    | some call => some { s with clears := s.clears ++ [call] }
  | .clearReplied n reply => do
    let _ ← s.clears[n]?
    return { s with
      state := s.state.onClearReplied reply
      clears := s.clears.eraseIdx n
      marked := if reply = .success then s.marked + 1 else s.marked }

def machine : Machine Session Label where
  init := {}
  step := step

/-- Without the mark every change was made before a call of `Save` that has succeeded. -/
def Session.Saved (s : Session) : Prop :=
  s.state.dirty = false → ∀ change < s.marked, ∃ covered ∈ s.saves, change < covered

/-- A reply of success comes before any further change. -/
def NoChangeSince (s : Session) : Label → Prop
  | .saveReplied .success => s.pendingSave = some s.marked
  | _ => True

end ConfigState

end Logid.Gui
