import Logid.Actions.Direction
import Logid.Actions.Moves
import Logid.Backend.Hidpp20.ChangeHost

/-!
# Changing the host

Rendering of `ChangeHostAction::setHost` and `release` (`actions/ChangeHostAction.cpp:77-140`), with
`std::stoi` in the "C" locale. An `int` is computed exactly or not at all.
-/

namespace Logid.Actions.ChangeHostAction

open Backend.Hidpp20 (ChangeHost HostInfo)

/-! ## SetHost -/

/-- `std::isspace` -/
def isSpace (c : Char) : Bool := c = ' ' ∨ '\t' ≤ c ∧ c ≤ '\r'

def digitsValue (digits : List Char) : Nat :=
  digits.foldl (fun n c => 10 * n + (c.toNat - '0'.toNat)) 0

/-- A sign that may stand before the digits, and what follows it. -/
def splitSign : List Char → Bool × List Char
  | '-' :: s => (true, s)
  | '+' :: s => (false, s)
  | s => (false, s)

/-- `std::stoi`, with the number of characters that it has read; `none` where it throws. -/
def stoi (s : List Char) : Option (Int32 × Nat) :=
  let (negative, unsigned) := splitSign (s.dropWhile isSpace)
  let digits := unsigned.takeWhile Char.isDigit
  let value : Int := if negative then -digitsValue digits else digitsValue digits
  if digits ≠ [] ∧ FitsInt32 value then
    some (Int32.ofInt value, s.length - (unsigned.dropWhile Char.isDigit).length)
  else none

/-- The number that `setHost` reads, `none` where it throws. -/
def parseHost (host : String) : Option Int32 :=
  match stoi host.toList with
  | some (parsed, consumed) => if consumed ≠ host.toList.length then none else some parsed
  | none => none

/-- The setting after `setHost`, and the exception of a host that is not accepted. -/
def setHost (config : Config.ChangeHost) (host : String) :
    Config.ChangeHost × Except String Unit :=
  let host := toLower host
  if host = "next" ∨ host = "prev" ∨ host = "previous" then
    ({ host := some (.inr host) }, .ok ())
  else
    match parseHost host with
    | some parsed => ({ host := some (.inl parsed) }, .ok ())
    | none => (config, .error "ChangeHost: host must be a number or next/prev/previous")

/-! ## Releases -/

/-- What an operation on `int`s computes; `none` where it overflows. -/
def int (n : Int) : Option Int := if FitsInt32 n then some n else none

/-- `next_host` as the setting says. -/
def nextHost (host : Int32 ⊕ String) (info : HostInfo) : Option Int :=
  match host with
  | .inr host =>
    if host = "next" then int (info.currentHost.toNat + 1)
    else if host = "prev" ∨ host = "previous" then int (info.currentHost.toNat - 1)
    else some info.currentHost.toNat
  | .inl host => int (host.toInt - 1)

/-- `((next_host % count) + count) % count` -/
def wrapHost (next count : Int) : Option Int :=
  (int (next.tmod count + count)).map fun sum => sum.tmod count

/-- What the task of a release has done. -/
structure Released where
  feature : ChangeHost
  /-- The host that `setHost` of the feature has been called with. -/
  asked : Option UInt8 := none
  /-- The parameters of the report that has been sent. -/
  sent : Option (List UInt8) := none
  deriving DecidableEq

/-- The task that `release` queues. -/
def releaseTask (feature : ChangeHost) (host : Int32 ⊕ String) (response reread : List UInt8) :
    Option Released := do
  let (info, feature) ← feature.getHostInfo response
  if info.hostCount = 0 then return { feature }
  else
    let next ← wrapHost (← nextHost host info) info.hostCount.toNat
    if next ≠ info.currentHost.toNat then
      let asked := UInt8.ofInt next
      let (result, feature) ← feature.setHost reread asked
      return { feature, asked, sent := result.toOption }
    else return { feature }

/-- `release`; there is nothing to do without the feature or a setting. -/
def release (feature : Option ChangeHost) (config : Config.ChangeHost)
    (response reread : List UInt8) : Option (Option Released) :=
  match feature, config.host with
  | some feature, some host => (releaseTask feature host response reread).map some
  | _, _ => some none

/-- A response to `GetHostInfo` that reports hosts, the current one among them. -/
structure HostReply where
  count : UInt8
  current : UInt8
  /-- The flags, and what is left of the report. -/
  tail : List UInt8
  counted : 1 ≤ count
  current_lt : current < count
  flagged : tail ≠ []

namespace HostReply

def bytes (reply : HostReply) : List UInt8 := reply.count :: reply.current :: reply.tail

/-- The host to ask for to be on the host `n`: none where the device is on it. -/
def askFor (reply : HostReply) (n : Int) : Option UInt8 :=
  if n = reply.current.toNat then none else some (UInt8.ofInt n)

end HostReply

/-- The host that a release has asked for. -/
def askedBy (released : Option Released) : Option UInt8 := released.bind Released.asked

/-- A release is defined, asks for a host that there is or for none, and a number `k` for the host
`k - 1`, counted round and round. -/
def AsksForHost (feature : ChangeHost) (config : Config.ChangeHost) (reply : HostReply)
    (reread : List UInt8) : Prop :=
  ∃ released, release (some feature) config reply.bytes reread = some released ∧
    (∀ host, askedBy released = some host → host < reply.count) ∧
    ∀ k, config.host = some (.inl k) →
      askedBy released = reply.askFor ((k.toInt - 1) % reply.count.toNat)

/-- A release of `next`, and one of `prev` on the host that the first one has led to, lead back. -/
def GoesBack (feature : ChangeHost) (reply : HostReply) (reread : List UInt8) : Prop :=
  ∃ there, releaseTask feature (.inr "next") reply.bytes reread = some there ∧
    ∀ reply' : HostReply, reply'.count = reply.count →
      reply'.current = there.asked.getD reply.current →
      ∀ prev, prev = "prev" ∨ prev = "previous" →
        ∃ back, releaseTask there.feature (.inr prev) reply'.bytes reread = some back ∧
          back.asked.getD reply'.current = reply.current

/-- What `setHost` does not accept leaves the setting. -/
def KeepsRejected (config : Config.ChangeHost) (text : String) : Prop :=
  (setHost config text).2 ≠ .ok () → (setHost config text).1 = config

end Logid.Actions.ChangeHostAction
