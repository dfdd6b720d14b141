import Ibctl.StateMachine.Types

/-! The debounce of everything that speaks against an established session. A source fires
once it has been observed for long enough without its tag being cleared. -/
namespace Ibctl.Machine

inductive RevocationTag where
  | jvmDied
  | errorDialog
  | reloginDialog
  | sessionConflict
  | loginFormVisible
  | disconnectedLabelStable
  | connectionStatusEvent
  | windowClassMorphed
  | apiPortListenerLost
deriving DecidableEq, Repr

inductive RevocationSource where
  | jvmDied
  | errorDialog (title : String)
  | reloginDialog
  | sessionConflict
  | loginFormVisible
  | disconnectedLabelStable
  | connectionStatusEvent
  | windowClassMorphed (fromClass toClass : String)
  | apiPortListenerLost
deriving DecidableEq, Repr

namespace RevocationSource

def debounce : RevocationSource → Duration
  | jvmDied => .fromMillis 0
  | errorDialog _ => .fromMillis 500
  | reloginDialog => .fromMillis 0
  | sessionConflict => .fromMillis 0
  | loginFormVisible => .fromMillis 1000
  | disconnectedLabelStable => .fromMillis 2000
  | connectionStatusEvent => .fromMillis 2000
  | windowClassMorphed .. => .fromMillis 500
  | apiPortListenerLost => 0

def nextState : RevocationSource → State
  | jvmDied => .restarting
  | errorDialog _ => .restarting
  | reloginDialog => .reconnectingSession
  | sessionConflict => .handlingSessionConflict
  | loginFormVisible => .waitingForLogin
  | disconnectedLabelStable => .reconnectingSession
  | connectionStatusEvent => .reconnectingSession
  | windowClassMorphed .. => .waitingForLogin
  | apiPortListenerLost => .restarting

def tag : RevocationSource → RevocationTag
  | jvmDied => .jvmDied
  | errorDialog _ => .errorDialog
  | reloginDialog => .reloginDialog
  | sessionConflict => .sessionConflict
  | loginFormVisible => .loginFormVisible
  | disconnectedLabelStable => .disconnectedLabelStable
  | connectionStatusEvent => .connectionStatusEvent
  | windowClassMorphed .. => .windowClassMorphed
  | apiPortListenerLost => .apiPortListenerLost

end RevocationSource

/-- The pending observations; a map keeps one for each tag. -/
structure RevocationTracker where
  firstSeen : List (RevocationTag × Instant × RevocationSource)
deriving DecidableEq, Repr

namespace RevocationTracker

def new : RevocationTracker := ⟨[]⟩

variable (self : RevocationTracker)

def firstSeenAt (tag : RevocationTag) : Option Instant :=
  (self.firstSeen.find? (fun entry => entry.1 = tag)).map (fun entry => entry.2.1)

def observe (source : RevocationSource) (now : Instant) :
    Option RevocationSource × RevocationTracker :=
  match self.firstSeenAt source.tag with
  | some first => (if now.durationSince first ≥ source.debounce then some source else none,self)
  | none =>
    (if source.debounce = 0 then some source else none,
      ⟨(source.tag,now,source) :: self.firstSeen⟩)

def clear (tag : RevocationTag) : RevocationTracker :=
  ⟨self.firstSeen.filter (fun entry => entry.1 ≠ tag)⟩

def clearAll (_ : RevocationTracker) : RevocationTracker := ⟨[]⟩

def anyPending : Bool := !self.firstSeen.isEmpty

end RevocationTracker

end Ibctl.Machine
