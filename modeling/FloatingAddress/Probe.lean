import FloatingAddress.Address.Printer
import FloatingAddress.Failure
import FloatingAddress.Logging
import FloatingAddress.Number.Seconds

/-!
# Finding the own address

A datagram socket that is connected to a host outside gets, without anything being sent,
the local address that the routing table selects for that host. The socket is opened,
given a time limit, connected, asked for its local name and closed.

* `Probe.run`: what a probe finds, the steps of its socket and its log line, for each way
  in which the socket may behave.
-/

namespace FloatingAddress

/-- A host outside, towards which the own address is selected. -/
structure Probe where
  host : Text := "8.8.8.8"
  port : Int := 80
  timeout : Seconds := .real 2.0

/-- Why a step of a socket fails. -/
inductive SocketTrouble
  /-- An error of the operating system, in its words. -/
  | system (message : Text)
  | other (fault : Fault)
deriving DecidableEq

/-- How a socket behaves. -/
inductive SocketBehaviour
  | failsToOpen (trouble : SocketTrouble)
  /-- The time limit is refused, as one below zero is. -/
  | failsToLimit (trouble : SocketTrouble)
  | failsToConnect (trouble : SocketTrouble)
  | failsToName (trouble : SocketTrouble)
  /-- All steps succeed, and the local name is the text. -/
  | reports (name : Text)
deriving DecidableEq

/-- A step of a socket, whether it succeeds or not. -/
inductive SocketStep
  | opening
  | limiting (timeout : Seconds)
  | connecting (host : Text) (port : Int)
  | naming
  /-- Octets are sent to the host that the socket is connected to. -/
  | sending (octets : List UInt8)
  | closing

/-- A step in words. -/
def SocketStep.text : SocketStep → Text
  | opening => "open"
  | limiting timeout => "settimeout " ++ Numeral.ofInt timeout.milliseconds
  | connecting host port => "connect " ++ host ++ " " ++ Numeral.ofInt port
  | naming => "getsockname"
  | sending _ => "send"
  | closing => "close"

/-- What a probe does and finds. -/
structure ProbeRun where
  /-- The own address, or why it is not found. -/
  result : Except Fault V4
  steps : List SocketStep
  /-- The error line, if the operating system refused a step. -/
  logged : Option Text

namespace Probe

/-- The host and port of a probe. -/
def text (p : Probe) : Text :=
  p.host ++ ":" ++ Numeral.ofInt p.port

/-- There is no route towards the host of a probe. -/
def noRoute (p : Probe) (reason : Text) : Fault :=
  .failure (.noRoute p.text reason)

/-- The address that a local name is: an address of version 4 other than `0.0.0.0`. -/
def readName (p : Probe) (name : Text) : Except Fault V4 :=
  match V4.read? name with
  | none => .error (p.noRoute ("unexpected local address " ++ name.quoted))
  | some a =>
      if a.IsUnspecified then .error (p.noRoute "routing table selected no source address")
      else .ok a

/-- What comes of a step that fails. -/
def fail (p : Probe) (steps : List SocketStep) : SocketTrouble → ProbeRun
  | .system message =>
      { result := .error (p.noRoute message)
        steps := steps
        logged := some ("Error dialing " ++ p.text
          ++ " to retrieve preferred outbound IP: " ++ message) }
  | .other fault => { result := .error fault, steps := steps, logged := none }

/-- The steps from opening a socket to connecting it. -/
def dialing (p : Probe) : List SocketStep :=
  [.opening, .limiting p.timeout, .connecting p.host p.port]

/-- A probe with a socket. Once the socket is open it is closed at the end, whatever
happens in between. -/
def run (p : Probe) : SocketBehaviour → ProbeRun
  | .failsToOpen trouble => p.fail [.opening] trouble
  | .failsToLimit trouble => p.fail [.opening, .limiting p.timeout, .closing] trouble
  | .failsToConnect trouble => p.fail (p.dialing ++ [.closing]) trouble
  | .failsToName trouble => p.fail (p.dialing ++ [.naming, .closing]) trouble
  | .reports name =>
      { result := p.readName name
        steps := p.dialing ++ [.naming, .closing]
        logged := none }

end Probe
end FloatingAddress
