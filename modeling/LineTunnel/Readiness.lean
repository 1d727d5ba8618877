/-! What a socket is ready for, and the same as the event bits of a poll call. -/

namespace LineTunnel

structure Readiness where
  readable : Bool := false
  writable : Bool := false
  exceptional : Bool := false
  deriving DecidableEq, Repr

namespace Readiness

def none : Readiness := {}

def reading : Readiness := { readable := true }

def writing : Readiness := { writable := true }

def isEmpty (r : Readiness) : Bool := !(r.readable || r.writable || r.exceptional)

end Readiness

abbrev PollEvents := UInt16

namespace PollEvents

def input : PollEvents := 1
def output : PollEvents := 4
def error : PollEvents := 8
def hangup : PollEvents := 16
def invalid : PollEvents := 32

def meets (events mask : PollEvents) : Bool := events &&& mask != 0

def ofReadiness (r : Readiness) : PollEvents :=
  (if r.readable then input else 0) ||| (if r.writable then output else 0)

/-- What the seen events say. A hang-up counts as readable, so that what was sent before the close
is read, and the close after it. -/
def readiness (seen : PollEvents) : Readiness where
  readable := seen.meets (input ||| hangup)
  writable := seen.meets output
  exceptional := seen.meets (error ||| invalid)

end PollEvents

end LineTunnel
