import LineTunnel.Bytes

/-! How a byte stream is cut into messages: each message ends in a terminator, and one byte right
before the terminator can be dropped. -/

namespace LineTunnel

structure Framing where
  terminator : UInt8
  strip : Option UInt8
  deriving DecidableEq, Repr

namespace Framing

def encode (f : Framing) (message : Bytes) : Bytes := message ++ [f.terminator]

def trim (f : Framing) (message : Bytes) : Bytes :=
  if f.strip.isSome ∧ message.getLast? = f.strip then message.dropLast else message

def first? (f : Framing) (bs : Bytes) : Option (Bytes × Nat) :=
  (bs.findIdx? (· == f.terminator)).map fun i => (f.trim (bs.take i), i + 1)

end Framing

end LineTunnel
