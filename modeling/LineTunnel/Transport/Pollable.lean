import LineTunnel.Readiness
import LineTunnel.Transport

/-! Streams that can be polled: asked, without touching them, which events they would report. -/

namespace LineTunnel

class Pollable (σ : Type) extends Transport σ where
  poll : σ → PollEvents → PollEvents

end LineTunnel
