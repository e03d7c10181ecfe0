import ClockStretch.Controller
import ClockStretch.Outcome
import ClockStretch.Window

/-!
# Requests

What is to be set, and where. A request is read from two texts, and carried out on a device: the
registers are mapped, the timeout is set, and the registers are unmapped.
-/

namespace ClockStretch

/-- The timeout to set and the base address of the controller. -/
structure Request where
  base : BaseAddress
  timeout : Timeout
deriving DecidableEq, Repr

namespace Request

/-- The request of two texts. Where both are wrong, the address is the one that is reported. -/
def parse (base timeout : String) : Except Error Request := do
  let base ← BaseAddress.parse base
  let timeout ← Timeout.parse timeout
  return ⟨base, timeout⟩

/-- The request carried out on a device. -/
def run (r : Request) (device : Path) : Action FileSystem Outcome := do
  if device.isEmpty then Action.fail (.device device "path is empty")
  Action.tell (.setting device r.base r.timeout)
  let window ← Window.openBlock device r.base
  let tout ← Controller.apply window.block r.timeout
  window.unmap
  pure ⟨r.base, .clockStretch, tout⟩

end Request

end ClockStretch
