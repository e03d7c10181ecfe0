import ClockStretch.BaseAddress
import ClockStretch.Register
import ClockStretch.Json.Value

/-!
# Outcomes

What a controller was found to hold after its timeout was set, and the one line that reports it.
-/

namespace ClockStretch

/-- The register that was written, where its controller is, and the timeout read back from it. -/
structure Outcome where
  base : BaseAddress
  register : Register
  tout : UInt16
deriving DecidableEq, Repr

namespace Outcome

/-- The report of an outcome as a JSON object. -/
def toJson (o : Outcome) : Json.Value :=
  .object [("status", .string "ok"), ("base_address", .string o.base.display),
    ("register", .string o.register.tag), ("tout", .number (.unsigned o.tout.toNat))]

/-- The report of an outcome in words. -/
def toPlain (o : Outcome) : String := s!"OK {o.register.name}.TOUT = {o.tout.toNat}"

/-- The line that reports an outcome, as JSON where that is wanted. -/
def render (o : Outcome) (json : Bool) : String := if json then o.toJson.render else o.toPlain

end Outcome

end ClockStretch
