import TradeX.V1.PositionHealing

/-! The drift between the local books and a broker's snapshot behind `apply_mass_status`. -/

namespace TradeX.V1

open Lib

namespace MassStatus

open ReconciliationEngine

variable {cache : TTLCache.{0, v} Nat}

def shares (quantity : ℤ) (avgPrice : String) : ReportedPosition where
  symbol := "RELIANCE"
  exchange := "NSE"
  quantity := quantity
  avgPrice := .plain avgPrice
  ltp := .plain "2510"

end MassStatus

end TradeX.V1
