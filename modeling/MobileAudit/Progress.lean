import MobileAudit.Number.Decimal

namespace MobileAudit

/-! How far a scan has come. -/

structure Progress where
  current : Int
  total : Int
deriving DecidableEq

namespace Progress

/-- The share of completed files in percent, zero when there is nothing to scan; nothing if the
quotient is too large to be represented. -/
def percent? (p : Progress) : Option Binary64 :=
  if p.total == 0 then some (.zero false)
  else
    let negative := (p.current < 0) != (p.total < 0)
    let share := Binary64.ofRatio negative p.current.natAbs p.total.natAbs
    if share.isInfinite then none
    else some ⟨(Float.ofBits share.bits * 100.0).toBits⟩

end Progress

end MobileAudit
