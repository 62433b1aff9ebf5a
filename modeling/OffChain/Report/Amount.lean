import OffChain.UInt256

/-!
# Amounts

An amount is kept in Wei and shown in the currency, a unit of which is 10¹⁸ Wei, with six decimals.
The rest is cut off and not rounded.
-/

namespace OffChain.Report

/-- The number of Wei in a unit of the currency. -/
def unit : UInt256 :=
  1000000000000000000

/-- The number of parts of a unit that are shown. -/
def scale : UInt256 :=
  1000000

/-- The whole units of an amount. -/
def wholeUnits (wei : UInt256) : UInt256 :=
  wei / unit

/-- The millionth parts of a unit in what remains of an amount. -/
def millionths (wei : UInt256) : UInt256 :=
  wei % unit * scale / unit

/-- The text of an amount. -/
def amount (wei : UInt256) : String :=
  Decimal.text (wholeUnits wei).toNat ++ "." ++ Decimal.padded 6 (millionths wei).toNat ++ " FTM"

end OffChain.Report
