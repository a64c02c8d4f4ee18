/-! Powers and sums of integers are those of the core library, whatever else is imported. For this a
numeral that is an exponent has to be written with its type. -/

namespace Phrasebook

attribute [scoped instance (2000)] instPowNat instNatPowNat Int.instNatPow Zero.ofOfNat0

end Phrasebook
