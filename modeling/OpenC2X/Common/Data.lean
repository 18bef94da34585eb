import Mathlib.Data.Int.Notation

/-!
# The DATA package

CaService and DenService hand every message to DCC as one `DATA` package
(`data.proto`), and DCC keeps it until it is sent or expires.  The fields
`createTime`, `txPower` and `bitRate` are left out: DCC only prints the first and
only writes the other two.
-/

namespace OpenC2X

/-- The access categories, in the order of `mAccessCategories`. -/
inductive AccessCategory where
  | AC_VI
  | AC_VO
  | AC_BE
  | AC_BK
  deriving DecidableEq, Repr

/-- `DATA.Type`. -/
inductive DATA.Kind where
  | CAM
  | DENM
  deriving DecidableEq, Repr

/-- A `DATA` package.  `priority` names the access category whose bucket it goes to. -/
structure DATA where
  id : ℤ
  type : DATA.Kind
  priority : AccessCategory
  validUntil : Option ℤ
  content : List UInt8
  deriving DecidableEq, Repr

/-- The accessor of the optional field `validUntil`, in nanoseconds since the epoch;
an absent field reads as 0. -/
def DATA.validuntil (data : DATA) : ℤ := data.validUntil.getD 0

end OpenC2X
