/-! # Names that are not known -/

namespace ProgramRom

/-- A name that none of the known ones matches. -/
structure UnknownName where
deriving DecidableEq, Repr

def UnknownName.message (_ : UnknownName) : String := "Matching variant not found"

end ProgramRom
