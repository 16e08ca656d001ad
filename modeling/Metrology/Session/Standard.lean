import Metrology.Locale.Numerals
import Metrology.Session.Registration

/-!
# Sessions of the program

The facilities that the program gives its sessions.
-/

namespace Metrology

/-- The facilities of the program. -/
def Facilities.standard : Facilities where
  numerals := .standard
  deepest := 300
  room := by decide

/-- A session of the program at its beginning. -/
def Session.start (meters : Bool) (environment : Environment) : Session :=
  .initial .standard meters environment

end Metrology
