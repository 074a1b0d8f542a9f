import RoleAudit.Text.Quoted

/-!
# Faults of a YAML text

Most faults make the text no document at all. A few values pass for values of their kind by their
form, or are declared to be so, and then do not denote any; those faults are kept apart.
-/

namespace RoleAudit
namespace Yaml

/-- Why a text gives no value. -/
inductive Fault where
  /-- The text is no document, or one of its values is not of the kind that its tag says. -/
  | malformed
  /-- An escape names no character. -/
  | badCharacter (code : Nat)
  | emptyNumber
  | badWhole (base : Nat) (written : String)
  | longWhole (digits : Nat)
  | badReal (written : String)
  | longReal
  | badFlag (written : String)
  | badMoment
  /-- A part of a moment lies outside of its range. -/
  | outOfRange (message : String)
  deriving DecidableEq, Repr

def Fault.message : Fault → String
  | malformed => "invalid YAML"
  | badCharacter code =>
    if code < Nat.pow 2 31 then "chr() arg not in range(0x110000)"
    else "Python int too large to convert to C int"
  | emptyNumber => "string index out of range"
  | badWhole base written =>
    s!"invalid literal for int() with base {base}: {Text.quoted written}"
  | longWhole digits =>
    "Exceeds the limit (4300 digits) for integer string conversion: value has " ++
      s!"{digits} digits; use sys.set_int_max_str_digits() to increase the limit"
  | badReal written => s!"could not convert string to float: {Text.quoted written}"
  | longReal => "int too large to convert to float"
  | badFlag written => Text.quoted written
  | badMoment => "'NoneType' object has no attribute 'groupdict'"
  | outOfRange message => message

end Yaml
end RoleAudit
