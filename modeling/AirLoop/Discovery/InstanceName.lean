/-!
# Instance names (`raop_sender_core::discovery::mdns`)

A receiver announces itself under a full name `<hardware id>@<name>.<service type>`, in which a
backslash stands before each blank and each point of the name.
-/

namespace AirLoop

/-- A text without the backslashes that stand before `c`. -/
def unescape (c : Char) : List Char → List Char
  | [] => []
  | [x] => [x]
  | x :: y :: rest =>
    if x = '\\' ∧ y = c then c :: unescape c rest else x :: unescape c (y :: rest)

/-- A full name without a point and the service type at its end. -/
def stripServiceType (serviceType fullname : List Char) : List Char :=
  let ending := '.' :: serviceType
  if ending.isSuffixOf fullname then fullname.take (fullname.length - ending.length) else fullname

/-- What follows the first `@`; the whole text if there is none or nothing follows it. -/
def stripHardwareId (label : List Char) : List Char :=
  match label.dropWhile (· ≠ '@') with
  | _ :: c :: rest => c :: rest
  | _ => label

/-- The name for people in the full name of an instance (`display_name`). -/
def displayName (fullname serviceType : String) : String :=
  let name := stripHardwareId (stripServiceType serviceType.toList fullname.toList)
  String.ofList (unescape '.' (unescape ' ' name))

end AirLoop
