/-!
# JSON texts as trees

A text is read into a tree that also records where it stops being JSON. So a reader of the tree that
goes from left to right meets a defect of the text and a value of the wrong kind in the order in which
they stand. A value that nobody asks for is only passed over, which is less strict than reading it.
-/

namespace ShaderComposition

/-- What keeps a text from being JSON: a wrong character, or its end. -/
inductive JsonFault
  | malformed | truncated
deriving DecidableEq

/-- A place where a text stops being JSON, as it shows when it is read and when it is passed over. -/
structure JsonDefect where
  whenRead : JsonFault
  whenSkipped : JsonFault
deriving DecidableEq

namespace JsonDefect

def malformed : JsonDefect := ⟨.malformed, .malformed⟩

def truncated : JsonDefect := ⟨.truncated, .truncated⟩

end JsonDefect

/-- A number is an integer of at most 64 bits where it is written as one, or else a double. -/
inductive JsonNumber
  | integer (value : Int)
  | double (value : Float)
deriving DecidableEq

/-- A JSON text. An array or an object with a defect goes up to the defect. -/
inductive Json
  | null
  | bool (value : Bool)
  | number (value : JsonNumber)
  | string (value : String)
  | array (items : List Json) (defect : Option JsonDefect)
  /-- A member without a key has one that can be passed over but not read. -/
  | object (members : List (Option String × Json)) (defect : Option JsonDefect)
  /-- A string or a number that can be passed over but not read. -/
  | unreadable
  /-- No value, because of a defect. -/
  | broken (defect : JsonDefect)
deriving Inhabited

namespace Json

/-- An array without defects. -/
def list (items : List Json) : Json :=
  .array items none

/-- An object without defects. -/
def record (members : List (String × Json)) : Json :=
  .object (members.map fun (key, value) => (some key, value)) none

def nat (n : Nat) : Json :=
  .number (.integer n)

mutual

/-- The fault that is met when a value is passed over. -/
def skip : Json → Option JsonFault
  | .array items defect => (skipItems items).or (defect.map (·.whenSkipped))
  | .object members defect => (skipMembers members).or (defect.map (·.whenSkipped))
  | .broken defect => some defect.whenSkipped
  | _ => none

def skipItems : List Json → Option JsonFault
  | [] => none
  | item :: rest => (skip item).or (skipItems rest)

def skipMembers : List (Option String × Json) → Option JsonFault
  | [] => none
  | (_, value) :: rest => (skip value).or (skipMembers rest)

end

mutual

/--
The fault that is met when a value is read as a whole. Arrays and objects may stand in each other up to
a depth below `room`.
-/
def scan (room : Nat) : Json → Option JsonFault
  | .array items defect =>
    if room ≤ 1 then some .malformed
    else (scanItems (room - 1) items).or (defect.map (·.whenRead))
  | .object members defect =>
    if room ≤ 1 then some .malformed
    else (scanMembers (room - 1) members).or (defect.map (·.whenRead))
  | .unreadable => some .malformed
  | .broken defect => some defect.whenRead
  | _ => none

def scanItems (room : Nat) : List Json → Option JsonFault
  | [] => none
  | item :: rest => (scan room item).or (scanItems room rest)

def scanMembers (room : Nat) : List (Option String × Json) → Option JsonFault
  | [] => none
  | (none, _) :: _ => some .malformed
  | (some _, value) :: rest => (scan room value).or (scanMembers room rest)

end

end Json

end ShaderComposition
