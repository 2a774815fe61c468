/-
# `Json.Value` — documents as values

Members of an object stay in the order in which they stand in the list.
A reader that collects members uses `insertMember`, which keeps them sorted
by key and lets the last of two equal keys win.
-/

namespace OciBlobs.Json

/-- A number: a whole number that fits 64 bits, of either sign, or a double. -/
inductive Number
  | natural (n : Nat)
  /-- Minus `n`, with `n` positive. -/
  | negative (n : Nat)
  | double (x : Float)

inductive Value
  | null
  | boolean (b : Bool)
  | number (n : Number)
  | text (s : String)
  | list (items : List Value)
  | object (members : List (String × Value))

/-- Puts a member into a list sorted by key, in place of one with its key. -/
def insertMember {α : Type} (key : String) (value : α) : List (String × α) → List (String × α)
  | [] => [(key, value)]
  | (k, v) :: rest =>
    if key < k then (key, value) :: (k, v) :: rest
    else if key = k then (key, value) :: rest
    else (k, v) :: insertMember key value rest

end OciBlobs.Json
