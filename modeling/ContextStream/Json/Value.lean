import ContextStream.Json.Number

/-!
# JSON values

A value is null, a truth value, a number, a string, a list, or an object. The
members of an object are in the order of their keys, each key once.
-/

namespace ContextStream.Json

/-- A value. -/
inductive Value where
  | null
  | bool (b : Bool)
  | number (n : Number)
  | string (s : String)
  | list (items : List Value)
  | object (members : List (String × Value))

/-- The members of an object with one more, which replaces one of the same key. -/
def insertMember (key : String) (value : Value) :
    List (String × Value) → List (String × Value)
  | [] => [(key, value)]
  | (key', value') :: rest =>
      if key < key' then (key, value) :: (key', value') :: rest
      else if key = key' then (key, value) :: rest
      else (key', value') :: insertMember key value rest

/-- The value under a key. -/
def member? (key : String) (members : List (String × Value)) : Option Value :=
  (members.find? (·.1 = key)).map (·.2)

/-- The fields of a record in a value: members of an object under their keys, in any order, or
the items of a list, in the order of the keys. -/
def Value.fields? (keys : List String) : Value → Option (List Value)
  | .object members => keys.mapM (member? · members)
  | .list items => if items.length = keys.length then some items else none
  | _ => none

end ContextStream.Json
