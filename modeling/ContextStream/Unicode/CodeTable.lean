/-!
# Tables of code points

A property of characters is kept as lines of text: items separated by one blank,
each a code point or a closed range in hexadecimal, in increasing order, and after
an equals sign the numbers the property gives to that range, separated by dots.
This file reads such lines into rows and finds the row of a code point by
bisection.
-/

namespace ContextStream.Unicode

/-- A closed range of code points and the numbers a property gives to it. -/
structure Row where
  first : Nat
  last : Nat
  values : List Nat
  deriving Repr, Inhabited

/-- A table is a sequence of rows in increasing order. -/
structure CodeTable where
  rows : Array Row

/-- The value of a hexadecimal digit in lower case. -/
def hexDigit (c : Char) : Nat :=
  if c.isDigit then c.toNat - 48 else c.toNat - 87

/-- The value of a text of hexadecimal digits in lower case. -/
def hexNumber (text : String) : Nat :=
  text.toList.foldl (fun n c => 16 * n + hexDigit c) 0

namespace Row

/-- Reads `first`, `first-last` or either of them followed by `=values`. -/
def ofText (item : String) : Row :=
  let halves := item.splitOn "="
  let range := (halves.headD "").splitOn "-"
  let first := hexNumber (range.headD "")
  { first
    last := (range.tail.head?.map hexNumber).getD first
    values := (halves.tail.head?.map fun text => (text.splitOn ".").map hexNumber).getD [] }

end Row

namespace CodeTable

/-- Reads the lines of a table. -/
def ofLines (lines : List String) : CodeTable :=
  ⟨(lines.flatMap fun line => (line.splitOn " ").map Row.ofText).toArray⟩

/-- Bisection between two positions: the row that holds `code`, if any. -/
def search (rows : Array Row) (code lower upper : Nat) : Option Row :=
  if lower < upper then
    let middle := (lower + upper) / 2
    match rows[middle]? with
    | none => none
    | some row =>
        if code < row.first then search rows code lower middle
        else if row.last < code then search rows code (middle + 1) upper
        else some row
  else none
termination_by upper - lower

/-- The row that holds a code point. -/
def find? (table : CodeTable) (code : Nat) : Option Row :=
  search table.rows code 0 table.rows.size

/-- Whether some row holds the character. -/
def contains (table : CodeTable) (c : Char) : Bool :=
  (table.find? c.toNat).isSome

end CodeTable

end ContextStream.Unicode
