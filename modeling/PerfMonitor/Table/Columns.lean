import Mathlib.Data.Rat.Defs
import Mathlib.Tactic.TypeStar

set_option relaxedAutoImplicit false
set_option autoImplicit false

/-!
# Rows by column name and by position

A table knows the cells of a row by the names of their columns. A statement that inserts a row and
a query that returns one go by position: the first binds a list of values to the list of columns
it names, the second lists the cells of the columns it names.

## Main definitions

* `Cell` — what a column holds.
* `NamedCells.bind`, `NamedCells.select` — from positions to names, and back.
* `ResultRow.text`, `ResultRow.real`, `ResultRow.nat`, `ResultRow.time` — reading a returned row.
-/

/-- What a column holds. -/
inductive Cell where
  | bytes (b : List UInt8)
  | real (q : ℚ)
  | nat (n : ℕ)
  | time (s : String)
  deriving DecidableEq, Repr

/-- The cells of a row by column name. -/
abbrev NamedCells := List (String × Cell)

/-- A returned row; `none` is `NULL`. -/
abbrev ResultRow := List (Option Cell)

namespace NamedCells

/-- `INSERT … (columns) VALUES (values)`. -/
def bind (columns : List String) (values : List Cell) : NamedCells := columns.zip values

/-- `SELECT columns`. -/
def select (columns : List String) (r : NamedCells) : ResultRow :=
  columns.map fun c => r.lookup c

/-- The bytes inserted into a column. -/
def bytes (r : NamedCells) (column : String) : List UInt8 :=
  match r.lookup column with
  | some (.bytes b) => b
  | _ => []

/-- The number inserted into a column with `DEFAULT 0`. -/
def real (r : NamedCells) (column : String) : ℚ :=
  match r.lookup column with
  | some (.real q) => q
  | _ => 0

/-- The natural number inserted into a column with `DEFAULT 0`. -/
def nat (r : NamedCells) (column : String) : ℕ :=
  match r.lookup column with
  | some (.nat n) => n
  | _ => 0

/-- The time inserted into a column. -/
def time (r : NamedCells) (column : String) : String :=
  match r.lookup column with
  | some (.time s) => s
  | _ => ""

end NamedCells

/-- A string of bytes, up to the first zero. -/
def cString (b : List UInt8) : List UInt8 := b.takeWhile (· ≠ 0)

namespace ResultRow

/-- The cell at a position as a string, empty if `NULL`. -/
def text (row : ResultRow) (i : ℕ) : List UInt8 :=
  match row[i]? with
  | some (some (.bytes b)) => cString b
  | _ => []

/-- The cell at a position as a number, `0` if `NULL`. -/
def real (row : ResultRow) (i : ℕ) : ℚ :=
  match row[i]? with
  | some (some (.real q)) => q
  | _ => 0

/-- The cell at a position as a natural number, `0` if `NULL`. -/
def nat (row : ResultRow) (i : ℕ) : ℕ :=
  match row[i]? with
  | some (some (.nat n)) => n
  | _ => 0

/-- The cell at a position as a time, unless `NULL`. -/
def time (row : ResultRow) (i : ℕ) : Option String :=
  match row[i]? with
  | some (some (.time s)) => some s
  | _ => none

end ResultRow
