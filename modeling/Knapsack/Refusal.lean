/-!
Why a solve is refused, as causes with the numbers that belong to them, and the status code that
stands for each cause. A decision cell outside its matrix is no refusal but a defect of the program;
it has a type of its own.
-/

namespace Knapsack

/-- The buffers of a solve whose size is checked before they are made. -/
inductive Buffer where
  | valueRow
  | weightRow
  | decisionMatrix
  | selectedIndices
deriving DecidableEq, Repr

def Buffer.name : Buffer → String
  | .valueRow => "value row"
  | .weightRow => "weight row"
  | .decisionMatrix => "decision matrix"
  | .selectedIndices => "selected indices"

inductive Refusal where
  | missingOutput
  | missingItems
  | noItems
  | itemWeight (index : Nat) (weight : Int32)
  | tooManyItems (count max : Nat)
  | capacity (given max : Int32)
  | dimensions (count width : Nat)
  | valueOverflow (item cell : Nat)
  | bufferSize (buffer : Buffer) (length : Nat)
  | config (reason : String)
deriving DecidableEq, Repr

def Refusal.message : Refusal → String
  | .missingOutput => "No result destination was supplied"
  | .missingItems => "Invalid items: no item sequence was supplied"
  | .noItems => "Invalid items: item sequence is empty"
  | .itemWeight index weight => s!"Invalid items: item {index} has invalid weight '{weight.toInt}'"
  | .tooManyItems count max => s!"Too many items. Maximum: '{max}', Actual: '{count}'"
  | .capacity given max =>
    s!"Capacity '{given.toInt}' is outside the allowed range [0, {max.toInt}]"
  | .dimensions count width =>
    s!"Decision matrix of {count} x {width} cells overflows addressable size"
  | .valueOverflow item cell => s!"Value overflow while adding item {item} at capacity {cell}"
  | .bufferSize buffer length =>
    s!"Failed to allocate {buffer.name} buffer of {length} elements"
  | .config reason => s!"Invalid solver config: {reason}"

inductive Status where
  | ok
  | missingOutput
  | invalidItems
  | tooManyItems
  | invalidCapacity
  | dimensionOverflow
  | arithmeticOverflow
  | allocationFailure
  | invalidConfig
deriving DecidableEq, Repr

def Status.code : Status → Nat
  | .ok => 0
  | .missingOutput => 1
  | .invalidItems => 2
  | .tooManyItems => 3
  | .invalidCapacity => 4
  | .dimensionOverflow => 5
  | .arithmeticOverflow => 6
  | .allocationFailure => 7
  | .invalidConfig => 8

def Status.name : Status → String
  | .ok => "ok"
  | .missingOutput => "missing_output"
  | .invalidItems => "invalid_items"
  | .tooManyItems => "too_many_items"
  | .invalidCapacity => "invalid_capacity"
  | .dimensionOverflow => "dimension_overflow"
  | .arithmeticOverflow => "arithmetic_overflow"
  | .allocationFailure => "allocation_failure"
  | .invalidConfig => "invalid_config"

def Status.isOk (status : Status) : Bool :=
  status == .ok

def Refusal.status : Refusal → Status
  | .missingOutput => .missingOutput
  | .missingItems => .invalidItems
  | .noItems => .invalidItems
  | .itemWeight _ _ => .invalidItems
  | .tooManyItems _ _ => .tooManyItems
  | .capacity _ _ => .invalidCapacity
  | .dimensions _ _ => .dimensionOverflow
  | .valueOverflow _ _ => .arithmeticOverflow
  | .bufferSize _ _ => .allocationFailure
  | .config _ => .invalidConfig

/-- A cell that a matrix of `rows` rows and `width` columns does not have. -/
structure StrayCell where
  item : Nat
  cell : Nat
  rows : Nat
  width : Nat
deriving DecidableEq, Repr

def StrayCell.message (stray : StrayCell) : String :=
  s!"decision cell ({stray.item}, {stray.cell}) outside {stray.rows} x {stray.width} matrix"

/-- What ends a solve without a solution. -/
inductive Failure where
  | refused (cause : Refusal)
  | stray (cell : StrayCell)
deriving DecidableEq, Repr

def Failure.message : Failure → String
  | .refused cause => cause.message
  | .stray cell => cell.message

end Knapsack
