import BlockLang.Event
import BlockLang.Symbols.Table

/-! # Operations on symbol tables as data

* `SymbolTable.Op`: the three operations; `apply` and `applyAll` carry them out.
* `SymbolTable.events`: what an operation tells the log. Leaving the outermost frame is no
  operation and tells nothing, and an insertion is told by the one who decides on it. -/

namespace BlockLang.SymbolTable

/-- The operations on a symbol table. -/
inductive Op
  | enter
  | exit
  | insert (name label : String)
  deriving DecidableEq, Repr

/-- The table after an operation. -/
def apply (t : SymbolTable) : Op → SymbolTable
  | .enter => t.enter
  | .exit => t.exit
  | .insert name label => t.insert name label

/-- The table after some operations. -/
def applyAll (t : SymbolTable) (ops : List Op) : SymbolTable := ops.foldl apply t

/-- The events of an operation: the depth after it and, where a frame is closed, its size. -/
def events (t : SymbolTable) : Op → List Event
  | .enter => [.enteredScope t.enter.depth]
  | .exit => if 1 < t.depth then [.exitedScope t.exit.depth t.innermost.size] else []
  | .insert _ _ => []

end BlockLang.SymbolTable
