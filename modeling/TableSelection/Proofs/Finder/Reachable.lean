import TableSelection.Finder.ColumnFinder

/-!
# Requests and reachable finders

A finder of rows or of columns, by itself or in a selector, is asked to train, to find and to reset.
`respond` is its reply to one request and the finder after it; `replies` and `after` go through a list
of requests.

`asBuilt` is a finder as it was when it was built with its present settings: nothing in it has been
trained. A finder is reachable if it can come about from fresh ones by requests, by putting finders
into selectors and groups, by giving a pipeline other parts and by changing a filter. Training shows
only in what `asBuilt` takes away, so two finders with the same `asBuilt` have the same settings.
-/

namespace TableSelection

/-! ## Requests -/

/-- A finder of either kind, by itself or in a selector. -/
inductive Finder (α : Type)
  | row (finder : RowFinder α)
  | column (finder : ColumnFinder α)
  | rowSelector (selector : RowSelector α)
  | columnSelector (selector : ColumnSelector α)

inductive Request
  | train (data : Table)
  | find (data : Table)
  | reset

inductive Reply
  | trained (result : Except TrainError Unit)
  | found (result : Except FindError (List Nat))
  | done

namespace Finder

variable {α : Type} [CustomFinder α]

def isTrained : Finder α → Bool
  | row f => f.isTrained
  | column f => f.isTrained
  | rowSelector s => s.isTrained
  | columnSelector s => s.isTrained

def train : Finder α → Table → Except TrainError Unit × Finder α
  | row f, data => Prod.map id row (f.train data).value
  | column f, data => Prod.map id column (f.train data).value
  | rowSelector s, data => Prod.map id rowSelector (s.train data).value
  | columnSelector s, data => Prod.map id columnSelector (s.train data).value

/-- The rows or columns found, and the finder after the query. -/
def find : Finder α → Table → Except FindError (List Nat) × Finder α
  | row f, data => ((f.find data).value, row f)
  | column f, data => Prod.map id column (f.find data).value
  | rowSelector s, data => ((s.find data).value, rowSelector s)
  | columnSelector s, data => Prod.map id columnSelector (s.find data).value

def reset : Finder α → Finder α
  | row f => row f.reset.value
  | column f => column f.reset.value
  | rowSelector s => rowSelector s.reset.value
  | columnSelector s => columnSelector s.reset.value

/-- The reply to a request, and the finder after it. -/
def respond (f : Finder α) : Request → Reply × Finder α
  | .train data => Prod.map .trained id (f.train data)
  | .find data => Prod.map .found id (f.find data)
  | .reset => (.done, f.reset)

/-- The replies to requests made one after the other. -/
def replies : Finder α → List Request → List Reply
  | _, [] => []
  | f, r :: rest => (f.respond r).1 :: (f.respond r).2.replies rest

/-- The finder after requests made one after the other. -/
def after : Finder α → List Request → Finder α
  | f, [] => f
  | f, r :: rest => (f.respond r).2.after rest

end Finder

/-! ## Reachable finders -/

variable {α : Type}

mutual

/-- A row finder with the same settings that was never trained. -/
def RowFinder.asBuilt : RowFinder α → RowFinder α
  | .all => .all
  | .range rows => .range rows
  | .numeric filter _ => .numeric filter none
  | .group how finders => .group how (RowSelector.asBuiltAll finders)
  | .custom finder => .custom finder

def RowSelector.asBuilt : RowSelector α → RowSelector α
  | .plain finder => .plain finder.asBuilt
  | .trainable finder => .trainable finder.asBuilt

def RowSelector.asBuiltAll : List (RowSelector α) → List (RowSelector α)
  | [] => []
  | s :: rest => s.asBuilt :: RowSelector.asBuiltAll rest

end

mutual

/-- A column finder with the same settings that was never trained. -/
def ColumnFinder.asBuilt : ColumnFinder α → ColumnFinder α
  | .all => .all
  | .range columns => .range columns
  | .variance filter _ => .variance filter none
  | .group how finders => .group how (ColumnSelector.asBuiltAll finders)
  | .pipeline rows columns _ => .pipeline rows.asBuilt columns.asBuilt .untrained
  | .custom finder => .custom finder

def ColumnSelector.asBuilt : ColumnSelector α → ColumnSelector α
  | .plain finder => .plain finder.asBuilt
  | .trainable finder => .trainable finder.asBuilt

def ColumnSelector.asBuiltAll : List (ColumnSelector α) → List (ColumnSelector α)
  | [] => []
  | s :: rest => s.asBuilt :: ColumnSelector.asBuiltAll rest

end

namespace Finder

def asBuilt : Finder α → Finder α
  | row f => row f.asBuilt
  | column f => column f.asBuilt
  | rowSelector s => rowSelector s.asBuilt
  | columnSelector s => columnSelector s.asBuilt

/-- No part of the finder was ever trained. -/
def IsFresh (f : Finder α) : Prop := f.asBuilt = f

variable [CustomFinder α]

/-- Finders that can come about, where only finders that satisfy `wrapped` are put into plain
selectors. -/
inductive Reachable (wrapped : Finder α → Prop) : Finder α → Prop
  | fresh {f : Finder α} (h : f.IsFresh) : Reachable wrapped f
  | respond {f : Finder α} (h : Reachable wrapped f) (r : Request) :
      Reachable wrapped (f.respond r).2
  | plainRows {f : RowFinder α} (h : Reachable wrapped (row f)) (hw : wrapped (row f)) :
      Reachable wrapped (rowSelector (.plain f))
  | trainableRows {f : RowFinder α} (h : Reachable wrapped (row f)) :
      Reachable wrapped (rowSelector (.trainable f))
  | plainColumns {f : ColumnFinder α} (h : Reachable wrapped (column f))
      (hw : wrapped (column f)) : Reachable wrapped (columnSelector (.plain f))
  | trainableColumns {f : ColumnFinder α} (h : Reachable wrapped (column f)) :
      Reachable wrapped (columnSelector (.trainable f))
  | pushRows {f : RowFinder α} {s : RowSelector α} (hf : Reachable wrapped (row f))
      (hs : Reachable wrapped (rowSelector s)) : Reachable wrapped (row (f.push s))
  | pushColumns {f : ColumnFinder α} {s : ColumnSelector α} (hf : Reachable wrapped (column f))
      (hs : Reachable wrapped (columnSelector s)) : Reachable wrapped (column (f.push s))
  | withRows {f : ColumnFinder α} {s : RowSelector α} (hf : Reachable wrapped (column f))
      (hs : Reachable wrapped (rowSelector s)) : Reachable wrapped (column (f.withRows s))
  | withColumns {f : ColumnFinder α} {s : ColumnSelector α} (hf : Reachable wrapped (column f))
      (hs : Reachable wrapped (columnSelector s)) : Reachable wrapped (column (f.withColumns s))
  | withNumericFilter {filter : NumericFilter} {trained : Option Nat}
      (h : Reachable wrapped (row (.numeric filter trained))) (other : NumericFilter) :
      Reachable wrapped (row (.numeric other trained))
  | withVarianceFilter {filter : VarianceFilter} {trained : Option VarianceChoice}
      (h : Reachable wrapped (column (.variance filter trained))) (other : VarianceFilter) :
      Reachable wrapped (column (.variance other trained))

end Finder

end TableSelection
