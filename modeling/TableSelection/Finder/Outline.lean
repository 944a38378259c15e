import TableSelection.Finder.ColumnFinder

/-!
# Outlines

A selector and a group of finders have a one-line outline, which shows what is trained.
-/

namespace TableSelection

def Combination.outline : Combination → String
  | .union => "Union"
  | .intersection => "Intersection"

/-- The outline of a selector of the given kind; of one that can be trained it says whether it is. -/
def selectorOutline (kind : String) (isTrainable isTrained : Bool) : String :=
  if isTrainable then s!"{kind}::Trainable \x7b trained: {isTrained} \x7d" else s!"{kind}::Plain"

def groupOutline (kind : String) (selectors : List String) (how : Combination) : String :=
  let list := ", ".intercalate selectors
  s!"{kind} \x7b finders: [{list}], combination: {how.outline} \x7d"

variable {α : Type} [CustomFinder α]

def RowSelector.outline (s : RowSelector α) : String :=
  selectorOutline "RowSelector" s.isTrainable s.isTrained

def RowSelector.outlineAll (how : Combination) (finders : List (RowSelector α)) : String :=
  groupOutline "MultiRowFinder" (finders.map RowSelector.outline) how

def ColumnSelector.outline (s : ColumnSelector α) : String :=
  selectorOutline "ColumnSelector" s.isTrainable s.isTrained

def ColumnSelector.outlineAll (how : Combination) (finders : List (ColumnSelector α)) : String :=
  groupOutline "MultiColumnFinder" (finders.map ColumnSelector.outline) how

end TableSelection
