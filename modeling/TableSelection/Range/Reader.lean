import TableSelection.Range.Basic

/-!
# Reading a range

`Range.parse` reads a text in three steps. It takes off an `inv(...)` around the whole, cuts the
rest at the commas outside quotes, and reads each item as one bound or as two with a hyphen between
them. Items are read left to right, and the first fault is the one reported as a `SyntaxError`.

A reader of a part takes the text that is left and gives back what it read with the text behind it.
-/

namespace TableSelection

open Text

/-! ## Errors -/

/-- Why a text does not read as a range. -/
inductive SyntaxError
  /-- A quote is not closed in the text. -/
  | unterminatedQuote (text : String)
  /-- The inversion does not end with its one closing parenthesis. -/
  | unbalancedInversion (text : String)
  /-- The inversion holds another one. -/
  | nestedInversion (text : String)
  /-- Nothing stands between two commas. -/
  | emptyItem (body : String)
  /-- A bound is missing in the item. -/
  | missingBound (item : String)
  /-- The index is no row of digits, or too large. -/
  | invalidIndex (index : String)
  /-- The item goes on with something that does not belong there. -/
  | unexpectedToken (token item : String)
  deriving DecidableEq, Repr

def SyntaxError.message : SyntaxError → String
  | .unterminatedQuote text => s!"Unterminated quote in range '{text}'"
  | .unbalancedInversion text => s!"Missing closing parenthesis for inv( in range '{text}'"
  | .nestedInversion text => s!"Nested inv( is not supported in range '{text}'"
  | .emptyItem body => s!"Empty item in range '{body}'"
  | .missingBound item => s!"Missing bound in range item '{item}'"
  | .invalidIndex index => s!"Invalid index '{index}'"
  | .unexpectedToken token item => s!"Unexpected '{token}' in range item '{item}'"

/-- The error of an item that goes on with `rest`. -/
def SyntaxError.unexpected (rest item : List Char) : SyntaxError :=
  .unexpectedToken (String.ofList rest) (String.ofList item)

/-! ## Bounds and items -/

namespace Bound

/-- The characters that end a bare token. -/
def endsBare (c : Char) : Bool := ['-', '"', '(', ')'].contains c

/-- Reads the token up to the next hyphen, without the blanks around it. Quotes and parentheses
may not stand in it. -/
def readBare (item text : List Char) : Except SyntaxError (List Char × List Char) :=
  let rest := text.dropWhile (!endsBare ·)
  match rest with
  | [] => .ok (trim (text.takeWhile (!endsBare ·)), rest)
  | c :: _ =>
      if c = '-' then .ok (trim (text.takeWhile (!endsBare ·)), rest)
      else .error (.unexpected rest item)

/-- Whether the text behind a keyword lets it stand as one: blanks, then the end or a hyphen. -/
def keywordMayEnd (rest : List Char) : Bool :=
  match trimStart rest with
  | [] => true
  | c :: _ => c == '-'

/-- Reads a placeholder. A keyword counts only if nothing else follows it, so `lastname` and
`last-10` do not start with one. -/
def readPlaceholder? (text : List Char) : Option (Placeholder × List Char) :=
  Placeholder.spellings.findSome? fun (word, meant) =>
    (dropWord? word.toList text).bind fun rest =>
      if keywordMayEnd rest then some (meant, rest) else none

/-- Reads a forced index, from behind its hash. -/
def readForced (item text : List Char) : Except SyntaxError (Bound × List Char) := do
  let (digits, rest) ← readBare item text
  match ofDigits? digits true with
  | some bound => return (bound, rest)
  | none => throw (.invalidIndex (String.ofList ('#' :: digits)))

/-- Reads a bare token: an index if it is all digits, a name otherwise. -/
def readToken (item text : List Char) : Except SyntaxError (Bound × List Char) := do
  let (token, rest) ← readBare item text
  if token.all Char.isDigit then
    match ofDigits? token false with
    | some bound => return (bound, rest)
    | none => throw (.invalidIndex (String.ofList token))
  else
    return (.name (String.ofList token) false, rest)

/-- Reads one bound of an item, with the blanks before it. -/
def read (item text : List Char) : Except SyntaxError (Bound × List Char) :=
  let text := trimStart text
  match text with
  | [] => .error (.missingBound (String.ofList item))
  | c :: cs =>
      if c = '-' then .error (.missingBound (String.ofList item))
      else if c = '"' then
        match readQuoted cs with
        | some (quoted, rest) => .ok (.name (String.ofList quoted) true, rest)
        | none => .error (.unterminatedQuote (String.ofList item))
      else if c = '#' then readForced item cs
      else
        match readPlaceholder? text with
        | some (meant, rest) => .ok (.placeholder meant, rest)
        | none => readToken item text

end Bound

/-- Reads one item from beginning to end. -/
def Segment.read (item : List Char) : Except SyntaxError Segment := do
  let (start, rest) ← Bound.read item item
  match trimStart rest with
  | [] => return .single start
  | c :: cs =>
      if c = '-' then
        let (stop, rest) ← Bound.read item cs
        match trimStart rest with
        | [] => return .span start stop
        | rest => throw (.unexpected rest item)
      else throw (.unexpected (c :: cs) item)

/-! ## Ranges -/

namespace Range

def inversionWord : List Char := ['i', 'n', 'v', '(']

/-- Takes an inversion off a trimmed text. Parentheses inside it are allowed only in quotes. -/
def splitInversion (text : List Char) : Except SyntaxError (List Char × Bool) :=
  match dropWord? inversionWord text with
  | none => .ok (text, false)
  | some rest =>
      if rest.getLast? ≠ some ')' then .error (.unbalancedInversion (String.ofList text))
      else
        let body := rest.dropLast
        if (dropWord? inversionWord (trimStart body)).isSome then
          .error (.nestedInversion (String.ofList text))
        else if (unquoted body).any (['(', ')'].contains ·) then
          .error (.unbalancedInversion (String.ofList text))
        else .ok (body, true)

/-- Cuts the body of a range into its trimmed items. -/
def readItems (body : List Char) : Except SyntaxError (List (List Char)) :=
  if ¬ClosesQuotes body then .error (.unterminatedQuote (String.ofList body))
  else
    let items := (splitItems body).map trim
    if items.any List.isEmpty then .error (.emptyItem (String.ofList body)) else .ok items

/-- Reads the segments of a body; a body of blanks has none. -/
def readBody (body : List Char) : Except SyntaxError (List Segment) :=
  if body.all isBlank then .ok [] else do
    let items ← readItems body
    items.mapM Segment.read

/-- Reads a range from a list of characters. -/
def read (text : List Char) : Except SyntaxError Range := do
  let (body, inverted) ← splitInversion (trim text)
  let segments ← readBody body
  return ⟨segments, inverted, none⟩

def parse (text : String) : Except SyntaxError Range := read text.toList

/-- Reads a range for a domain of known size. -/
def parseWithLimit (text : String) (limit : Nat) : Except SyntaxError Range :=
  (parse text).map (withLimit · limit)

end Range

end TableSelection
