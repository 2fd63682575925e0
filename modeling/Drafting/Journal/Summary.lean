import Drafting.Journal

/-!
# Summaries of values

A record shows a value on one line and at bounded length. Short lists are shown item by item; of a
long list the first six items are shown, of a long text its two ends, of a large array its shape
and its range, of a view its kind and its own block.
-/

namespace Drafting

/-- Items of a list beyond this count are not shown. -/
def shownItems : Nat := 6

/-- Entries of a record beyond this count are not shown. -/
def shownEntries : Nat := 4

/-- The first `head` and the last `tail` characters of a text around an ellipsis. -/
def bothEnds (head tail : Nat) (text : String) : String :=
  String.ofList (text.toList.take head) ++ "..." ++
    String.ofList (text.toList.drop (text.length - tail))

/-- A text longer than `limit` cut to its two ends. -/
def elided (limit : Nat) (text : String) : String :=
  if text.length ≤ limit then text
  else bothEnds ((limit - 3) / 2) (limit - 3 - (limit - 3) / 2) text

/-- The last `count` characters counted from an end that a short text does not reach: a text of
fewer than `count` characters gives as many characters as it falls short by. -/
def wrappedTail (count : Nat) (cs : List Char) : List Char :=
  if count ≤ cs.length then cs.drop (cs.length - count)
  else cs.drop (cs.length - (count - cs.length))

/-- A quoted text of at most sixty characters, or what its two ends look like in quotes. -/
def elidedQuoted (text : String) : String :=
  let cs := text.toList
  let whole := quoted (String.ofList (cs.take 60))
  if whole.length ≤ 60 then whole
  else bothEnds 28 29 (quoted (String.ofList (cs.take 28 ++ wrappedTail 29 cs)))

/-- The smallest of some numbers; not a number if one of them is not. -/
def smallest (values : List Float) : Float :=
  match values with
  | [] => 0.0
  | first :: rest => rest.foldl (fun a b => if b < a || b.isNaN then b else a) first

/-- The largest of some numbers; not a number if one of them is not. -/
def largest (values : List Float) : Float :=
  match values with
  | [] => 0.0
  | first :: rest => rest.foldl (fun a b => if a < b || b.isNaN then b else a) first

/-- Arrays inside records: six digits after the point. -/
def ArrayStyle.summary : ArrayStyle := ⟨6, 75, 0, ", "⟩

/-- An array, or its shape and range if it is large. -/
def arraySummary (counts : List Nat) (entries : List Float) : String :=
  if entries.isEmpty then "array" ++ shapeText counts
  else if entries.length ≤ shownItems then
    "array(" ++ ArrayStyle.summary.text counts entries ++ ")"
  else
    "array" ++ shapeText counts ++ "[" ++ generalText 4 (smallest entries) ++ ".." ++
      generalText 4 (largest entries) ++ "]"

/-- The kind of a view and the first slots of its own block. -/
def View.summary (view : View) : String :=
  let block := view.ownIndices
  "<" ++ view.kind.name ++ " [" ++ ",".intercalate ((block.take shownItems).map integerText) ++
    (if shownItems < block.length then ",..." else "") ++ "]>"

/-- Words of which the first `limit` are shown. -/
def limitedWords (limit : Nat) (words : List String) : String :=
  ", ".intercalate (words.take limit ++ if limit < words.length then ["..."] else [])

/-- The names of a record's entries in ascending order with what they stand for. -/
def sortedEntries (entries : List (String × Value)) : List (String × Value) :=
  entries.mergeSort fun a b => decide (a.1 ≤ b.1)

namespace Value

/-- A value inside a long list, shown to a depth of `level` lists. -/
def glimpse (level : Nat) (value : Value) : String :=
  match level, value with
  | _, text s => elidedQuoted s
  | _, int n => elided 40 (integerText n)
  | 0, list items => if items.isEmpty then "[]" else "[...]"
  | 0, tuple items => if items.isEmpty then "()" else "(...)"
  | 0, record entries => if entries.isEmpty then "\x7b\x7d" else "\x7b...\x7d"
  | level + 1, list items => "[" ++ limitedWords shownItems (items.map (glimpse level)) ++ "]"
  | level + 1, tuple items =>
    "(" ++ limitedWords shownItems (items.map (glimpse level)) ++
      (if items.length = 1 then ",)" else ")")
  | level + 1, record entries =>
    "\x7b" ++
      limitedWords shownEntries
        ((sortedEntries entries).map fun (key, item) =>
          elidedQuoted key ++ ": " ++ item.glimpse level) ++ "\x7d"
  | _, value => elided 120 value.written

/-- How many lists deep a long list is shown. -/
def glimpseDepth : Nat := 6

/-- A value on one line. -/
def summary : Value → String
  | array counts entries => arraySummary counts entries
  | view v => v.summary
  | list items =>
    if items.length ≤ shownItems then
      "[" ++ ", ".intercalate (items.attach.map fun ⟨item, _⟩ => item.summary) ++ "]"
    else (list items).glimpse glimpseDepth
  | tuple items =>
    if items.length ≤ shownItems then
      "(" ++ ", ".intercalate (items.attach.map fun ⟨item, _⟩ => item.summary) ++ ")"
    else (tuple items).glimpse glimpseDepth
  | value => value.glimpse glimpseDepth

end Value

end Drafting
