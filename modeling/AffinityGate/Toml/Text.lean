import AffinityGate.Toml.Lexical
import AffinityGate.Toml.Moment
import AffinityGate.Toml.Table

/-!
# TOML texts

A text is a sequence of lines: `key = value` adds to the table whose header came last, `[path]`
opens a table, `[[path]]` the next table of an array.
-/

namespace AffinityGate.Toml

/-- Where a value without quotes and brackets ends. -/
def endsWord (c : Char) : Bool :=
  isSpace c || c == '\n' || c == '\r' || c == ',' || c == ']' || c == '}' || c == '#' || c == '='

/-- The word at the front.  A date and a time of day with one space between them are one word. -/
def word (cs : List Char) : List Char :=
  let front := cs.takeWhile (!endsWord ·)
  match cs.drop front.length with
  | ' ' :: c :: rest =>
    if (date? front).isSome ∧ c.isDigit then
      front ++ ' ' :: (c :: rest).takeWhile (!endsWord ·)
    else front
  | _ => front

/-- A truth value, a number or a moment. -/
def scalar? (cs : List Char) : Option (Scalar × List Char) :=
  let w := word cs
  let rest := cs.drop w.length
  if w = "true".toList then some (.bool true, rest)
  else if w = "false".toList then some (.bool false, rest)
  else
    match number? w with
    | some n => some (n, rest)
    | none => (moment? w).map fun t => (.text t, rest)

mutual

/-- A value.  `fuel` bounds the number of parts read. -/
def value? : Nat → List Char → Option (Document × List Char)
  | 0, _ => none
  | fuel + 1, cs =>
    match cs with
    | '[' :: rest => (items? fuel [] rest).map fun r => (.list r.1, r.2)
    | '\x7b' :: rest => (fields? fuel true [] rest).map fun r => (.table (closeEntries r.1), r.2)
    | '"' :: _ | '\'' :: _ =>
      (string? cs).map fun r => (.scalar (.text (String.ofList r.1)), r.2)
    | _ => (scalar? cs).map fun r => (.scalar r.1, r.2)

/-- Items up to the closing bracket; a comma may follow the last one. -/
def items? : Nat → List Document → List Char → Option (List Document × List Char)
  | 0, _, _ => none
  | fuel + 1, done, cs =>
    match skipBlank? cs with
    | none => none
    | some (']' :: rest) => some (done.reverse, rest)
    | some cs =>
      match value? fuel cs with
      | none => none
      | some (d, rest) =>
        match skipBlank? rest with
        | some (',' :: rest) => items? fuel (d :: done) rest
        | some (']' :: rest) => some ((d :: done).reverse, rest)
        | _ => none

/-- Fields up to the closing brace; a comma may follow the last one. -/
def fields? : Nat → Bool → Entries → List Char → Option (Entries × List Char)
  | 0, _, _, _ => none
  | fuel + 1, mayEnd, done, cs =>
    match skipBlank? cs with
    | none => none
    | some ('\x7d' :: rest) => if mayEnd then some (done, rest) else none
    | some cs =>
      match key? cs with
      | some (k, '=' :: rest) =>
        match value? fuel (skipSpaces rest) with
        | none => none
        | some (d, rest) =>
          match Entries.insert? k d done, skipBlank? rest with
          | some done, some (',' :: rest) => fields? fuel true done rest
          | some done, some ('\x7d' :: rest) => some (done, rest)
          | _, _ => none
      | _ => none

end

/-- The path of a header and what follows its closing brackets. -/
def headerPath? (isArray : Bool) (cs : List Char) : Option (List String × List Char) :=
  match key? cs, isArray with
  | some (path, ']' :: ']' :: rest), true => some (path, rest)
  | some (path, ']' :: rest), false => some (path, rest)
  | _, _ => none

/-- Reads lines, given the header in force and the entries so far.  `fuel` bounds their number. -/
def lines? : Nat → List String → Entries → List Char → Option Entries
  | 0, _, _, _ => none
  | fuel + 1, header, es, cs =>
    match skipBlank? cs with
    | none => none
    | some [] => some es
    | some ('[' :: '[' :: rest) =>
      match headerPath? true rest with
      | none => none
      | some (path, rest) =>
        match es.openItem? path, lineEnd? rest with
        | some es, some rest => lines? fuel path es rest
        | _, _ => none
    | some ('[' :: rest) =>
      match headerPath? false rest with
      | none => none
      | some (path, rest) =>
        match es.openTable? path, lineEnd? rest with
        | some es, some rest => lines? fuel path es rest
        | _, _ => none
    | some cs =>
      match key? cs with
      | some (k, '=' :: rest) =>
        match value? (2 * cs.length + 2) (skipSpaces rest) with
        | none => none
        | some (d, rest) =>
          match es.insertUnder? header k d, lineEnd? rest with
          | some es, some rest => lines? fuel header es rest
          | _, _ => none
      | _ => none

/-- The table that a text stands for. -/
def read? (cs : List Char) : Option (List (String × Document)) :=
  (lines? (cs.length + 2) [] [] cs).map closeEntries

end AffinityGate.Toml
