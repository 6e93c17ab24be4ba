/-
This file reads settings from TOML. A document is a list of lines; a line names a table, adds
an entry to the table named last, or is blank. Tables that a name passes through come into
being by themselves, and it is remembered how each came about, since a table may be named
only once and what dotted names have made cannot be named at all.
-/

import Rulebook.Settings.Value
import Rulebook.Text.Decimal

namespace Rulebook.Settings.Toml

/-! ### Blanks and line ends -/

/-- A blank within a line. -/
def isSpace (c : Char) : Bool :=
  c == ' ' || c == '\t'

/-- A control character that may not stand in comments or strings. -/
def isControl (c : Char) : Bool :=
  (c.val < 32 && c != '\t') || c.val == 127

/-- Drop the blanks within a line. -/
def dropSpace (text : List Char) : List Char :=
  text.dropWhile isSpace

/-- Drop a comment, up to the end of its line. -/
def dropComment (text : List Char) : List Char :=
  match text with
  | '#' :: rest => rest.dropWhile fun c => !isControl c
  | text => text

/-- Read to the end of a line, past blanks and a comment. -/
def readLineEnd (text : List Char) : Option (List Char) :=
  match dropComment (dropSpace text) with
  | [] => some []
  | '\n' :: rest => some rest
  | '\r' :: '\n' :: rest => some rest
  | _ => none

/-- Drop blanks and line ends. A carriage return counts only before a newline. -/
def dropBreaks : List Char → List Char
  | [] => []
  | '\r' :: '\n' :: rest => dropBreaks rest
  | c :: rest => if isSpace c || c == '\n' then dropBreaks rest else c :: rest

/-- Drop blanks, comments and line ends, for at most a number of lines. -/
def dropLines : Nat → List Char → List Char
  | 0, text => text
  | count + 1, text =>
    match dropSpace text with
    | [] => []
    | text => match readLineEnd text with
      | some rest => dropLines count rest
      | none => text

/-! ### Strings -/

/-- The character with a code of eight hexadecimal digits at most. -/
def charOfDigits? (digits : List Char) : Option Char :=
  let value? := digits.foldlM (fun value (c : Char) =>
    if c.isDigit then some (16 * value + (c.toNat - '0'.toNat))
    else if 'a' ≤ c && c ≤ 'f' then some (16 * value + (c.toNat - 'a'.toNat + 10))
    else if 'A' ≤ c && c ≤ 'F' then some (16 * value + (c.toNat - 'A'.toNat + 10))
    else none) 0
  match value? with
  | some value => if value.isValidChar then some (Char.ofNat value) else none
  | none => none

/-- Read what follows a backslash in a string. -/
def readStringEscape (text : List Char) : Option (Char × List Char) :=
  let coded (width : Nat) (rest : List Char) : Option (Char × List Char) :=
    if rest.length < width then none
    else (charOfDigits? (rest.take width)).map fun c => (c, rest.drop width)
  match text with
  | 'b' :: rest => some ('\x08', rest)
  | 't' :: rest => some ('\t', rest)
  | 'n' :: rest => some ('\n', rest)
  | 'f' :: rest => some ('\x0c', rest)
  | 'r' :: rest => some ('\r', rest)
  | '"' :: rest => some ('"', rest)
  | '\\' :: rest => some ('\\', rest)
  | 'u' :: rest => coded 4 rest
  | 'U' :: rest => coded 8 rest
  | _ => none

/-- Read a string on one line, through its closing quote. The characters read so far are
held with the latest first. -/
def readPlainString (quote : Char) : Nat → List Char → List Char → Option (String × List Char)
  | 0, _, _ => none
  | _, _, [] => none
  | count + 1, read, c :: rest =>
    if c == quote then some (String.ofList read.reverse, rest)
    else if c == '\\' && quote == '"' then
      match readStringEscape rest with
      | some (meant, rest) => readPlainString quote count (meant :: read) rest
      | none => none
    else if isControl c then none
    else readPlainString quote count (c :: read) rest

/-- Read a string over several lines, through its three closing quotes. Up to two more quotes
may stand before them. -/
def readLongString (quote : Char) : Nat → List Char → List Char → Option (String × List Char)
  | 0, _, _ => none
  | _, _, [] => none
  | count + 1, read, c :: rest =>
    if c == quote && rest.take 2 == [quote, quote] then
      let extra := ((rest.drop 2).takeWhile (· == quote)).length
      if 2 < extra then none
      else some (String.ofList (List.replicate extra quote ++ read).reverse,
        (rest.drop 2).drop extra)
    else if c == '\\' && quote == '"' then
      match readStringEscape rest with
      | some (meant, rest) => readLongString quote count (meant :: read) rest
      | none =>
        match dropSpace rest with
        | '\n' :: rest => readLongString quote count read (dropBreaks rest)
        | '\r' :: '\n' :: rest => readLongString quote count read (dropBreaks rest)
        | _ => none
    else if c == '\r' && rest.head? == some '\n' then readLongString quote count read rest
    else if isControl c && c != '\n' then none
    else readLongString quote count (c :: read) rest

/-- Read a string after its first quote. A line end right after three quotes is dropped. -/
def readString (quote : Char) (text : List Char) : Option (String × List Char) :=
  if text.take 2 == [quote, quote] then
    match text.drop 2 with
    | '\n' :: rest => readLongString quote (rest.length + 1) [] rest
    | '\r' :: '\n' :: rest => readLongString quote (rest.length + 1) [] rest
    | rest => readLongString quote (rest.length + 1) [] rest
  else readPlainString quote (text.length + 1) [] text

/-! ### Names -/

/-- A character of a name without quotes. -/
def isNameChar (c : Char) : Bool :=
  c.isAlphanum || c == '_' || c == '-'

/-- Read one name, with or without quotes. -/
def readName (text : List Char) : Option (String × List Char) :=
  match text with
  | '"' :: rest => readPlainString '"' (rest.length + 1) [] rest
  | '\'' :: rest => readPlainString '\'' (rest.length + 1) [] rest
  | text =>
    let name := text.takeWhile isNameChar
    if name.isEmpty then none else some (String.ofList name, text.drop name.length)

/-- Neither the names of a dotted name nor the values around a value may be as many as
this. -/
def nestingLimit : Nat := 80

/-- Read names with dots between them, at most a number of them. -/
def readNamesWithin : Nat → List Char → Option (List String × List Char)
  | 0, _ => none
  | count + 1, text => do
    let (name, rest) ← readName (dropSpace text)
    match dropSpace rest with
    | '.' :: rest => do
      let (names, rest) ← readNamesWithin count rest
      return (name :: names, rest)
    | rest => return ([name], rest)

/-- Read names with dots between them. -/
def readNames (text : List Char) : Option (List String × List Char) :=
  readNamesWithin (nestingLimit - 1) text

/-! ### Numbers and dates -/

/-- Digits without the underscores between them. An underscore needs a digit on both sides. -/
def digitsOf? (isDigit : Char → Bool) (chars : List Char) : Option (List Char) :=
  let rec separated : Bool → List Char → Bool
    | after, [] => after
    | after, '_' :: rest => after && separated false rest
    | _, c :: rest => isDigit c && separated true rest
  if separated false chars then some (chars.filter (· != '_')) else none

/-- Decimal digits that do not begin with a needless nought. -/
def decimalOf? (chars : List Char) : Option (List Char) :=
  match digitsOf? Char.isDigit chars with
  | some ('0' :: _ :: _) => none
  | other => other

/-- An integer within sixty-four bits. -/
def integerWithin (value : Int) : Option Value :=
  if Decimal.fitsWord value then some (.integer value) else none

/-- An integer in a base other than ten. -/
def basedInteger? (base : Nat) (chars : List Char) : Option Value := do
  let digit (c : Char) : Nat :=
    if c.isDigit then c.toNat - '0'.toNat
    else if 'a' ≤ c && c ≤ 'f' then c.toNat - 'a'.toNat + 10
    else if 'A' ≤ c && c ≤ 'F' then c.toNat - 'A'.toNat + 10
    else base
  let digits ← digitsOf? (digit · < base) chars
  integerWithin (Int.ofNat (digits.foldl (fun value c => base * value + digit c) 0))

/-- The digits after a decimal point, if there is one, and the text after them. -/
def fraction? (chars : List Char) : Option (List Char × List Char) :=
  match chars with
  | '.' :: rest =>
    let fraction := rest.takeWhile fun c => c.isDigit || c == '_'
    (digitsOf? Char.isDigit fraction).map fun digits => (digits, rest.drop fraction.length)
  | rest => some ([], rest)

/-- The exponent that a text writes; nought if the text is empty. -/
def exponent? (chars : List Char) : Option Int :=
  let magnitude? (digits : List Char) : Option Int :=
    (digitsOf? Char.isDigit digits).map fun digits => Int.ofNat (Decimal.ofDigits digits)
  match chars with
  | [] => some 0
  | mark :: rest =>
    if mark != 'e' && mark != 'E' then none
    else match rest with
      | '-' :: rest => (magnitude? rest).map (- ·)
      | '+' :: rest => magnitude? rest
      | rest => magnitude? rest

/-- A number in base ten, without its sign. A number too large for a double is refused. -/
def decimal? (negative : Bool) (chars : List Char) : Option Value := do
  let whole := chars.takeWhile fun c => c.isDigit || c == '_'
  let rest := chars.drop whole.length
  let digits ← decimalOf? whole
  if rest.isEmpty then
    let magnitude := Int.ofNat (Decimal.ofDigits digits)
    integerWithin (if negative then -magnitude else magnitude)
  else
    let (fraction, rest) ← fraction? rest
    let exponent ← exponent? rest
    let numeral : Decimal.Numeral :=
      ⟨negative, Decimal.ofDigits (digits ++ fraction), exponent - Int.ofNat fraction.length⟩
    let value := numeral.toFloat
    if value == 1.0 / 0.0 then none else return .float value

/-- A number: a sign, and digits in some base or a word for what is no number. -/
def number? (chars : List Char) : Option Value :=
  let signed (negative : Bool) (rest : List Char) : Option Value :=
    if rest == "inf".toList then some (.float (if negative then -1.0 / 0.0 else 1.0 / 0.0))
    else if rest == "nan".toList then some (.float (0.0 / 0.0))
    else decimal? negative rest
  match chars with
  | '0' :: 'x' :: rest => basedInteger? 16 rest
  | '0' :: 'o' :: rest => basedInteger? 8 rest
  | '0' :: 'b' :: rest => basedInteger? 2 rest
  | '-' :: rest => signed true rest
  | '+' :: rest => signed false rest
  | rest => signed false rest

/-- The text has the shape of a template in which `d` stands for a digit. -/
def hasShape (template : String) (chars : List Char) : Bool :=
  template.length == chars.length &&
    (template.toList.zip chars).all fun (wanted, c) =>
      if wanted == 'd' then c.isDigit else wanted == c

/-- The number that two digits of a text write. -/
def twoDigits (chars : List Char) (start : Nat) : Nat :=
  Decimal.ofDigits ((chars.drop start).take 2)

/-- A day of a month of a year. -/
def isDate (chars : List Char) : Bool :=
  let year := Decimal.ofDigits (chars.take 4)
  let month := twoDigits chars 5
  let day := twoDigits chars 8
  let leap := year % 4 == 0 && (year % 100 != 0 || year % 400 == 0)
  let days := match month with
    | 2 => if leap then 29 else 28
    | 4 | 6 | 9 | 11 => 30
    | _ => 31
  hasShape "dddd-dd-dd" chars && 1 ≤ month && month ≤ 12 && 1 ≤ day && day ≤ days

/-- A time of day, with a fraction of a second or without. -/
def isTime (chars : List Char) : Bool :=
  let fraction := chars.drop 8
  hasShape "dd:dd:dd" (chars.take 8) && twoDigits chars 0 ≤ 23 && twoDigits chars 3 ≤ 59 &&
    twoDigits chars 6 ≤ 60 && match fraction with
      | [] => true
      | '.' :: digits => !digits.isEmpty && digits.all Char.isDigit
      | _ => false

/-- A distance from the prime meridian. -/
def isZone (chars : List Char) : Bool :=
  match chars with
  | ['Z'] | ['z'] => true
  | sign :: rest => (sign == '+' || sign == '-') && hasShape "dd:dd" rest &&
      twoDigits rest 0 ≤ 23 && twoDigits rest 3 ≤ 59
  | [] => false

/-- A date, a time, or both with or without a zone. -/
def isMoment (chars : List Char) : Bool :=
  let isZoneStart := fun c => c == 'Z' || c == 'z' || c == '+' || c == '-'
  isDate chars || isTime chars ||
    (isDate (chars.take 10) && match chars.drop 10 with
      | mark :: rest =>
        let time := rest.takeWhile fun c => !isZoneStart c
        let zone := rest.drop time.length
        (mark == 'T' || mark == 't' || mark == ' ') && isTime time &&
          (zone.isEmpty || isZone zone)
      | [] => false)

/-- A character of a value that is neither quoted nor bracketed. -/
def isBareChar (c : Char) : Bool :=
  c.isAlphanum || c == '_' || c == '+' || c == '-' || c == '.' || c == ':'

/-- The value of a bare word. -/
def bare? (word : List Char) : Option Value :=
  if word == "true".toList then some (.bool true)
  else if word == "false".toList then some (.bool false)
  else if isMoment word then some (.text (String.ofList word))
  else number? word

/-- Read a bare value. A date may be followed by a space and a time. -/
def readBare (text : List Char) : Option (Value × List Char) :=
  let word := text.takeWhile isBareChar
  let rest := text.drop word.length
  let timed := match rest with
    | ' ' :: after =>
      if isDate word && (after.head?.any Char.isDigit) then
        word ++ ' ' :: after.takeWhile isBareChar
      else word
    | _ => word
  (bare? timed).map fun value => (value, text.drop timed.length)

/-! ### Tables -/

/-- How a table came about. -/
inductive TableOrigin where
  /-- A line named it. -/
  | named
  /-- A line named something inside it. -/
  | implied
  /-- A dotted name passed through it. -/
  | dotted
  deriving DecidableEq

/-- A document while it is being read. -/
inductive Entry where
  | value (value : Value)
  | table (origin : TableOrigin) (entries : List (String × Entry))
  /-- Tables under one name. -/
  | tables (earlier : List (List (String × Entry))) (latest : List (String × Entry))
  deriving Inhabited

/-- Entries by name, in the order in which they were read. -/
abbrev Entries := List (String × Entry)

/-- Put an entry under a name. -/
def Entries.put (name : String) (entry : Entry) : Entries → Entries
  | [] => [(name, entry)]
  | (other, old) :: rest =>
    if other = name then (name, entry) :: rest
    else (other, old) :: Entries.put name entry rest

/-- Change the entries of the table at the end of a path of names. Tables on the way come
into being as implied; of tables under one name the latest is meant. -/
def changeWithin (change : Entries → Option Entries) : List String → Entries → Option Entries
  | [], entries => change entries
  | name :: path, entries => do
    let entry ← match entries.lookup name with
      | none => return entries.put name (.table .implied (← changeWithin change path []))
      | some (.table origin inner) => do
        pure (Entry.table origin (← changeWithin change path inner))
      | some (.tables earlier latest) => do
        pure (Entry.tables earlier (← changeWithin change path latest))
      | some (.value _) => none
    return entries.put name entry

/-- Name a table inside some entries. -/
def openTable (name : String) (entries : Entries) : Option Entries :=
  match entries.lookup name with
  | none => some (entries.put name (.table .named []))
  | some (.table .implied inner) => some (entries.put name (.table .named inner))
  | _ => none

/-- Name one more of the tables under one name. -/
def openNextTable (name : String) (entries : Entries) : Option Entries :=
  match entries.lookup name with
  | none => some (entries.put name (.tables [] []))
  | some (.tables earlier latest) => some (entries.put name (.tables (earlier ++ [latest]) []))
  | _ => none

/-- Add a value under a dotted name. Dotted names go only through tables that no line has
named and through the latest of tables under one name, and end only in tables that dotted
names have made. -/
def addValue (value : Value) : List String → Entries → Option Entries
  | [], _ => none
  | [name], entries =>
    if (entries.lookup name).isSome then none else some (entries.put name (.value value))
  | name :: path, entries =>
    match entries.lookup name with
    | none => do
      return entries.put name (.table .dotted (← addValue value path []))
    | some (.table .dotted inner) => do
      return entries.put name (.table .dotted (← addValue value path inner))
    | some (.table .implied inner) => do
      if path.length = 1 then none
      else return entries.put name (.table .implied (← addValue value path inner))
    | some (.tables earlier latest) => do
      if path.length = 1 then none
      else return entries.put name (.tables earlier (← addValue value path latest))
    | _ => none

mutual

/-- The value of a finished entry. -/
def Entry.toValue : Entry → Value
  | .value value => value
  | .table _ entries => .table (toValues entries)
  | .tables earlier latest => .array (toTables earlier ++ [.table (toValues latest)])

/-- The values of finished entries. -/
def toValues : List (String × Entry) → List (String × Value)
  | [] => []
  | (name, entry) :: rest => (name, entry.toValue) :: toValues rest

/-- The values of finished tables. -/
def toTables : List (List (String × Entry)) → List Value
  | [] => []
  | entries :: rest => .table (toValues entries) :: toTables rest

end

/-! ### Values -/

/-- What the reader of values is in the middle of. -/
inductive Task where
  /-- A value. -/
  | value
  /-- The items of an array, up to its closing bracket. -/
  | items (read : List Value)
  /-- The entries of an inline table, up to its closing brace. -/
  | entries (read : Entries)

/-- Read a value, the rest of an array or the rest of an inline table. The first argument
bounds the number of parts, which is less than the length of the text; the second counts the
brackets and braces that are open around the part. -/
def readTask : Nat → Nat → Task → List Char → Option (Value × List Char)
  | 0, _, _, _ => none
  | budget + 1, nesting, .value, text =>
    match text with
    | '"' :: rest => (readString '"' rest).map fun (text, rest) => (.text text, rest)
    | '\'' :: rest => (readString '\'' rest).map fun (text, rest) => (.text text, rest)
    | '[' :: rest =>
      if nesting + 1 < nestingLimit then readTask budget (nesting + 1) (.items []) rest
      else none
    | '\x7b' :: rest =>
      if nesting + 1 < nestingLimit then
        match dropSpace rest with
        | '\x7d' :: rest => some (.table [], rest)
        | rest => readTask budget (nesting + 1) (.entries []) rest
      else none
    | text => readBare text
  | budget + 1, nesting, .items read, text =>
    match dropLines (text.length + 1) text with
    | ']' :: rest => some (.array read.reverse, rest)
    | text => do
      let (item, rest) ← readTask budget nesting .value text
      let read := item :: read
      match dropLines (rest.length + 1) rest with
      | ',' :: rest => readTask budget nesting (.items read) rest
      | ']' :: rest => some (.array read.reverse, rest)
      | _ => none
  | budget + 1, nesting, .entries read, text => do
    let (names, rest) ← readNames text
    match rest with
    | '=' :: rest => do
      let (value, rest) ← readTask budget nesting .value (dropSpace rest)
      let read ← addValue value names read
      match dropSpace rest with
      | ',' :: rest => readTask budget nesting (.entries read) rest
      | '\x7d' :: rest => some (.table (toValues read), rest)
      | _ => none
    | _ => none

/-! ### Documents -/

/-- Read a line that is not blank, given the table named last. The answer has the table named
last after it, the entries of the document and the rest of the text. -/
def readLine (current : List String) (document : Entries) (text : List Char) :
    Option (List String × Entries × List Char) := do
  match text with
  | '[' :: '[' :: rest => do
    let (names, rest) ← readNames rest
    match rest with
    | ']' :: ']' :: rest => do
      let last ← names.getLast?
      let document ← changeWithin (openNextTable last) names.dropLast document
      return (names, document, ← readLineEnd rest)
    | _ => none
  | '[' :: rest => do
    let (names, rest) ← readNames rest
    match rest with
    | ']' :: rest => do
      let last ← names.getLast?
      let document ← changeWithin (openTable last) names.dropLast document
      return (names, document, ← readLineEnd rest)
    | _ => none
  | text => do
    let (names, rest) ← readNames text
    match rest with
    | '=' :: rest => do
      let rest := dropSpace rest
      let (value, rest) ← readTask (rest.length + 1) 0 .value rest
      let document ← changeWithin (addValue value names) current document
      return (current, document, ← readLineEnd rest)
    | _ => none

/-- Read lines, at most a number of them. -/
def readLines : Nat → List String → Entries → List Char → Option Entries
  | 0, _, _, _ => none
  | count + 1, current, document, text =>
    match dropLines (text.length + 1) text with
    | [] => some document
    | text => do
      let (current, document, rest) ← readLine current document text
      readLines count current document rest

/-- The entries of the outermost table of a document. -/
def read? (text : String) : Option (List (String × Value)) :=
  let chars := match text.toList with
    | '\ufeff' :: rest => rest
    | chars => chars
  (readLines (chars.length + 1) [] [] chars).map toValues

end Rulebook.Settings.Toml
