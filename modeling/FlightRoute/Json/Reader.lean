/-
**Reading JSON texts.**

A text is first cut into lexemes; the lexemes are then put together with a stack of the arrays and
objects that are still open. Blanks are space, tab, line feed and carriage return. Texts must not
hold control characters, and half of a surrogate pair makes a text unreadable.

* `lexemes`: the lexemes of a text;
* `parse`: the value of a text.
-/

import FlightRoute.Json.Numeral

namespace FlightRoute.Json

/-- The smallest parts of a JSON text. -/
inductive Lexeme
  | openArray
  | closeArray
  | openObject
  | closeObject
  | comma
  | colon
  /-- A text, if it is readable. -/
  | text (value : Option String)
  /-- A value that is no text, list or object. -/
  | scalar (value : Json Numeral)

/-- A text that is being read: its characters so far, the latest first, and half of a pair that waits
for its other half. -/
structure PartialText where
  /-- The characters, the latest first. -/
  characters : List Char
  /-- The first half of a surrogate pair. -/
  pending : Option Nat
  /-- Whether no half stands alone so far. -/
  readable : Bool

namespace PartialText

/-- A character that is no half of a pair. -/
def push (part : PartialText) (c : Char) : PartialText :=
  ⟨c :: part.characters, none, part.readable && part.pending.isNone⟩

/-- A unit of sixteen bits. -/
def pushUnit (part : PartialText) (unit : Nat) : PartialText :=
  if 0xd800 ≤ unit ∧ unit < 0xdc00 then
    ⟨part.characters, some unit, part.readable && part.pending.isNone⟩
  else if 0xdc00 ≤ unit ∧ unit < 0xe000 then
    match part.pending with
    | some first =>
      let code := 0x10000 + (first - 0xd800) * 0x400 + (unit - 0xdc00)
      ⟨Char.ofNat code :: part.characters, none, part.readable⟩
    | none => ⟨part.characters, none, false⟩
  else part.push (Char.ofNat unit)

/-- The text, if every half found its other half. -/
def finish (part : PartialText) : Option String :=
  if part.readable && part.pending.isNone then some (String.ofList part.characters.reverse)
  else none

end PartialText

/-- The value of a hexadecimal digit. -/
def hexDigit? (c : Char) : Option Nat :=
  if c.isDigit then some (c.toNat - 48)
  else if 'a' ≤ c ∧ c ≤ 'f' then some (c.toNat - 87)
  else if 'A' ≤ c ∧ c ≤ 'F' then some (c.toNat - 55)
  else none

/-- The unit that four hexadecimal digits spell. -/
def hexUnit? (a b c d : Char) : Option Nat := do
  return ((← hexDigit? a) * 16 + (← hexDigit? b)) * 256 + ((← hexDigit? c) * 16 + (← hexDigit? d))

/-- The character behind a short escape. -/
def escaped? : Char → Option Char
  | '"' => some '"'
  | '\\' => some '\\'
  | '/' => some '/'
  | 'b' => some '\x08'
  | 'f' => some '\x0c'
  | 'n' => some '\n'
  | 'r' => some '\r'
  | 't' => some '\t'
  | _ => none

/-- Reads the rest of a text up to its closing quote; the characters behind it are left. -/
def readText (part : PartialText) : List Char → Option (Option String × List Char)
  | [] => none
  | '"' :: rest => some (part.finish, rest)
  | '\\' :: 'u' :: a :: b :: c :: d :: rest =>
    match hexUnit? a b c d with
    | some unit => readText (part.pushUnit unit) rest
    | none => none
  | '\\' :: c :: rest =>
    match escaped? c with
    | some character => readText (part.push character) rest
    | none => none
  | c :: rest => if c.toNat < 0x20 then none else readText (part.push c) rest

/-- Whether a character separates lexemes without being one. -/
def isSpace (c : Char) : Bool := c == ' ' || c == '\n' || c == '\t' || c == '\r'

/-- Whether a character can belong to a number. -/
def isNumeric (c : Char) : Bool :=
  c.isDigit || c == '-' || c == '+' || c == '.' || c == 'e' || c == 'E'

/-- The lexeme of a single character. -/
def punctuation? : Char → Option Lexeme
  | '[' => some .openArray
  | ']' => some .closeArray
  | '\x7b' => some .openObject
  | '\x7d' => some .closeObject
  | ',' => some .comma
  | ':' => some .colon
  | _ => none

/-- The value of a bare word. -/
def word? (characters : List Char) : Option (Json Numeral) :=
  match String.ofList characters with
  | "null" => some .null
  | "true" => some (.bool true)
  | "false" => some (.bool false)
  | _ => none

/-- The first lexeme of a text that starts with neither a blank nor a mark, and what is behind it. -/
def readLexeme (first : Char) (rest : List Char) : Option (Lexeme × List Char) :=
  if first == '"' then
    (readText ⟨[], none, true⟩ rest).map fun (value, rest) => (.text value, rest)
  else if first.isDigit || first == '-' then
    (Numeral.ofChars? (first :: rest.takeWhile isNumeric)).map fun numeral =>
      (.scalar (.number numeral), rest.dropWhile isNumeric)
  else
    (word? (first :: rest.takeWhile Char.isAlpha)).map fun value =>
      (.scalar value, rest.dropWhile Char.isAlpha)

/-- Cuts a text of at most `steps` characters into lexemes, behind those already found. -/
def lexemesAfter : Nat → List Lexeme → List Char → Option (List Lexeme)
  | _, found, [] => some found.reverse
  | 0, _, _ :: _ => none
  | steps + 1, found, c :: rest =>
    if isSpace c then lexemesAfter steps found rest
    else
      match punctuation? c with
      | some lexeme => lexemesAfter steps (lexeme :: found) rest
      | none =>
        match readLexeme c rest with
        | some (lexeme, rest) => lexemesAfter steps (lexeme :: found) rest
        | none => none

/-- The lexemes of a text. -/
def lexemes (text : String) : Option (List Lexeme) :=
  let characters := text.toList
  lexemesAfter characters.length [] characters

/-- What may come next in a text. -/
inductive Expected
  | value
  /-- A value or the end of an empty list. -/
  | firstItem
  /-- A name or the end of an empty object. -/
  | firstName
  | name
  | colon
  /-- A comma or the end of what is open; the end of the text when nothing is. -/
  | separator

/-- A list or an object that is still open, its items with the latest first. -/
inductive Container
  | array (items : List (Json Numeral))
  /-- An open object, whether all its names are readable, and the name that waits for its value. -/
  | object (members : List (String × Json Numeral)) (readable : Bool) (name : Option String)

/-- The value of what was open. -/
def Container.close : Container → Json Numeral
  | .array items => .array items.reverse
  | .object members readable _ => if readable then .object members.reverse else .unreadable

/-- Adds a value to what is open. -/
def Container.add (value : Json Numeral) : Container → Container
  | .array items => .array (value :: items)
  | .object members readable (some name) => .object ((name, value) :: members) readable none
  | .object members _ none => .object members false none

/-- A text that is being put together. -/
structure Assembly where
  /-- What is open, the innermost first. -/
  stack : List Container
  expected : Expected
  /-- The outermost value, once it is complete. -/
  result : Option (Json Numeral)

namespace Assembly

/-- A complete value goes into the innermost container, or is the result. -/
def complete (assembly : Assembly) (value : Json Numeral) : Assembly :=
  match assembly.stack with
  | [] => ⟨[], .separator, some value⟩
  | container :: outer => ⟨container.add value :: outer, .separator, assembly.result⟩

/-- The innermost container is complete. -/
def close (assembly : Assembly) : Option Assembly :=
  match assembly.stack with
  | container :: outer => some ({ assembly with stack := outer }.complete container.close)
  | [] => none

/-- A new container opens. -/
def enter (assembly : Assembly) (container : Container) (expected : Expected) : Assembly :=
  { assembly with stack := container :: assembly.stack, expected }

/-- A name of the innermost object. -/
def named (assembly : Assembly) (name : Option String) : Option Assembly :=
  match assembly.stack with
  | .object members readable _ :: outer =>
    some { assembly with
      stack := .object members (readable && name.isSome) name :: outer, expected := .colon }
  | _ => none

/-- Whether the innermost container is a list. -/
def inArray (assembly : Assembly) : Bool :=
  match assembly.stack with
  | .array _ :: _ => true
  | _ => false

/-- Whether the innermost container is an object. -/
def inObject (assembly : Assembly) : Bool :=
  match assembly.stack with
  | .object _ _ _ :: _ => true
  | _ => false

/-- A lexeme at a place where a value is due. -/
def value (assembly : Assembly) : Lexeme → Option Assembly
  | .openArray => some (assembly.enter (.array []) .firstItem)
  | .openObject => some (assembly.enter (.object [] true none) .firstName)
  | .text (some value) => some (assembly.complete (.text value))
  | .text none => some (assembly.complete .unreadable)
  | .scalar value => some (assembly.complete value)
  | _ => none

/-- The next lexeme. -/
def step (assembly : Assembly) (lexeme : Lexeme) : Option Assembly :=
  match assembly.expected, lexeme with
  | .firstItem, .closeArray => assembly.close
  | .firstName, .closeObject => assembly.close
  | .value, lexeme | .firstItem, lexeme => assembly.value lexeme
  | .firstName, .text name | .name, .text name => assembly.named name
  | .colon, .colon => some { assembly with expected := .value }
  | .separator, .comma =>
    if assembly.inArray then some { assembly with expected := .value }
    else if assembly.inObject then some { assembly with expected := .name }
    else none
  | .separator, .closeArray => if assembly.inArray then assembly.close else none
  | .separator, .closeObject => if assembly.inObject then assembly.close else none
  | _, _ => none

end Assembly

/-- The value of a JSON text. -/
def parse (text : String) : Option (Json Numeral) := do
  let assembly ← (← lexemes text).foldlM Assembly.step ⟨[], .value, none⟩
  if assembly.stack.isEmpty then assembly.result else none

end FlightRoute.Json
