import NodeAgent.Foundation.Dict
import Mathlib.Data.List.Basic

/-!
# JSON text

What `json.dumps` writes with its default settings, all of it in ASCII, and what
`json.loads` makes of a text.  The binary numbers behind the floats are a
parameter.
-/

namespace JsonText

open Effectful

/-! ## Values -/

/-- What a number's text consists of, the case of its `e` apart. -/
structure NumberToken where
  negative : Bool
  whole : List Char
  fraction : Option (List Char)
  /-- The sign and the digits. -/
  exponent : Option (List Char × List Char)
  deriving DecidableEq, Repr

inductive Value (F : Type) where
  | null
  | bool (b : Bool)
  | int (z : Int)
  | float (x : F)
  | nan
  | infinity (negative : Bool)
  | str (s : String)
  | arr (items : List (Value F))
  | obj (fields : List (String × Value F))

namespace NumberToken

def IsDigits (digits : List Char) : Prop :=
  digits ≠ [] ∧ ∀ c ∈ digits, c.isDigit = true

/-- The text of a JSON number: no leading zeros, and digits in every part. -/
structure Valid (t : NumberToken) : Prop where
  whole : IsDigits t.whole
  leading : t.whole.head? = some '0' → t.whole = ['0']
  fraction : ∀ digits, t.fraction = some digits → IsDigits digits
  sign : ∀ sign digits, t.exponent = some (sign, digits) →
    sign = [] ∨ sign = ['+'] ∨ sign = ['-']
  exponent : ∀ sign digits, t.exponent = some (sign, digits) → IsDigits digits

def isInt (t : NumberToken) : Bool :=
  t.fraction.isNone && t.exponent.isNone

def fractionText : Option (List Char) → List Char
  | none => []
  | some digits => '.' :: digits

def exponentText : Option (List Char × List Char) → List Char
  | none => []
  | some (sign, digits) => 'e' :: sign ++ digits

def text (t : NumberToken) : List Char :=
  (if t.negative then ['-'] else []) ++ t.whole ++ fractionText t.fraction ++
    exponentText t.exponent

def ofInt (z : Int) : NumberToken where
  negative := decide (z < 0)
  whole := Nat.toDigits 10 z.natAbs
  fraction := none
  exponent := none

def toInt (t : NumberToken) : Int :=
  if t.negative then -(Nat.ofDigitChars 10 t.whole 0 : Int)
  else Nat.ofDigitChars 10 t.whole 0

end NumberToken

/--
`repr` and `float` on finite numbers.  `repr` writes a fraction or an exponent,
and what it writes reads back; `none` is a number too large to be finite.
-/
structure Floats (F : Type) where
  repr : F → NumberToken
  read : NumberToken → Option F
  valid : ∀ x, (repr x).Valid
  notInt : ∀ x, (repr x).isInt = false
  read_repr : ∀ x, read (repr x) = some x

/-! ## Strings -/

def hexDigit (n : Nat) : Char := Nat.digitChar (n % 16)

/-- `'\\u{0:04x}'.format(n)`. -/
def unicodeEscape (n : Nat) : List Char :=
  ['\\', 'u', hexDigit (n / 4096), hexDigit (n / 256), hexDigit (n / 16),
    hexDigit n]

def escape (c : Char) : List Char :=
  if c = '"' then ['\\', '"']
  else if c = '\\' then ['\\', '\\']
  else if c = '\n' then ['\\', 'n']
  else if c = '\r' then ['\\', 'r']
  else if c = '\t' then ['\\', 't']
  else if c = '\x0c' then ['\\', 'f']
  else if c = '\x08' then ['\\', 'b']
  else if 32 ≤ c.toNat ∧ c.toNat ≤ 126 then [c]
  else if c.toNat < 65536 then unicodeEscape c.toNat
  else unicodeEscape (55296 + (c.toNat - 65536) / 1024) ++
    unicodeEscape (56320 + (c.toNat - 65536) % 1024)

def quote (s : String) : List Char :=
  '"' :: s.toList.flatMap escape ++ ['"']

/-! ## Writing -/

variable {F : Type} (floats : Floats F)

mutual

/-- `json.dumps` of a value. -/
def dumps : Value F → List Char
  | .null => ['n', 'u', 'l', 'l']
  | .bool true => ['t', 'r', 'u', 'e']
  | .bool false => ['f', 'a', 'l', 's', 'e']
  | .int z => (NumberToken.ofInt z).text
  | .float x => (floats.repr x).text
  | .nan => ['N', 'a', 'N']
  | .infinity false => ['I', 'n', 'f', 'i', 'n', 'i', 't', 'y']
  | .infinity true => ['-', 'I', 'n', 'f', 'i', 'n', 'i', 't', 'y']
  | .str s => quote s
  | .arr items => '[' :: dumpsItems items ++ [']']
  | .obj fields => '{' :: dumpsFields fields ++ ['}']

def dumpsItems : List (Value F) → List Char
  | [] => []
  | v :: rest =>
      dumps v ++ if rest.isEmpty then [] else ',' :: ' ' :: dumpsItems rest

def dumpsFields : List (String × Value F) → List Char
  | [] => []
  | (k, v) :: rest =>
      quote k ++ ':' :: ' ' :: dumps v ++
        if rest.isEmpty then [] else ',' :: ' ' :: dumpsFields rest

end

/-! ## Reading -/

def isBlank (c : Char) : Bool :=
  c = ' ' || c = '\t' || c = '\n' || c = '\r'

def skip (text : List Char) : List Char := text.dropWhile isBlank

def readHex (c : Char) : Option Nat :=
  if '0' ≤ c ∧ c ≤ '9' then some (c.toNat - 48)
  else if 'a' ≤ c ∧ c ≤ 'f' then some (c.toNat - 87)
  else if 'A' ≤ c ∧ c ≤ 'F' then some (c.toNat - 55)
  else none

def readHex4 (a b c d : Char) : Option Nat := do
  let a ← readHex a
  let b ← readHex b
  let c ← readHex c
  let d ← readHex d
  pure (4096 * a + 256 * b + 16 * c + d)

def isHighSurrogate (n : Nat) : Bool := 55296 ≤ n && n ≤ 56319

def isLowSurrogate (n : Nat) : Bool := 56320 ≤ n && n ≤ 57343

def unescape : Char → Option Char
  | '"' => some '"'
  | '\\' => some '\\'
  | '/' => some '/'
  | 'n' => some '\n'
  | 'r' => some '\r'
  | 't' => some '\t'
  | 'f' => some '\x0c'
  | 'b' => some '\x08'
  | _ => none

/--
The characters up to the closing quote.  Half of a surrogate pair alone, which
no string here can hold, is refused.
-/
def readString : List Char → Option (List Char × List Char)
  | '"' :: rest => some ([], rest)
  | '\\' :: 'u' :: a :: b :: c :: d :: rest =>
      match readHex4 a b c d with
      | none => none
      | some n =>
          if isHighSurrogate n then
            match rest with
            | '\\' :: 'u' :: a :: b :: c :: d :: rest =>
                match readHex4 a b c d with
                | none => none
                | some m =>
                    if isLowSurrogate m then
                      (readString rest).map fun (s, rest) =>
                        (Char.ofNat (65536 + (n - 55296) * 1024 + (m - 56320)) ::
                          s, rest)
                    else none
            | _ => none
          else if isLowSurrogate n then none
          else (readString rest).map fun (s, rest) => (Char.ofNat n :: s, rest)
  | '\\' :: c :: rest =>
      match unescape c with
      | none => none
      | some c => (readString rest).map fun (s, rest) => (c :: s, rest)
  | c :: rest =>
      if c.toNat < 32 then none
      else (readString rest).map fun (s, rest) => (c :: s, rest)
  | [] => none

def spanDigits (text : List Char) : List Char × List Char :=
  (text.takeWhile Char.isDigit, text.dropWhile Char.isDigit)

def readWhole : List Char → Option (List Char × List Char)
  | '0' :: rest => some (['0'], rest)
  | text =>
      if (spanDigits text).1.isEmpty then none else some (spanDigits text)

def readFraction : List Char → Option (List Char) × List Char
  | '.' :: rest =>
      if (spanDigits rest).1.isEmpty then (none, '.' :: rest)
      else (some (spanDigits rest).1, (spanDigits rest).2)
  | text => (none, text)

def readSign : List Char → List Char × List Char
  | '+' :: rest => (['+'], rest)
  | '-' :: rest => (['-'], rest)
  | text => ([], text)

/-- The sign and the digits after an `e`. -/
def readPower (text : List Char) : Option ((List Char × List Char) × List Char) :=
  let digits := spanDigits (readSign text).2
  if digits.1.isEmpty then none
  else some (((readSign text).1, digits.1), digits.2)

def readExponent : List Char → Option (List Char × List Char) × List Char
  | c :: rest =>
      if c = 'e' ∨ c = 'E' then
        match readPower rest with
        | some (power, after) => (some power, after)
        | none => (none, c :: rest)
      else (none, c :: rest)
  | [] => (none, [])

def readUnsigned (negative : Bool) (text : List Char) :
    Option (NumberToken × List Char) :=
  match readWhole text with
  | none => none
  | some (whole, rest) =>
      some (⟨negative, whole, (readFraction rest).1,
        (readExponent (readFraction rest).2).1⟩,
        (readExponent (readFraction rest).2).2)

def readNumber : List Char → Option (NumberToken × List Char)
  | '-' :: rest => readUnsigned true rest
  | text => readUnsigned false text

/-- A number too large to be finite reads as an infinity. -/
def NumberToken.value (t : NumberToken) : Value F :=
  if t.isInt then .int t.toInt
  else match floats.read t with
    | some x => .float x
    | none => .infinity t.negative

def word (spelled : List Char) (v : Value F) (text : List Char) :
    Option (Value F × List Char) :=
  if spelled.isPrefixOf text then some (v, text.drop spelled.length) else none

def readScalar (text : List Char) : Option (Value F × List Char) :=
  (readNumber text).map (fun (t, rest) => (t.value floats, rest)) <|>
  word ['n', 'u', 'l', 'l'] .null text <|>
  word ['t', 'r', 'u', 'e'] (.bool true) text <|>
  word ['f', 'a', 'l', 's', 'e'] (.bool false) text <|>
  word ['N', 'a', 'N'] .nan text <|>
  word ['I', 'n', 'f', 'i', 'n', 'i', 't', 'y'] (.infinity false) text <|>
  word ['-', 'I', 'n', 'f', 'i', 'n', 'i', 't', 'y'] (.infinity true) text

/-- `dict(pairs)`. -/
def dictOf (fields : List (String × Value F)) : List (String × Value F) :=
  fields.foldl (fun read field => Dict.assignIn field.1 field.2 read) []

def readKey : List Char → Option (String × List Char)
  | '"' :: text =>
      match readString text with
      | none => none
      | some (key, rest) =>
          match skip rest with
          | ':' :: rest => some (String.ofList key, skip rest)
          | _ => none
  | _ => none

/-- After an opening bracket: nothing before `close`, or what `inner` reads. -/
def readOpened (close : Char) (empty : Value F)
    (inner : List Char → Option (Value F × List Char)) (text : List Char) :
    Option (Value F × List Char) :=
  match skip text with
  | [] => none
  | c :: rest => if c = close then some (empty, rest) else inner (c :: rest)

mutual

/-- The value at the front, read with at most `fuel` nested calls. -/
def readValue : Nat → List Char → Option (Value F × List Char)
  | 0, _ => none
  | _ + 1, '"' :: rest =>
      (readString rest).map fun (s, rest) => (.str (String.ofList s), rest)
  | fuel + 1, '[' :: rest =>
      readOpened ']' (.arr []) (fun text => (readItems fuel text).map
        fun (items, rest) => (.arr items, rest)) rest
  | fuel + 1, '{' :: rest =>
      readOpened '}' (.obj []) (fun text => (readFields fuel text).map
        fun (fields, rest) => (.obj (dictOf fields), rest)) rest
  | _ + 1, text => readScalar floats text

def readItems : Nat → List Char → Option (List (Value F) × List Char)
  | 0, _ => none
  | fuel + 1, text =>
      match readValue fuel text with
      | none => none
      | some (v, rest) =>
          match skip rest with
          | ']' :: rest => some ([v], rest)
          | ',' :: rest => (readItems fuel (skip rest)).map fun (items, rest) =>
              (v :: items, rest)
          | _ => none

def readFields : Nat → List Char → Option (List (String × Value F) × List Char)
  | 0, _ => none
  | fuel + 1, text =>
      match readKey text with
      | none => none
      | some (key, rest) =>
          match readValue fuel rest with
          | none => none
          | some (v, rest) =>
              match skip rest with
              | '}' :: rest => some ([(key, v)], rest)
              | ',' :: rest => (readFields fuel (skip rest)).map
                  fun (fields, rest) => ((key, v) :: fields, rest)
              | _ => none

end

/-- `json.loads`; no text needs more calls than this. -/
def loads (text : List Char) : Option (Value F) :=
  match readValue floats (2 * text.length + 1) (skip text) with
  | some (v, rest) => if (skip rest).isEmpty then some v else none
  | none => none

end JsonText
