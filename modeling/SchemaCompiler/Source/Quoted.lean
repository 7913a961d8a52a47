import SchemaCompiler.Text.Identifier

/-!
# Quoted literals

String and character literals in source text: how far one reaches and which text
it stands for. A length counts the characters after the opening quote, up to and
including the closing one.
-/

namespace SchemaCompiler.Source

structure QuoteRules where
  plain : Char → Bool
  /-- The characters that a backslash stands before. -/
  simple : List Char
  hex : Nat → Bool
  unicode : Nat → Bool

namespace QuoteRules

def text : QuoteRules := {
  plain := fun _ => true
  simple := ['n', 'r', 't', '\\', '\'', '"', '0']
  hex := (· < 0x80)
  unicode := fun _ => true }

def bytes : QuoteRules := {
  plain := fun c => c.toNat < 0x80
  simple := ['n', 'r', 't', '\\', '\'', '"', '0']
  hex := fun _ => true
  unicode := fun _ => false }

/-- A string that ends with a zero byte and holds no other. -/
def terminated : QuoteRules := {
  plain := fun c => c.toNat ≠ 0
  simple := ['n', 'r', 't', '\\', '\'', '"']
  hex := (· ≠ 0)
  unicode := (· ≠ 0) }

end QuoteRules

-- ---------------------------------------------------------------------------
-- Escapes
-- ---------------------------------------------------------------------------

def hexDigit? (c : Char) : Option Nat :=
  if '0' ≤ c ∧ c ≤ '9' then some (c.toNat - '0'.toNat)
  else if 'a' ≤ c ∧ c ≤ 'f' then some (c.toNat - 'a'.toNat + 10)
  else if 'A' ≤ c ∧ c ≤ 'F' then some (c.toNat - 'A'.toNat + 10)
  else none

/-- The value and length of one to six hexadecimal digits and the brace after them.
Underscores may stand behind a digit. -/
def bracedHex? (value digits : Nat) : List Char → Option (Nat × Nat)
  | [] => none
  | c :: rest =>
    if c = '_' ∧ 0 < digits then
      (bracedHex? value digits rest).map fun (v, n) => (v, n + 1)
    else if c = '}' ∧ 0 < digits then some (value, 1)
    else match hexDigit? c with
      | none => none
      | some digit =>
        if digits = 6 then none
        else (bracedHex? (16 * value + digit) (digits + 1) rest).map fun (v, n) => (v, n + 1)

def simpleEscape : Char → Char
  | 'n' => '\n'
  | 'r' => '\r'
  | 't' => '\t'
  | '0' => '\x00'
  | c => c

def escape? (rules : QuoteRules) : List Char → Option (Char × Nat)
  | 'x' :: a :: b :: _ =>
    match hexDigit? a, hexDigit? b with
    | some high, some low =>
      let code := 16 * high + low
      if rules.hex code then some (Char.ofNat code, 3) else none
    | _, _ => none
  | 'u' :: '{' :: rest =>
    match bracedHex? 0 0 rest with
    | some (code, length) =>
      if code.isValidChar ∧ rules.unicode code then some (Char.ofNat code, length + 2) else none
    | none => none
  | c :: _ => if c ∈ rules.simple then some (simpleEscape c, 1) else none
  | [] => none

/-- The length of the blanks behind a backslash that ends its line. A text follows
them, and a carriage return only stands before a newline. -/
def continuation? : List Char → Option Nat
  | [] => none
  | '\r' :: '\n' :: rest => (continuation? rest).map (· + 2)
  | c :: rest =>
    if c = '\r' then none
    else if c = ' ' ∨ c = '\t' ∨ c = '\n' then (continuation? rest).map (· + 1)
    else some 0

-- ---------------------------------------------------------------------------
-- Bodies
-- ---------------------------------------------------------------------------

def grow (value : List Char) (body : List Char × Nat) : List Char × Nat :=
  (value ++ body.1, body.2 + 1)

/-- The text and length of a quoted body, when `skip` characters of it are read
already. A line end is one newline. -/
def quotedBody? (rules : QuoteRules) (skip : Nat) : List Char → Option (List Char × Nat)
  | [] => none
  | c :: rest =>
    match skip with
    | skip + 1 => (quotedBody? rules skip rest).map (grow [])
    | 0 =>
      if c = '"' then some ([], 1)
      else if c = '\r' then
        if rest.head? = some '\n' then (quotedBody? rules 0 rest).map (grow []) else none
      else if c = '\\' then
        match rest with
        | '\n' :: _ | '\r' :: _ =>
          match continuation? rest with
          | some length => (quotedBody? rules length rest).map (grow [])
          | none => none
        | _ =>
          match escape? rules rest with
          | some (char, length) => (quotedBody? rules length rest).map (grow [char])
          | none => none
      else if rules.plain c then (quotedBody? rules 0 rest).map (grow [c])
      else none

def rawBody? (rules : QuoteRules) (hashes : List Char) : List Char → Option (List Char × Nat)
  | [] => none
  | c :: rest =>
    if c = '"' ∧ hashes.isPrefixOf rest then some ([], hashes.length + 1)
    else if c = '\r' ∧ rest.head? ≠ some '\n' then none
    else if rules.plain c then (rawBody? rules hashes rest).map (grow [c])
    else none

/-- The text and length of a raw literal, from its hashes on. -/
def raw? (rules : QuoteRules) (cs : List Char) : Option (List Char × Nat) :=
  let hashes := cs.takeWhile (· = '#')
  match cs.drop hashes.length with
  | '"' :: rest =>
    if hashes.length ≤ 255 then
      (rawBody? rules hashes rest).map fun (value, length) => (value, hashes.length + 1 + length)
    else none
  | _ => none

def quotedCharacter? (rules : QuoteRules) : List Char → Option Nat
  | '\\' :: rest =>
    match escape? rules rest with
    | some (_, length) => if rest[length]? = some '\'' then some (length + 2) else none
    | none => none
  | c :: '\'' :: _ => if rules.plain c then some 2 else none
  | _ => none

end SchemaCompiler.Source
