/-!
# Texts and keys in TOML

A text stands in double quotes, with escapes, or in single quotes, without.  Three quotes on each side let it
run over several lines; a line break right behind the opening quotes does not count, and in front of the closing
quotes there may be up to two quotes that belong to the text.  A key is a list of names with dots between them.
-/

namespace EnergyGateway.Toml

def isBlank (c : Char) : Bool := c == ' ' || c == '\t'

def skipBlanks (cs : List Char) : List Char := cs.dropWhile isBlank

/-- The characters that stand for themselves on a line: tabs, and all that are no control characters. -/
def isPlain (c : Char) : Bool := c == '\t' || (0x20 ≤ c.toNat && c.toNat != 0x7F)

/-- The value of hexadecimal digits. -/
def hex? (cs : List Char) : Option Nat :=
  cs.foldlM (fun n c => (hexDigit? c).map (16 * n + ·)) 0
where
  hexDigit? (c : Char) : Option Nat :=
    if c.isDigit then some (c.toNat - '0'.toNat)
    else if 'a' ≤ c ∧ c ≤ 'f' then some (c.toNat - 'a'.toNat + 10)
    else if 'A' ≤ c ∧ c ≤ 'F' then some (c.toNat - 'A'.toNat + 10)
    else none

/-- The character of a code point in hexadecimal. -/
def codePoint? (digits : List Char) : Option Char :=
  (hex? digits).bind fun n => if Nat.isValidChar n then some (Char.ofNat n) else none

/-- The character that a backslash and a letter stand for. -/
def escaped? : Char → Option Char
  | 'b' => some '\x08'
  | 't' => some '\t'
  | 'n' => some '\n'
  | 'f' => some '\x0c'
  | 'r' => some '\r'
  | 'e' => some '\x1b'
  | '"' => some '"'
  | '\\' => some '\\'
  | _ => none

/-- A text in front of the rest of what is read. -/
abbrev Read := Option (List Char × List Char)

/-- Put a character in front of a text. -/
def Read.push (c : Char) (r : Read) : Read := r.map fun (text, rest) => (c :: text, rest)

/-- A text up to the double quote that ends it. -/
def basic : List Char → Read
  | [] => none
  | '"' :: rest => some ([], rest)
  | '\\' :: 'x' :: a :: b :: rest => (codePoint? [a, b]).bind fun u => (basic rest).push u
  | '\\' :: 'u' :: a :: b :: c :: d :: rest => (codePoint? [a, b, c, d]).bind fun u => (basic rest).push u
  | '\\' :: 'U' :: a :: b :: c :: d :: e :: f :: g :: h :: rest =>
    (codePoint? [a, b, c, d, e, f, g, h]).bind fun u => (basic rest).push u
  | '\\' :: c :: rest => (escaped? c).bind fun u => (basic rest).push u
  | c :: rest => if isPlain c then (basic rest).push c else none

/-- A text up to the single quote that ends it. -/
def literal : List Char → Read
  | [] => none
  | '\'' :: rest => some ([], rest)
  | c :: rest => if isPlain c then (literal rest).push c else none

/-- Whether nothing but blanks stands in front of the end of the line. -/
def lineIsOver (cs : List Char) : Bool :=
  match skipBlanks cs with
  | '\n' :: _ | '\r' :: '\n' :: _ => true
  | _ => false

/-- A text of several lines up to the double quotes that end it.  A backslash at the end of a line
makes `skipping` begin: all blanks and line breaks are left out up to the next character. -/
def basicLines (skipping : Bool) : List Char → Read
  | [] => none
  | '"' :: '"' :: '"' :: '"' :: '"' :: rest => some (['"', '"'], rest)
  | '"' :: '"' :: '"' :: '"' :: rest => some (['"'], rest)
  | '"' :: '"' :: '"' :: rest => some ([], rest)
  | '\r' :: '\n' :: rest => if skipping then basicLines true rest else ((basicLines false rest).push '\n').push '\r'
  | '\n' :: rest => if skipping then basicLines true rest else (basicLines false rest).push '\n'
  | '\\' :: 'x' :: a :: b :: rest => (codePoint? [a, b]).bind fun u => (basicLines false rest).push u
  | '\\' :: 'u' :: a :: b :: c :: d :: rest => (codePoint? [a, b, c, d]).bind fun u => (basicLines false rest).push u
  | '\\' :: 'U' :: a :: b :: c :: d :: e :: f :: g :: h :: rest =>
    (codePoint? [a, b, c, d, e, f, g, h]).bind fun u => (basicLines false rest).push u
  | '\\' :: c :: rest =>
    if lineIsOver (c :: rest) then basicLines true (c :: rest)
    else (escaped? c).bind fun u => (basicLines false rest).push u
  | c :: rest =>
    if skipping && isBlank c then basicLines true rest
    else if isPlain c then (basicLines false rest).push c
    else none

/-- A text of several lines up to the single quotes that end it. -/
def literalLines : List Char → Read
  | [] => none
  | '\'' :: '\'' :: '\'' :: '\'' :: '\'' :: rest => some (['\'', '\''], rest)
  | '\'' :: '\'' :: '\'' :: '\'' :: rest => some (['\''], rest)
  | '\'' :: '\'' :: '\'' :: rest => some ([], rest)
  | '\r' :: '\n' :: rest => ((literalLines rest).push '\n').push '\r'
  | '\n' :: rest => (literalLines rest).push '\n'
  | c :: rest => if isPlain c then (literalLines rest).push c else none

/-- A line break in front, which does not count behind opening quotes. -/
def dropLineBreak : List Char → List Char
  | '\n' :: rest | '\r' :: '\n' :: rest => rest
  | cs => cs

/-- The text in front, with its quotes. -/
def text? : List Char → Read
  | '"' :: '"' :: '"' :: rest => basicLines false (dropLineBreak rest)
  | '\'' :: '\'' :: '\'' :: rest => literalLines (dropLineBreak rest)
  | '"' :: rest => basic rest
  | '\'' :: rest => literal rest
  | _ => none

/-! ### Keys -/

def isBare (c : Char) : Bool := c.isAlphanum || c == '_' || c == '-'

/-- The name in front: in quotes on one line, or bare. -/
def name? : List Char → Read
  | '"' :: rest => basic rest
  | '\'' :: rest => literal rest
  | cs => if (cs.takeWhile isBare).isEmpty then none else some (cs.takeWhile isBare, cs.dropWhile isBare)

/-- The key in front, each name of which takes fuel. -/
def keyParts? : Nat → List Char → Option (List String × List Char)
  | 0, _ => none
  | fuel + 1, cs => do
    let (name, rest) ← name? (skipBlanks cs)
    match skipBlanks rest with
    | '.' :: rest =>
      let (names, rest) ← keyParts? fuel rest
      return (String.ofList name :: names, rest)
    | rest => return ([String.ofList name], rest)

/-- How many names a key may have. -/
def maxNames : Nat := 80

/-- The key in front, with blanks around its names. -/
def key? (cs : List Char) : Option (List String × List Char) :=
  (keyParts? (cs.length + 1) cs).filter (·.1.length ≤ maxNames)

end EnergyGateway.Toml
