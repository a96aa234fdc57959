import Conveyance.Json.Value

/-!
# Json/Reader — JSON text read into values

`Json.lex?` cuts a text into lexemes and `Json.read?` runs a push-down reader over them: it keeps the
arrays and objects that are open, and each lexeme either fits where it stands or the text is refused.
Arrays and objects may lie **up to 127 deep** in one another.
-/

namespace Conveyance.Json

/-! ## Strings -/

/-- The value of a hexadecimal digit. -/
def hexValue? (c : Char) : Option Nat :=
  if c.isDigit then some (c.toNat - 48)
  else if 'a' ≤ c && c ≤ 'f' then some (c.toNat - 87)
  else if 'A' ≤ c && c ≤ 'F' then some (c.toNat - 55)
  else none

/-- The number of four hexadecimal digits. -/
def readHex? : Text → Option (Nat × Text)
  | a :: b :: c :: d :: t => do
    let a ← hexValue? a
    let b ← hexValue? b
    let c ← hexValue? c
    let d ← hexValue? d
    return (4096 * a + 256 * b + 16 * c + d, t)
  | _ => none

theorem length_of_readHex? {t rest : Text} {n : Nat} (h : readHex? t = some (n, rest)) :
    rest.length < t.length := by
  unfold readHex? at h
  split at h
  · simp only [Option.bind_eq_bind, Option.bind_eq_some_iff, Option.pure_def, Option.some.injEq,
      Prod.mk.injEq] at h
    obtain ⟨_, _, _, _, _, _, _, _, _, rfl⟩ := h
    simp only [List.length_cons]
    omega
  · cases h

/-- The low half of a character beyond the 16-bit range, after its high half. -/
def readLowHalf? (high : Nat) : Text → Option (Char × Text)
  | '\\' :: 'u' :: t =>
    (readHex? t).bind fun (low, rest) =>
      if 0xDC00 ≤ low && low ≤ 0xDFFF then
        some (Char.ofNat (0x10000 + (high - 0xD800) * 0x400 + (low - 0xDC00)), rest)
      else none
  | _ => none

theorem length_of_readLowHalf? {high : Nat} {t rest : Text} {c : Char}
    (h : readLowHalf? high t = some (c, rest)) : rest.length < t.length := by
  unfold readLowHalf? at h
  split at h
  · obtain ⟨⟨low, rest'⟩, hlow, h⟩ := Option.bind_eq_some_iff.1 h
    have hlen := length_of_readHex? hlow
    dsimp only at h
    split at h
    · obtain ⟨_, rfl⟩ := Prod.mk.inj (Option.some.inj h)
      simp only [List.length_cons]
      omega
    · cases h
  · cases h

/-- A character written in hexadecimal; **half of a pair alone is refused**. -/
def readUnicode? (t : Text) : Option (Char × Text) :=
  (readHex? t).bind fun (n, rest) =>
    if n < 0xD800 || 0xDFFF < n then some (Char.ofNat n, rest)
    else if n < 0xDC00 then readLowHalf? n rest
    else none

theorem length_of_readUnicode? {t rest : Text} {c : Char} (h : readUnicode? t = some (c, rest)) :
    rest.length < t.length := by
  obtain ⟨⟨n, rest'⟩, hhex, h⟩ := Option.bind_eq_some_iff.1 h
  have hlen := length_of_readHex? hhex
  dsimp only at h
  split at h
  · obtain ⟨_, rfl⟩ := Prod.mk.inj (Option.some.inj h)
    exact hlen
  · split at h
    · exact Nat.lt_trans (length_of_readLowHalf? h) hlen
    · cases h

/-- The character that a letter after a backslash stands for. -/
def escapeValue? : Char → Option Char
  | '"' => some '"'
  | '\\' => some '\\'
  | '/' => some '/'
  | 'b' => some (Char.ofNat 8)
  | 'f' => some (Char.ofNat 12)
  | 'n' => some '\n'
  | 'r' => some '\r'
  | 't' => some '\t'
  | _ => none

/-- One character of a string, escapes read. -/
def readChar? : Text → Option (Char × Text)
  | [] => none
  | '\\' :: t =>
    match t with
    | [] => none
    | c :: rest => if c = 'u' then readUnicode? rest else (escapeValue? c).map (·, rest)
  | c :: t => if c.toNat < 32 then none else some (c, t)

theorem length_of_readChar? {t rest : Text} {c : Char} (h : readChar? t = some (c, rest)) :
    rest.length < t.length := by
  unfold readChar? at h
  split at h
  · cases h
  · split at h
    · cases h
    · split at h
      · have := length_of_readUnicode? h
        simp only [List.length_cons]
        omega
      · obtain ⟨_, _, heq⟩ := Option.map_eq_some_iff.1 h
        cases heq
        simp only [List.length_cons]
        omega
  · split at h
    · cases h
    · cases h
      simp

/-- A string up to its closing quote. -/
def readString? (t : Text) : Option (Text × Text) :=
  match t with
  | '"' :: rest => some ([], rest)
  | t =>
    match h : readChar? t with
    | some (c, rest) =>
      have := length_of_readChar? h
      (readString? rest).map fun (s, after) => (c :: s, after)
    | none => none
termination_by t.length

/-! ## Numbers -/

/-- A run of digits that is not empty. -/
def readDigits? (t : Text) : Option (Text × Text) :=
  let ds := t.takeWhile Char.isDigit
  if ds.isEmpty then none else some (ds, t.dropWhile Char.isDigit)

/-- The whole part of a number: **a zero stands alone**. -/
def readWhole? : Text → Option (Text × Text)
  | '0' :: t => some (['0'], t)
  | t => readDigits? t

/-- A point and digits, if there is a point. -/
def readPlaces? : Text → Option (Text × Text)
  | '.' :: t => (readDigits? t).map fun (ds, rest) => ('.' :: ds, rest)
  | t => some ([], t)

/-- A power of ten, if there is one. -/
def readPower? : Text → Option (Text × Text)
  | c :: t =>
    if c = 'e' || c = 'E' then
      match t with
      | '+' :: t => (readDigits? t).map fun (ds, rest) => (c :: '+' :: ds, rest)
      | '-' :: t => (readDigits? t).map fun (ds, rest) => (c :: '-' :: ds, rest)
      | t => (readDigits? t).map fun (ds, rest) => (c :: ds, rest)
    else some ([], c :: t)
  | [] => some ([], [])

/-- A number, as it is written. -/
def readNumber? (t : Text) : Option (Text × Text) := do
  let (sign, t) := match t with
    | '-' :: t => (['-'], t)
    | t => ([], t)
  let (whole, t) ← readWhole? t
  let (places, t) ← readPlaces? t
  let (power, t) ← readPower? t
  return (sign ++ whole ++ places ++ power, t)

/-! ## Lexemes -/

/-- A lexeme of a JSON text. -/
inductive Lexeme where
  | openArray
  | closeArray
  | openObject
  | closeObject
  | comma
  | colon
  /-- A value that is neither an array nor an object. -/
  | leaf (value : Json)

/-- Blanks between lexemes. -/
def isGap (c : Char) : Bool := c == ' ' || c == '\n' || c == '\t' || c == '\r'

/-- A word that is a value. -/
def readWord? (t : Text) : Option (Json × Text) :=
  ((Text.stripPrefix? "null".toList t).map (null, ·)).or <|
    ((Text.stripPrefix? "true".toList t).map (bool true, ·)).or <|
      (Text.stripPrefix? "false".toList t).map (bool false, ·)

/-- One lexeme at the start of a text. -/
def readLexeme? : Text → Option (Lexeme × Text)
  | [] => none
  | '[' :: t => some (.openArray, t)
  | ']' :: t => some (.closeArray, t)
  | '{' :: t => some (.openObject, t)
  | '}' :: t => some (.closeObject, t)
  | ',' :: t => some (.comma, t)
  | ':' :: t => some (.colon, t)
  | '"' :: t => (readString? t).map fun (s, rest) => (.leaf (string s), rest)
  | t =>
    match readWord? t with
    | some (v, rest) => some (.leaf v, rest)
    | none => (readNumber? t).map fun (n, rest) => (.leaf (number n), rest)

/-- The lexemes of a text.  A lexeme takes at least one character, so a text has no more lexemes
than characters, and `limit` of those steps are enough. -/
def lexWithin? : (limit : Nat) → Text → Option (List Lexeme)
  | 0, t => if t.all isGap then some [] else none
  | limit + 1, t =>
    match t.dropWhile isGap with
    | [] => some []
    | t => (readLexeme? t).bind fun (lexeme, rest) => (lexWithin? limit rest).map (lexeme :: ·)

/-- **The lexemes of a text.** -/
def lex? (t : Text) : Option (List Lexeme) := lexWithin? t.length t

/-! ## The push-down reader -/

/-- An array or an object that is open. -/
inductive Frame where
  | array (items : List Json)
  | object (members : List (Text × Json))
  /-- An object with the name of a member whose value is to follow. -/
  | member (members : List (Text × Json)) (name : Text)

/-- Where the reader stands; the frames are the innermost first. -/
inductive Position where
  /-- A value must follow. -/
  | value (frames : List Frame)
  /-- An array or an object has just been opened. -/
  | start (frames : List Frame)
  /-- The name of a member must follow. -/
  | name (frames : List Frame)
  /-- The colon of a member must follow. -/
  | colon (frames : List Frame)
  /-- A comma or a closing bracket must follow. -/
  | after (frames : List Frame)
  /-- The text is complete. -/
  | done (value : Json)

namespace Position

/-- How deep arrays and objects may lie in one another. -/
def maxDepth : Nat := 127

/-- A value is complete. -/
def complete? (v : Json) : List Frame → Option Position
  | [] => some (done v)
  | .array items :: frames => some (after (.array (items ++ [v]) :: frames))
  | .member members n :: frames => some (after (.object (members ++ [(n, v)]) :: frames))
  | .object _ :: _ => none

/-- The first lexeme of a value. -/
def begin? (frames : List Frame) : Lexeme → Option Position
  | .leaf v => complete? v frames
  | .openArray => if frames.length < maxDepth then some (start (.array [] :: frames)) else none
  | .openObject => if frames.length < maxDepth then some (start (.object [] :: frames)) else none
  | _ => none

/-- **One lexeme.** -/
def step? : Position → Lexeme → Option Position
  | value frames, lexeme => begin? frames lexeme
  | start (.array _ :: frames), .closeArray => complete? (.array []) frames
  | start (.array items :: frames), lexeme => begin? (.array items :: frames) lexeme
  | start (.object _ :: frames), .closeObject => complete? (.object []) frames
  | start (.object members :: frames), .leaf (.string n) =>
    some (colon (.member members n :: frames))
  | name (.object members :: frames), .leaf (.string n) =>
    some (colon (.member members n :: frames))
  | colon frames, .colon => some (value frames)
  | after (.array items :: frames), .comma => some (value (.array items :: frames))
  | after (.array items :: frames), .closeArray => complete? (.array items) frames
  | after (.object members :: frames), .comma => some (name (.object members :: frames))
  | after (.object members :: frames), .closeObject => complete? (.object members) frames
  | _, _ => none

end Position

/-- **The value of a JSON text.** -/
def read? (t : Text) : Option Json := do
  let lexemes ← lex? t
  match ← lexemes.foldlM Position.step? (Position.value []) with
  | .done v => some v
  | _ => none

/-! ## Size of numbers -/

/-- The digits of a number without its point, and the power of ten they are to be taken at. -/
def significand (literal : Text) : Nat × Int :=
  let mantissa := literal.takeWhile fun c => c != 'e' && c != 'E'
  let power := literal.dropWhile fun c => c != 'e' && c != 'E'
  let whole := mantissa.takeWhile (· != '.')
  let places := (mantissa.dropWhile (· != '.')).drop 1
  let powerDigits := power.filter Char.isDigit
  let size : Int := Text.digitsValue powerDigits
  (Text.digitsValue ((whole ++ places).filter Char.isDigit),
    (if power.contains '-' then -size else size) - places.length)

/-- **The number is within the range of double precision**: less than half a unit beyond the largest
finite one. -/
def isInRange (literal : Text) : Bool :=
  let (n, e) := significand literal
  let digits : Int := (Nat.toDigits 10 n).length
  if n = 0 || digits + e < 300 then true
  else if 320 < digits + e then false
  else if 0 ≤ e then n * tenTo e.toNat < twoTo 1024 - twoTo 970
  else n < (twoTo 1024 - twoTo 970) * tenTo (-e).toNat

mutual

/-- Every number of a value is within the range of double precision. -/
def numbersInRange : Json → Bool
  | number literal => isInRange literal
  | array items => itemsInRange items
  | object members => membersInRange members
  | _ => true

/-- Every number of the items is within range. -/
def itemsInRange : List Json → Bool
  | [] => true
  | item :: rest => numbersInRange item && itemsInRange rest

/-- Every number of the members is within range. -/
def membersInRange : List (Text × Json) → Bool
  | [] => true
  | (_, value) :: rest => numbersInRange value && membersInRange rest

end

end Conveyance.Json
